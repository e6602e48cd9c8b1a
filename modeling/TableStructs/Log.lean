import TableStructs.Conversion
import TableStructs.Failure

/-!
What is logged: the notices of conversions, each output file before it is written, and the failures
that tools answer with.
-/
namespace TableStructs.Log

/-- How much a record matters. -/
inductive Level
  | debug
  | info
  | warning
  | error
deriving DecidableEq

/-- The name of a level. -/
def Level.name : Level → Text
  | debug => "DEBUG".toText
  | info => "INFO".toText
  | warning => "WARNING".toText
  | error => "ERROR".toText

/-- The number of a level; more matter more. -/
def Level.number : Level → Nat
  | debug => 10
  | info => 20
  | warning => 30
  | error => 40

/-- The part of the program that a record comes from. -/
inductive Source
  | converter
  | server
deriving DecidableEq

/-- One record. -/
inductive Record
  | notice (n : Conversion.Notice)
  /-- An output file is going to be written. -/
  | writing (source : Source) (path : Text)
  /-- A tool answers with a failure. -/
  | failed (tool : Text) (f : Failure)
deriving DecidableEq

namespace Record

/-- Where a record comes from. -/
def source : Record → Source
  | notice _ => .converter
  | writing source _ => source
  | failed _ _ => .server

/-- How much a record matters. -/
def level : Record → Level
  | notice (.named _ _) => .debug
  | notice (.discarded _ _) => .warning
  | notice (.dropped _) => .warning
  | writing _ _ => .info
  | failed _ _ => .error

/-- The kind of failure, as it begins a record. -/
def heading : Failure → Text
  | .usage _ => "Usage error in ".toText
  | .line _ => "Conversion failed in ".toText
  | _ => "I/O error in ".toText

/-- What a record says. -/
def message : Record → Text
  | notice (.named table struct) =>
    "Table ".toText ++ table ++ " -> struct ".toText ++ struct
  | notice (.discarded struct line) =>
    "Discarding unterminated struct ".toText ++ struct ++ " at line ".toText ++ Text.decimal line
  | notice (.dropped table) =>
    "Input ended inside table ".toText ++ table ++ "; struct dropped".toText
  | writing _ path => "Writing to ".toText ++ path
  | failed tool f => heading f ++ tool ++ ": ".toText ++ f.message

end Record

/-- The name of a source. -/
def Source.name : Source → Text
  | converter => "converter".toText
  | server => "server".toText

/-- The form of a record with the time, with the names of its parts. -/
def format : Text := "%(asctime)s %(levelname)s %(name)s: %(message)s".toText

end TableStructs.Log
