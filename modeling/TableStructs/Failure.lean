import TableStructs.Encoding.Names
import TableStructs.FileTree
import TableStructs.Json.Value
import TableStructs.Line

/-!
Everything that can stop a tool, by its cause, with what is said about it. Some failures are
answers of a tool (`Failure.isAnswer`); the others come out of the call.
-/
namespace TableStructs

/-- Arguments that no work can begin with. -/
inductive UsageError
  | noInput
  /-- The input's name, as it is shown, is not that of a dump. -/
  | noDump (shown : Text)
  | noType
deriving DecidableEq

/-- What is said about the arguments. -/
def UsageError.message : UsageError → Text
  | noInput => "No input filepath provided. Use input_path.".toText
  | noDump shown => "Input file must be an .sql file: ".toText ++ shown
  | noType => "sql_type is required".toText

/-- What a value that is no text was to be used for. -/
inductive TextUse
  | trimming
  | cutting
deriving DecidableEq

/-- The name of a use in messages. -/
def TextUse.name : TextUse → Text
  | trimming => "strip".toText
  | cutting => "splitlines".toText

/-- Why a call or a step has no result. -/
inductive Failure
  | usage (e : UsageError)
  | line (e : LineError)
  /-- A line that was taken for a header is none. -/
  | noHeader
  | file (e : FileError)
  | decode (e : Encoding.DecodeError)
  | encode (e : Encoding.EncodeError)
  /-- A name that should be that of an encoding is not. -/
  | encodingName (fault : Encoding.NameFault) (name : Text)
  /-- A path holds the code point zero. -/
  | zeroInPath
  | notPath (kind : Json.Kind)
  | notText (kind : Json.Kind) (use : TextUse)
  /-- A setting that has to be a truth value is set to `word`. -/
  | setting (word : Text)
  | unknownLevel (name : Text)
deriving DecidableEq

namespace Failure

/-- What is said about a failure. -/
def message : Failure → Text
  | usage e => e.message
  | line e => e.message
  | noHeader => "substring not found".toText
  | file e => e.message
  | decode e => e.message
  | encode e => e.message
  | encodingName fault name => fault.message name
  | zeroInPath => "embedded null byte".toText
  | notPath kind => "expected str, bytes or os.PathLike object, not ".toText ++ kind.name
  | notText kind use =>
    "'".toText ++ kind.name ++ "' object has no attribute '".toText ++ use.name ++ "'".toText
  | setting word => "include_json: not a truth value: ".toText ++ Text.quoted word
  | unknownLevel name => "Unknown level: ".toText ++ Text.quoted name

/-- Whether a tool answers with the failure. -/
def isAnswer : Failure → Bool
  | usage _ | line _ | file _ | decode (.bytes _) => true
  | _ => false

end Failure

/-- The table's name in a line that has to be a header. -/
def requireTable (line : Text) (number : Option Int) : Except Failure Text :=
  if Text.has headerMark line then
    match headerTable line number with
    | .ok table => .ok table
    | .error e => .error (.line e)
  else .error .noHeader

end TableStructs
