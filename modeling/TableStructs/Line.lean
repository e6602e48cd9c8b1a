import TableStructs.Text.Blank
import TableStructs.Text.Quoted

/-!
The lines of a dump. A header opens a table, a terminator closes it; between the two stand columns,
constraints and blank lines, and what stands outside every table is ignored. Whether a line is a
header depends on nothing but the line itself, all else also on whether a table is open.

A header yields the table's name without its schema, a column line its first two words, which are
cut at single spaces.
-/
namespace TableStructs

/-! ### Kinds of line -/

/-- What a line is, given whether a table is open. -/
inductive LineKind
  | header
  | terminator
  | column
  | ignorable
deriving DecidableEq, Repr

/-- What a header holds, anywhere in the line. -/
def headerMark : Text := "CREATE TABLE".toText

/-- All that a terminator holds between white space. -/
def terminatorMark : Text := ");".toText

/-- The first word of a constraint. -/
def constraintWord : Text := "CONSTRAINT".toText

/-- The kind of a line. -/
def LineKind.ofLine (line : Text) (inTable : Bool) : LineKind :=
  if Text.has headerMark line then .header
  else if !inTable then .ignorable
  else if Text.trim line = terminatorMark then .terminator
  else if (Text.trim line).isEmpty || Text.firstWord line = constraintWord then .ignorable
  else .column

/-! ### What makes a line wrong -/

/-- A line that cannot be used, with its number where it is known. -/
inductive LineError
  | malformed (line : Text) (number : Option Int)
  | unmapped (sqlType : Text) (number : Option Int)
deriving DecidableEq

namespace LineError

/-- The place of an error inside its message. -/
def place : Option Int → Text
  | none => []
  | some n => " (line ".toText ++ Text.signed n ++ ")".toText

/-- What is said about the line. -/
def message : LineError → Text
  | malformed line number =>
    "Malformed column line".toText ++ place number ++ ": ".toText ++ Text.quoted line
  | unmapped sqlType number =>
    "Unhandled column type".toText ++ place number ++ ": ".toText ++ sqlType

end LineError

/-! ### Headers -/

/-- The table's name in what follows the header's mark: without a final parenthesis and all up to
the last dot. None if nothing is left. -/
def tableName? (rest : Text) : Option Text :=
  let qualified := Text.trimRight (Text.dropEnd '(' (Text.trim rest))
  let name := Text.afterLast '.' qualified
  if name.isEmpty then none else some name

/-- The table's name in a header. -/
def headerTable? (line : Text) : Option Text := (Text.after? headerMark line).bind tableName?

/-- The table's name in a header, or why there is none. -/
def headerTable (line : Text) (number : Option Int) : Except LineError Text :=
  match headerTable? line with
  | some table => .ok table
  | none => .error (.malformed (Text.trim line) number)

/-! ### Columns -/

/-- A column as the dump has it. -/
structure Column where
  name : Text
  sqlType : Text
deriving DecidableEq

/-- The column of a line: its first two pieces between single spaces, the second one less one comma
at its end. None if there is no second piece. -/
def Column.ofLine? (line : Text) : Option Column :=
  match Text.split ' ' (Text.trim line) with
  | name :: sqlType :: _ => some { name, sqlType := Text.dropEnd ',' sqlType }
  | _ => none

/-- The column of a line, or why there is none. -/
def Column.ofLine (line : Text) (number : Option Int) : Except LineError Column :=
  match Column.ofLine? line with
  | some column => .ok column
  | none => .error (.malformed (Text.trim line) number)

end TableStructs
