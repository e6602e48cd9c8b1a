import TableStructs.Naming
import TableStructs.TypeTable
import TableStructs.Line

/-!
Go structs. A struct is built one field at a time and keeps two widths for its layout: of its
longest field name, and of the longest type among its tagged fields.
-/
namespace TableStructs

/-- A field of a struct; its tag, if it has one, is the column's name. -/
structure Field where
  name : Text
  goType : Text
  tag : Option Text := none
deriving DecidableEq

/-- A struct with the table that it stands for. -/
structure Struct where
  name : Text
  table : Text := []
  fields : List Field := []
  /-- The length of the longest field name. -/
  nameWidth : Nat := 0
  /-- The length of the longest type of a tagged field. -/
  typeWidth : Nat := 0
deriving DecidableEq

/-! ### Building -/

namespace TypeTable

/-- The Go type of an SQL type, or the error of the line that it stands on. -/
def map (types : TypeTable) (sqlType : Text) (number : Option Int) : Except LineError Text :=
  match types.goType? sqlType with
  | some go => .ok go
  | none => .error (.unmapped sqlType number)

end TypeTable

namespace Field

/-- The field of a column whose type is `goType`. -/
def ofColumn (tagged : Bool) (column : Column) (goType : Text) : Field where
  name := camelCase column.name
  goType := goType
  tag := if tagged then some column.name else none

/-- The field of a column line. -/
def ofLine (types : TypeTable) (tagged : Bool) (line : Text) (number : Option Int) :
    Except LineError Field :=
  match Column.ofLine line number with
  | .error e => .error e
  | .ok column =>
    match types.map column.sqlType number with
    | .error e => .error e
    | .ok goType => .ok (ofColumn tagged column goType)

end Field

namespace Struct

/-- The struct of a table, without fields. -/
def ofTable (table : Text) : Struct where
  name := structName table
  table := table

/-- The struct with one more field. -/
def add (s : Struct) (f : Field) : Struct :=
  { s with
    fields := s.fields ++ [f]
    nameWidth := max s.nameWidth f.name.length
    typeWidth := if f.tag.isSome then max s.typeWidth f.goType.length else s.typeWidth }

/-- Whether a field has a tag. -/
def isTagged (s : Struct) : Bool := s.fields.any (·.tag.isSome)

/-! ### Layout

Field names are padded to the longest one; types are padded only before a tag. -/

/-- A tag with its key, between backticks. -/
def tagText (key tag : Text) : Text :=
  .char '\x60' :: key ++ ":\"".toText ++ tag ++ "\"\x60".toText

/-- The line of a field. -/
def fieldLine (key : Text) (s : Struct) (f : Field) : Text :=
  "  ".toText ++ Text.pad s.nameWidth f.name ++ [.char ' '] ++
    match f.tag with
    | some tag => Text.pad s.typeWidth f.goType ++ [.char ' '] ++ tagText key tag
    | none => f.goType

/-- The declaration of a struct, with an empty line behind it. -/
def render (key : Text) (s : Struct) : Text :=
  "type ".toText ++ s.name ++ " struct \x7b\n".toText ++
    s.fields.flatMap (fun f => fieldLine key s f ++ [.char '\n']) ++ "\x7d\n\n".toText

end Struct

/-- The declarations of all structs. -/
def goSource (key : Text) (structs : List Struct) : Text := structs.flatMap (Struct.render key)

end TableStructs
