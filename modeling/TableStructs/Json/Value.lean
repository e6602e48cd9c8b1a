import TableStructs.Decimal.Double
import TableStructs.Text.Quoted

/-!
JSON values: what they are called, which of them hold in a condition, and how a message shows them.
The members of an object keep their order, and whole numbers of any size are kept apart from those
with a point or an exponent.
-/
namespace TableStructs.Json

/-- A JSON value. -/
inductive Value
  | null
  | bool (b : Bool)
  | int (n : Int)
  | real (x : Double)
  | str (s : Text)
  | arr (items : List Value)
  | obj (members : List (Text × Value))
deriving Inhabited

/-- The members of an object. -/
abbrev Members := List (Text × Value)

/-- Puts a member in the place of one with the same name, or at the end. -/
def put (name : Text) (v : Value) : Members → Members
  | [] => [(name, v)]
  | (n, w) :: rest => if n = name then (n, v) :: rest else (n, w) :: put name v rest

/-- The kinds of value. -/
inductive Kind
  | null
  | bool
  | int
  | real
  | str
  | arr
  | obj
deriving DecidableEq

/-- The name of a kind in messages. -/
def Kind.name : Kind → Text
  | null => "NoneType".toText
  | bool => "bool".toText
  | int => "int".toText
  | real => "float".toText
  | str => "str".toText
  | arr => "list".toText
  | obj => "dict".toText

namespace Value

/-- The kind of a value. -/
def kind : Value → Kind
  | null => .null
  | bool _ => .bool
  | int _ => .int
  | real _ => .real
  | str _ => .str
  | arr _ => .arr
  | obj _ => .obj

/-- Whether a value holds in a condition: all but null, false, zero and what is empty. -/
def holds : Value → Bool
  | null => false
  | bool b => b
  | int n => n != 0
  | real x => !x.isZero
  | str s => !s.isEmpty
  | arr items => !items.isEmpty
  | obj members => !members.isEmpty

/-- The member of an object with a name. -/
def get? (name : Text) : Value → Option Value
  | obj members => members.lookup name
  | _ => none

/-! ### How messages show values -/

mutual

/-- A value with all its parts, texts between quotes. -/
def literal : Value → Text
  | null => "None".toText
  | bool b => if b then "True".toText else "False".toText
  | int n => Text.signed n
  | real x => x.text
  | str s => Text.quoted s
  | arr items => "[".toText ++ [.char ',', .char ' '].intercalate (itemLiterals items) ++ "]".toText
  | obj members =>
    "\x7b".toText ++ [.char ',', .char ' '].intercalate (memberLiterals members) ++ "\x7d".toText

def itemLiterals : List Value → List Text
  | [] => []
  | v :: rest => literal v :: itemLiterals rest

def memberLiterals : Members → List Text
  | [] => []
  | (name, v) :: rest =>
    (Text.quoted name ++ [.char ':', .char ' '] ++ literal v) :: memberLiterals rest

end

/-- A value on its own: a text as it is, else the literal. -/
def shown : Value → Text
  | str s => s
  | v => literal v

end Value
end TableStructs.Json
