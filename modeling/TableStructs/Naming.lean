import TableStructs.Text.Upper

/-!
Names of Go declarations from names in a dump. Words between underscores become words with a
capital, and a struct is named in the singular: its table's name less one final `s`, also where
that `s` is no plural (`status` gives `Statu`).
-/
namespace TableStructs

/-- A word with its first code point in upper case. -/
def capitalized : Text → Text
  | [] => []
  | c :: rest => Text.upper c ++ rest

/-- The words between underscores, each with a capital, written together. -/
def camelCase (name : Text) : Text := (Text.split '_' name).flatMap capitalized

/-- A name less one final `s`. -/
def singular (name : Text) : Text := Text.dropEnd 's' name

/-- The name of a table's struct. -/
def structName (table : Text) : Text := singular (camelCase table)

/-- Endings of table names that are usually singular nouns. -/
def singularEndings : List Text := ["ss".toText, "is".toText, "us".toText]

/-- Whether a table's name looks like a singular noun that ends in `s`. -/
def looksSingular (table : Text) : Bool := singularEndings.any (·.isSuffixOf table)

end TableStructs
