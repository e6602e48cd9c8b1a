import TableStructs.Text.Basic

/-!
Which Go type a column's SQL type becomes. Whole types are looked up first; then the prefix rules
are tried in order, and the first that fits decides.
-/
namespace TableStructs

/-- The rules from SQL types to Go types. -/
structure TypeTable where
  /-- Types taken whole; an earlier entry hides a later one for the same type. -/
  exact : List (Text × Text)
  /-- Types by how they begin, in the order in which they are tried. -/
  prefixes : List (Text × Text)

namespace TypeTable

/-- The rules to begin with. Types without a better match become strings. -/
def builtin : TypeTable where
  exact :=
    [("bigint", "int64"), ("integer", "int"), ("smallint", "int16"), ("text[]", "[]string"),
      ("jsonb", "json.RawMessage"), ("boolean", "bool"), ("bytea", "[]byte"), ("text", "string"),
      ("date", "string"), ("uuid", "string"), ("interval", "string"), ("\"char\"", "string"),
      ("inet", "string")].map fun (sql, go) => (sql.toText, go.toText)
  prefixes :=
    [("public.", "string"), ("numeric", "float32"), ("timestamp", "string"),
      ("character", "string")].map fun (sql, go) => (sql.toText, go.toText)

/-- The Go type of an SQL type, if a rule fits. -/
def goType? (t : TypeTable) (sqlType : Text) : Option Text :=
  match t.exact.lookup sqlType with
  | some go => some go
  | none => (t.prefixes.find? fun rule => rule.1.isPrefixOf sqlType).map (·.2)

/-- A rule for a whole type, which replaces one for the same type. -/
def addExact (t : TypeTable) (sqlType go : Text) : TypeTable :=
  { t with exact := (sqlType, go) :: t.exact }

/-- A rule for how types begin, tried after all others. -/
def addPrefix (t : TypeTable) (beginning go : Text) : TypeTable :=
  { t with prefixes := t.prefixes ++ [(beginning, go)] }

end TypeTable
end TableStructs
