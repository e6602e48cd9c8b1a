import TableStructs.Tool

/-!
How the tools are described to clients, and the check of arguments against these descriptions. Every
argument is a text or a truth value; some have to be there.
-/
namespace TableStructs.Tool

/-- The types of arguments. -/
inductive ArgumentType
  | string
  | boolean
deriving DecidableEq

namespace ArgumentType

/-- The name of a type. -/
def name : ArgumentType → Text
  | string => "string".toText
  | boolean => "boolean".toText

/-- Whether a value has the type. -/
def admits : ArgumentType → Json.Value → Bool
  | string, .str _ => true
  | boolean, .bool _ => true
  | _, _ => false

end ArgumentType

/-- An argument as it is described. -/
structure Argument where
  name : Text
  type : ArgumentType
  description : Text
  required : Bool := false

/-- An argument that may be left out. -/
def optional (name : String) (type : ArgumentType) (description : String) : Argument :=
  { name := name.toText, type, description := description.toText }

/-- The arguments that give a dump. -/
def inputArguments : List Argument :=
  [ optional "input_path" .string "Path to a PostgreSQL dump file (.sql)",
    optional "sql_content" .string "Inline DDL to convert instead of reading input_path" ]

/-- The arguments of a tool. -/
def parameters : Tool → List Argument
  | convert =>
    inputArguments ++
      [ optional "output_file" .string "Optional output .go file path (overwritten)",
        optional "include_json" .boolean
          "Add json struct tags carrying the original column names" ]
  | check => inputArguments
  | mapType =>
    [ { optional "sql_type" .string "Column type token, e.g. bigint or numeric(10,2)" with
        required := true } ]

/-- What a tool does. -/
def description : Tool → Text
  | convert =>
    "Convert PostgreSQL CREATE TABLE statements to Go struct declarations".toText
  | check =>
    "Check a PostgreSQL dump for lines and types the converter cannot handle".toText
  | mapType => "Show the Go type used for a single PostgreSQL column type".toText

/-! ### Descriptions -/

/-- An object with the given members. -/
def object (members : List (String × Json.Value)) : Json.Value :=
  .obj (members.map fun (name, v) => (name.toText, v))

/-- The description of an argument. -/
def Argument.describe (a : Argument) : Json.Value :=
  object [("type", .str a.type.name), ("description", .str a.description)]

/-- The description of a tool's arguments. -/
def schema (tool : Tool) : Json.Value :=
  let arguments := tool.parameters
  let required := (arguments.filter (·.required)).map fun a => Json.Value.str a.name
  object <|
    [("type", .str "object".toText),
      ("properties", .obj (arguments.map fun a => (a.name, a.describe)))] ++
      if required.isEmpty then [] else [("required", .arr required)]

/-- The description of a tool. -/
def describe (tool : Tool) : Json.Value :=
  object
    [("name", .str tool.name), ("description", .str tool.description),
      ("inputSchema", tool.schema)]

/-! ### The check -/

/-- What is said about an argument that is not there. -/
def missingMessage (a : Argument) : Text :=
  Text.quoted a.name ++ " is a required property".toText

/-- What is said about an argument of a wrong type. -/
def typeMessage (a : Argument) (v : Json.Value) : Text :=
  v.literal ++ " is not of type ".toText ++ Text.quoted a.type.name

/-- Whether texts stand in the order of their code points. -/
def precedes : Text → Text → Bool
  | [], _ => true
  | _ :: _, [] => false
  | c :: s, d :: t => c.toNat < d.toNat || (c = d && precedes s t)

/-- The last in order of the arguments of a wrong type. -/
def worst (wrong : List (Argument × Json.Value)) : Option (Argument × Json.Value) :=
  wrong.foldl
    (fun best a =>
      match best with
      | none => some a
      | some b => if precedes a.1.name b.1.name then some b else some a)
    none

theorem worst_eq_none_iff {wrong : List (Argument × Json.Value)} : worst wrong = none ↔ wrong = [] := by
  -- The search begins without an argument, and keeps one once it has found it.
  have hsome : ∀ (wrong : List (Argument × Json.Value)) (a : Argument × Json.Value),
      (wrong.foldl
        (fun best a =>
          match best with
          | none => some a
          | some b => if precedes a.1.name b.1.name then some b else some a)
        (some a)).isSome := by
    intro wrong
    induction wrong with
    | nil => exact fun _ => rfl
    | cons b wrong ih =>
      intro a
      rw [List.foldl_cons]
      simp only
      split
      · exact ih a
      · exact ih b
  constructor
  · intro h
    cases wrong with
    | nil => rfl
    | cons a wrong =>
      have ha := hsome wrong a
      rw [worst, List.foldl_cons] at h
      simp only at h
      rw [h] at ha
      cases ha
  · rintro rfl
    rfl

/-- What is wrong with arguments, if anything is: an argument of a wrong type before a missing one. -/
def complaint? (tool : Tool) (arguments : Json.Members) : Option Text :=
  let given := tool.parameters.filterMap fun a =>
    (arguments.lookup a.name).map fun v => (a, v)
  match worst (given.filter fun (a, v) => !a.type.admits v) with
  | some (a, v) => some (typeMessage a v)
  | none =>
    (tool.parameters.find? fun a => a.required && (arguments.lookup a.name).isNone).map
      missingMessage

/-- The arguments fit the description of a tool: those that it describes have their types, and those
that it requires are there. -/
structure Fits (tool : Tool) (arguments : Json.Members) : Prop where
  admits : ∀ a ∈ tool.parameters, ∀ v, arguments.lookup a.name = some v → a.type.admits v = true
  given : ∀ a ∈ tool.parameters, a.required = true → (arguments.lookup a.name).isSome = true

/-- There is nothing to say against the arguments that fit, and against no others. -/
theorem complaint?_eq_none_iff {tool : Tool} {arguments : Json.Members} :
    tool.complaint? arguments = none ↔ tool.Fits arguments := by
  let given := tool.parameters.filterMap fun a => (arguments.lookup a.name).map fun v => (a, v)
  have hgiven (a : Argument) (v : Json.Value) :
      (a, v) ∈ given ↔ a ∈ tool.parameters ∧ arguments.lookup a.name = some v := by
    simp only [given, List.mem_filterMap, Option.map_eq_some_iff, Prod.mk.injEq]
    constructor
    · rintro ⟨_, ha, _, hv, rfl, rfl⟩
      exact ⟨ha, hv⟩
    · rintro ⟨ha, hv⟩
      exact ⟨a, ha, v, hv, rfl, rfl⟩
  have hwrong : worst (given.filter fun (a, v) => !a.type.admits v) = none ↔
      ∀ a ∈ tool.parameters, ∀ v, arguments.lookup a.name = some v → a.type.admits v = true := by
    rw [worst_eq_none_iff, List.filter_eq_nil_iff]
    constructor
    · intro h a ha v hv
      simpa using h (a, v) ((hgiven a v).2 ⟨ha, hv⟩)
    · rintro h ⟨a, v⟩ hav
      obtain ⟨ha, hv⟩ := (hgiven a v).1 hav
      simpa using h a ha v hv
  have hmissing : (tool.parameters.find? fun a => a.required && (arguments.lookup a.name).isNone) = none ↔
      ∀ a ∈ tool.parameters, a.required = true → (arguments.lookup a.name).isSome = true := by
    simp [List.find?_eq_none]
  show (match worst (given.filter fun (a, v) => !a.type.admits v) with
    | some (a, v) => some (typeMessage a v)
    | none => _) = none ↔ _
  constructor
  · intro h
    split at h
    · cases h
    · next hnone => exact ⟨hwrong.1 hnone, hmissing.1 (Option.map_eq_none_iff.1 h)⟩
  · intro h
    rw [hwrong.2 h.admits]
    exact Option.map_eq_none_iff.2 (hmissing.2 h.given)

end TableStructs.Tool
