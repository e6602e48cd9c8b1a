import TableStructs.Text.Upper

/-!
Settings, from environment variables. The variables' names match in any letter case; where several
match, the last one counts. A variable that is set but empty counts too.
-/
namespace TableStructs

/-- The environment variables, by name. -/
abbrev Environment := List (Text × Text)

/-- What can be set. -/
structure Settings where
  /-- Whether fields carry tags unless a call says otherwise. -/
  includeJson : Bool := false
  /-- The key of tags. -/
  tagKey : Text := "json".toText
  /-- The name of the encoding of files. -/
  encoding : Text := "utf-8".toText
  /-- The name of the least level that is logged. -/
  logLevel : Text := "INFO".toText
deriving DecidableEq

namespace Settings

/-! ### Variables -/

/-- A code point in small letters, as far as names of variables need it: the sign for the unit
kelvin is a letter `k` too. -/
def lower (c : CodePoint) : CodePoint := if c = .char '\u212A' then 'k' else c.toLower

/-- The value of the last variable whose name is `name` in any letter case. -/
def lookUp? (env : Environment) (name : String) : Option Text :=
  (env.reverse.find? fun v => v.1.map lower = name.toText).map (·.2)

/-- The words for true and for false, in small letters. -/
def yesWords : List String := ["1", "true", "t", "yes", "y", "on"]
def noWords : List String := ["0", "false", "f", "no", "n", "off"]

/-- The truth value that a word stands for in any letter case. -/
def truth? (word : Text) : Option Bool :=
  let small := word.map CodePoint.toLower
  if yesWords.any (·.toText = small) then some true
  else if noWords.any (·.toText = small) then some false
  else none

/-- The settings that an environment makes, or the value that stands for no truth value. -/
def ofEnvironment (env : Environment) : Except Text Settings :=
  let standard : Settings := {}
  let rest : Settings :=
    { standard with
      tagKey := (lookUp? env "sql2go_tag_key").getD standard.tagKey
      encoding := (lookUp? env "sql2go_encoding").getD standard.encoding
      logLevel := (lookUp? env "sql2go_log_level").getD standard.logLevel }
  match lookUp? env "sql2go_include_json" with
  | none => .ok rest
  | some word =>
    match truth? word with
    | none => .error word
    | some b => .ok { rest with includeJson := b }

/-! ### Log levels -/

/-- The number of a log level, by its name in capitals. -/
def levelNumber? (name : Text) : Option Nat :=
  [("CRITICAL", 50), ("FATAL", 50), ("ERROR", 40), ("WARN", 30), ("WARNING", 30), ("INFO", 20),
    ("DEBUG", 10), ("NOTSET", 0)].findSome? fun (level, number) =>
      if level.toText = name then some number else none

/-- The number of the least level that is logged, or its unknown name. -/
def level (s : Settings) : Except Text Nat :=
  let name := Text.upperAll s.logLevel
  match levelNumber? name with
  | some n => .ok n
  | none => .error name

end Settings
end TableStructs
