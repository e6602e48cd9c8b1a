import TableStructs.Json.Printer
import TableStructs.Report
import TableStructs.Workspace

/-!
The tools: converting a dump, checking a dump, and showing the Go type of one SQL type. Each takes
its arguments as JSON and gives one `Reply`. A tool answers with the failures that concern its
input; others come out of the call (`call`).

The input is either a text among the arguments or a file. The file is read before the output is
opened, so both may be one file.
-/
namespace TableStructs

/-- How dumps are converted: the types, and the key of tags if it is not that of the settings. -/
structure Converter where
  types : TypeTable := .builtin
  tagKey : Option Text := none

namespace Converter

/-! ### Converting -/

/-- The key of tags. An empty one stands for that of the settings. -/
def getTagKey (c : Converter) : Action Text :=
  match c.tagKey with
  | some (k :: key) => return k :: key
  | _ => do return (← Action.getSettings).tagKey

/-- The structs of a dump; an input that ends in a failure fails behind all its lines. -/
def structs (c : Converter) (tagged : Bool) (input : Lines) : Action (List Struct) := do
  let conversion := convert c.types tagged input.lines
  Action.note (conversion.notices.map .notice)
  match conversion.result, input.failure with
  | .error e, _ => throw (.line e)
  | .ok _, some e => throw (.decode e)
  | .ok structs, none =>
    Action.note (conversion.endNotices.map .notice)
    return structs

/-- The Go source of structs. The key of tags is asked for only if there are tags. -/
def render (c : Converter) (structs : List Struct) : Action Text := do
  let key ← if structs.any (·.isTagged) then c.getTagKey else pure []
  return goSource key structs

/-- The Go source of a dump. -/
def source (c : Converter) (tagged : Bool) (input : Lines) : Action Text := do
  c.render (← c.structs tagged input)

/-! ### Files -/

/-- The normal form of an input path, which has to be there and to hold `.sql` somewhere. -/
def inputPath (path : Json.Value) : Action Text :=
  if !path.holds then throw (.usage .noInput)
  else if !Text.has ".sql".toText path.shown then throw (.usage (.noDump path.shown))
  else match path with
    | .str path => return Path.normal path
    | other => throw (.notPath other.kind)

/-- Writes Go source to an output file, if one is given. -/
def writeOutput (source : Log.Source) (output : Json.Value) (go : Text) : Action Unit := do
  if output.holds then
    Action.note [.writing source output.shown]
    match output with
    | .str path => Action.writeText path go (← Action.getSettings).encoding
    | other => throw (.notPath other.kind)

/-- The Go source of a dump in a file, which is also written to an output file if one is given. -/
def convertFile (c : Converter) (input output : Json.Value) (tagged : Bool) : Action Text := do
  let path ← inputPath input
  let settings ← Action.getSettings
  let lines ← Action.readLines path settings.encoding
  let go ← c.source tagged lines
  writeOutput .converter output go
  return go

end Converter

/-! ### Replies -/

/-- What a tool answers. -/
inductive Reply
  | generated (output : Option Text) (go : Text)
  | checked (report : Report)
  | mapped (sqlType goType : Text)
  | unknownTool (name : Text)
  | failed (f : Failure)

namespace Reply

/-- Texts as items of a list, one on each line. -/
def bullets (items : List Text) : Text := items.flatMap fun item => "- ".toText ++ item ++ [.char '\n']

/-- A number in parentheses and a colon, in bold type. -/
def counted (n : Nat) : Text := " (".toText ++ Text.decimal n ++ "):**\n".toText

/-- The reply of a check. -/
def reportText (r : Report) : Text :=
  (if r.isValid then "✅ **Dump validation passed!**\n\n".toText
    else
      "❌ **Dump validation failed!**\n\n".toText ++
        "🚨 **Errors found".toText ++ counted r.problems.length ++
        bullets (r.problems.map Problem.message) ++ [.char '\n']) ++
    "📊 **Dump Summary:**\n".toText ++
    bullets
      ["Tables: ".toText ++ Text.decimal r.tableCount,
        "Columns: ".toText ++ Text.decimal r.columnCount,
        "Skipped constraints: ".toText ++ Text.decimal r.skipped] ++
    (if r.warnings.isEmpty then []
      else
        "\n⚠️ **Warnings".toText ++ counted r.warnings.length ++
          bullets (r.warnings.map Warning.message)) ++
    "\n\x60\x60\x60json\n".toText ++ Json.countsBlock r.structs ++ "\n\x60\x60\x60".toText

/-- How the reply with a failure begins. -/
def heading : Failure → Text
  | .usage _ => "❌ **Usage error:** ".toText
  | .line _ => "❌ **Conversion failed:** ".toText
  | _ => "❌ **I/O error:** ".toText

/-- The text of a reply. -/
def text : Reply → Text
  | generated output go =>
    (match output with
      | some path => "✅ **Go structs generated.** Writing to ".toText ++ path ++ "\n\n".toText
      | none => "✅ **Go structs generated:**\n\n".toText) ++
      "\x60\x60\x60go\n".toText ++ go ++ "\x60\x60\x60".toText
  | checked report => reportText report
  | mapped sqlType goType =>
    "\x60".toText ++ sqlType ++ "\x60 → \x60".toText ++ goType ++ "\x60".toText
  | unknownTool name => "Unknown tool: ".toText ++ name
  | failed f => heading f ++ f.message

end Reply

/-! ### Tools -/

/-- The tools. -/
inductive Tool
  | convert
  | check
  | mapType
deriving DecidableEq

namespace Tool

/-- All tools. -/
def all : List Tool := [convert, check, mapType]

/-- The name by which a tool is called. -/
def name : Tool → Text
  | convert => "sql_to_go_structs".toText
  | check => "validate_sql_dump".toText
  | mapType => "map_sql_type".toText

/-- The tool with a name. -/
def ofName? (name : Text) : Option Tool := all.find? (·.name = name)

/-- An argument, null if it is not there. -/
def argument (arguments : Json.Members) (name : String) : Json.Value :=
  (arguments.lookup name.toText).getD .null

/-- The lines of a dump that is given as a text. -/
def inlineLines (content : Json.Value) : Action (List Text) :=
  match content with
  | .str text => return Text.lines .inline text
  | other => throw (.notText other.kind .cutting)

/-- Converts a dump. -/
def runConvert (c : Converter) (arguments : Json.Members) : Action Reply := do
  let output := argument arguments "output_file"
  let settings ← Action.getSettings
  let tagged :=
    match arguments.lookup "include_json".toText with
    | some v => v.holds
    | none => settings.includeJson
  let content := argument arguments "sql_content"
  let go ←
    if content.holds then do
      let lines ← inlineLines content
      let go ← c.source tagged { lines }
      Converter.writeOutput .server output go
      pure go
    else c.convertFile (argument arguments "input_path") output tagged
  return .generated (if output.holds then some output.shown else none) go

/-- The lines of a dump, all of which have to be readable. -/
def dumpLines (arguments : Json.Members) : Action (List Text) := do
  let content := argument arguments "sql_content"
  if content.holds then inlineLines content
  else
    let path ← Converter.inputPath (argument arguments "input_path")
    let settings ← Action.getSettings
    let input ← Action.readLines path settings.encoding
    match input.failure with
    | some e => throw (.decode e)
    | none => return input.lines

/-- Checks a dump. -/
def runCheck (c : Converter) (arguments : Json.Members) : Action Reply := do
  return .checked (TableStructs.check c.types (← dumpLines arguments))

/-- Shows the Go type of an SQL type. -/
def runMapType (c : Converter) (arguments : Json.Members) : Action Reply :=
  match (arguments.lookup "sql_type".toText).getD (.str []) with
  | .str given =>
    let sqlType := Text.trim given
    if sqlType.isEmpty then throw (.usage .noType)
    else
      match c.types.map sqlType none with
      | .ok go => return .mapped sqlType go
      | .error e => throw (.line e)
  | other => throw (.notText other.kind .trimming)

/-- Runs a tool. -/
def run (c : Converter) (arguments : Json.Members) : Tool → Action Reply
  | convert => runConvert c arguments
  | check => runCheck c arguments
  | mapType => runMapType c arguments

/-- Turns a failure into a reply, if it is one that the tool answers with. -/
def answer (name : Text) (f : Failure) : Action Reply :=
  if f.isAnswer then do
    Action.note [.failed name f]
    return .failed f
  else throw f

/-- Calls the tool with a name. -/
def call (c : Converter) (name : Text) (arguments : Json.Members) : Action Reply :=
  match ofName? name with
  | none => return .unknownTool name
  | some tool => tryCatch (tool.run c arguments) (answer name)

end Tool
end TableStructs
