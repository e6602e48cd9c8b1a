import TableStructs.Proofs.Writing

/-!
Calls of the tools. The two dump tools begin with their input, a text among the arguments or the file that
these name (`Tool.input`), and go on with its lines alone: `runConvert_eq` and `runCheck_eq` say so
as equations between actions. `runConvert_spec`, `runCheck_spec`, `runMapType_spec` and `call_spec` say
what comes out of a call and which files it leaves, without the workspaces in between. How the input
was given shows in the log only.
-/
namespace TableStructs
open TableStructs.Action

/-! ### Paths and sources -/

namespace Converter
variable {c : Converter} {w : Workspace} {settings : Settings}

/-- The Go source of a dump under some settings, or why there is none. A line in error comes before
the failure in which an input ends. -/
def goSource? (c : Converter) (settings : Settings) (tagged : Bool) (input : Lines) :
    Except Failure Text :=
  match (convert c.types tagged input.lines).result, input.failure with
  | .error e, _ => .error (.line e)
  | .ok _, some e => .error (.decode e)
  | .ok structs, none => .ok (goSource (c.key settings) structs)

theorem quiet_structs (c : Converter) (tagged : Bool) (input : Lines) :
    Quiet (c.structs tagged input) := by
  refine (Quiet.note _).bind fun _ => ?_
  split
  · exact .throw _
  · exact .throw _
  · exact (Quiet.note _).bind fun _ => .pure _

theorem quiet_getTagKey (c : Converter) : Quiet c.getTagKey := by
  unfold getTagKey
  split
  · exact .pure _
  · exact Quiet.getSettings.bind fun _ => .pure _

theorem quiet_source (c : Converter) (tagged : Bool) (input : Lines) : Quiet (c.source tagged input) := by
  refine (quiet_structs c tagged input).bind fun structs => ?_
  unfold render
  split
  · exact (quiet_getTagKey c).bind fun _ => .pure _
  · exact .pure _

/-- The normal form of an input path, or why it is not one. -/
def inputPath? (path : Json.Value) : Except Failure Text :=
  if !path.holds then .error (.usage .noInput)
  else if !Text.has ".sql".toText path.shown then .error (.usage (.noDump path.shown))
  else match path with
    | .str path => .ok (Path.normal path)
    | other => .error (.notPath other.kind)

theorem inputPath?_eq_ok {value : Json.Value} {path : Text} (h : inputPath? value = .ok path) :
    ∃ given, value = .str given ∧ path = Path.normal given := by
  unfold inputPath? at h
  split at h
  · cases h
  split at h
  · cases h
  cases value with
  | str given => exact ⟨given, rfl, (Except.ok.inj h).symm⟩
  | _ => cases h

theorem inputPath?_of_has {path : Text} (h : Text.has ".sql".toText path = true) :
    inputPath? (.str path) = .ok (Path.normal path) := by
  cases path with
  | nil => cases h
  | cons c path =>
    simp only [inputPath?, Json.Value.holds, Json.Value.shown, h]
    rfl

theorem inputPath?_of_no_dump {path : Text} (h : Text.has ".sql".toText path = false) :
    ∃ e, inputPath? (.str path) = .error (.usage e) := by
  cases path with
  | nil => exact ⟨.noInput, rfl⟩
  | cons c path =>
    refine ⟨.noDump (c :: path), ?_⟩
    simp only [inputPath?, Json.Value.holds, Json.Value.shown, h]
    rfl

theorem inputPath_eq (path : Json.Value) :
    inputPath path = match inputPath? path with
      | .ok path => pure path
      | .error f => throw f := by
  unfold inputPath inputPath?
  split
  · rfl
  split
  · rfl
  cases path <;> rfl

theorem result_structs (tagged : Bool) (input : Lines) (w : Workspace) :
    (c.structs tagged input).result w =
      match (convert c.types tagged input.lines).result, input.failure with
      | .error e, _ => .error (.line e)
      | .ok _, some e => .error (.decode e)
      | .ok structs, none => .ok structs := by
  rw [structs, result_bind, result_of_run (note_run _ w)]
  simp only
  cases (convert c.types tagged input.lines).result with
  | error e => rfl
  | ok structs => cases input.failure <;> rfl

theorem result_source (h : w.settings? = .ok settings) (tagged : Bool) (input : Lines) :
    (c.source tagged input).result w = c.goSource? settings tagged input := by
  rw [source, result_bind, result_structs, goSource?]
  cases (convert c.types tagged input.lines).result with
  | error e => rfl
  | ok structs =>
    cases input.failure with
    | some e => rfl
    | none => exact (render_returns (((quiet_structs c tagged input).settings? w).trans h) structs).result

end Converter

namespace Tool
variable {c : Converter} {arguments : Json.Members} {w : Workspace} {settings : Settings}
  {encodings : Encoding.Registry} {files : FileTree}

/-! ### Inputs -/

/-- The input of a call: a text among the arguments, or else the file that they name. -/
def input (arguments : Json.Members) : Action Lines := do
  let content := argument arguments "sql_content"
  if content.holds then
    let lines ← inlineLines content
    return { lines }
  else
    let path ← Converter.inputPath (argument arguments "input_path")
    let settings ← getSettings
    readLines path settings.encoding

/-- The lines of a file among other files. -/
def linesIn (encodings : Encoding.Registry) (files : FileTree) (path encoding : Text) :
    Except Failure Lines :=
  match openFailure? path encoding with
  | some f => .error f
  | none =>
    match files.read path with
    | .error e => .error (.file e)
    | .ok bytes =>
      match encodings encoding with
      | .error fault => .error (.encodingName fault encoding)
      | .ok encoding => .ok (encoding.fileLines bytes)

/-- The input of a call, or why it cannot be had. -/
def input? (encodings : Encoding.Registry) (files : FileTree) (settings : Settings)
    (arguments : Json.Members) : Except Failure Lines :=
  let content := argument arguments "sql_content"
  if content.holds then
    match content with
    | .str text => .ok { lines := Text.lines .inline text }
    | other => .error (.notText other.kind .cutting)
  else
    match Converter.inputPath? (argument arguments "input_path") with
    | .error f => .error f
    | .ok path => linesIn encodings files path settings.encoding

theorem quiet_input (arguments : Json.Members) : Quiet (input arguments) := by
  unfold input
  simp only
  split
  · refine Quiet.bind ?_ fun _ => .pure _
    unfold inlineLines
    split
    · exact .pure _
    · exact .throw _
  · rw [Converter.inputPath_eq]
    refine Quiet.bind ?_ fun _ => Quiet.getSettings.bind fun _ => .readLines _ _
    split
    · exact .pure _
    · exact .throw _

theorem result_readLines (path encoding : Text) (w : Workspace) :
    (readLines path encoding).result w = linesIn w.encodings w.files path encoding := by
  unfold readLines linesIn openFailure? result
  simp only [EStateM.run_bind, usableName_run, usablePath_run]
  cases nameFailure? encoding with
  | some f => rfl
  | none =>
    simp only [Option.none_or]
    cases pathFailure? path with
    | some f => rfl
    | none =>
      simp only [EStateM.run_get]
      cases w.files.read path with
      | error e => rfl
      | ok bytes =>
        simp only [ofFiles, EStateM.run_pure, getEncoding_run]
        cases w.encodings encoding <;> rfl

theorem result_input (h : w.settings? = .ok settings)
    (arguments : Json.Members) :
    (input arguments).result w = input? w.encodings w.files settings arguments := by
  unfold input input?
  simp only
  split
  · cases argument arguments "sql_content" <;> rfl
  · rw [Converter.inputPath_eq]
    cases Converter.inputPath? (argument arguments "input_path") with
    | error f => rfl
    | ok path =>
      simp only [pure_bind]
      rw [result_bind, result_getSettings h, ← Quiet.getSettings.files w, ← Quiet.getSettings.encodings w]
      exact result_readLines path settings.encoding (getSettings.after w)

/-- An input from a file: what was read, and how. -/
theorem input?_of_file {input : Lines} (h : input? encodings files settings arguments = .ok input)
    (hfile : (argument arguments "sql_content").holds = false) :
    ∃ path bytes encoding, argument arguments "input_path" = .str path ∧
      openFailure? (Path.normal path) settings.encoding = none ∧
      files.read (Path.normal path) = .ok bytes ∧
      encodings settings.encoding = .ok encoding ∧ input = encoding.fileLines bytes := by
  simp only [input?, hfile, Bool.false_eq_true, if_false] at h
  split at h
  · cases h
  · next hpath =>
    obtain ⟨path, harg, rfl⟩ := Converter.inputPath?_eq_ok hpath
    unfold linesIn at h
    split at h
    · cases h
    next hopen =>
    split at h
    · cases h
    next bytes hread =>
    split at h
    · cases h
    next encoding hname =>
    exact ⟨path, bytes, encoding, harg, hopen, hread, hname, (Except.ok.inj h).symm⟩

/-- A conversion with the arguments opens a file at the path, its input or its output. -/
inductive Opens (arguments : Json.Members) (path : Text) : Prop
  | input (hcontent : (argument arguments "sql_content").holds = false)
      (hpath : argument arguments "input_path" = .str path)
  | output (houtput : (argument arguments "output_file").holds = true)
      (hpath : argument arguments "output_file" = .str path)

/-! ### The steps of a call -/

/-- Whether a conversion is asked for tags, by its arguments or else by the settings. -/
def isTagged (settings : Settings) (arguments : Json.Members) : Bool :=
  match arguments.lookup "include_json".toText with
  | some v => v.holds
  | none => settings.includeJson

/-- Which part of the program writes the output of a conversion. -/
def writer (arguments : Json.Members) : Log.Source :=
  if (argument arguments "sql_content").holds then .server else .converter

/-- The reply of a conversion. -/
def generated (output : Json.Value) (go : Text) : Reply :=
  .generated (if output.holds then some output.shown else none) go

/-- **A conversion** reads the settings and its input, makes the source and writes it. -/
theorem runConvert_eq (c : Converter) (arguments : Json.Members) :
    runConvert c arguments = do
      let settings ← getSettings
      let input ← input arguments
      let go ← c.source (isTagged settings arguments) input
      Converter.writeOutput (writer arguments) (argument arguments "output_file") go
      return generated (argument arguments "output_file") go := by
  unfold runConvert input writer
  simp only
  split
  · simp only [bind_assoc, pure_bind]
    rfl
  · simp only [Converter.convertFile, bind_assoc, pure_bind]
    rfl

/-- **A check** reads its input, all of which has to be readable. -/
theorem runCheck_eq (c : Converter) (arguments : Json.Members) :
    runCheck c arguments = do
      let input ← input arguments
      match input.failure with
      | some e => throw (.decode e)
      | none => return .checked (TableStructs.check c.types input.lines) := by
  unfold runCheck dumpLines input
  simp only
  split
  · simp only [bind_assoc, pure_bind]
  · simp only [bind_assoc]
    refine bind_congr fun path => bind_congr fun settings => bind_congr fun input => ?_
    cases input.failure <;> rfl

/-! ### What comes out of a call -/

/-- The Go source of the input of a conversion, or why there is none. -/
def source? (c : Converter) (encodings : Encoding.Registry) (files : FileTree) (settings : Settings)
    (arguments : Json.Members) : Except Failure Text :=
  match input? encodings files settings arguments with
  | .ok input => c.goSource? settings (isTagged settings arguments) input
  | .error f => .error f

/-- The report on the input of a check, all of which has to be readable, or why there is none. -/
def report? (c : Converter) (encodings : Encoding.Registry) (files : FileTree) (settings : Settings)
    (arguments : Json.Members) : Except Failure Report :=
  match input? encodings files settings arguments with
  | .error f => .error f
  | .ok input =>
    match input.failure with
    | some e => .error (.decode e)
    | none => .ok (TableStructs.check c.types input.lines)

/-- What a conversion comes to, and the files afterwards. If it has its source, it writes it; else it
leaves the files as they are. -/
def conversion (encodings : Encoding.Registry) (files : FileTree) (settings : Settings)
    (output : Json.Value) : Except Failure Text → Except Failure Reply × FileTree
  | .error f => (.error f, files)
  | .ok go =>
    let written := Converter.outputting encodings files settings output go
    (written.1.map fun _ => generated output go, written.2)

theorem runConvert_spec (h : w.settings? = .ok settings) :
    (runConvert c arguments).outcome w =
      conversion w.encodings w.files settings (argument arguments "output_file")
        (source? c w.encodings w.files settings arguments) := by
  have hinput := quiet_input arguments
  -- The workspaces in which the input is read and the source is made have the same files, encodings
  -- and settings.
  have hfiles := Quiet.getSettings.files w
  have hencodings := Quiet.getSettings.encodings w
  have hsettings := (Quiet.getSettings.settings? w).trans h
  rw [runConvert_eq, Quiet.getSettings.outcome_bind, result_getSettings h, source?, ← hfiles, ← hencodings]
  generalize getSettings.after w = v at hsettings ⊢
  simp only [hinput.outcome_bind, result_input hsettings]
  cases input? v.encodings v.files settings arguments with
  | error f => rfl
  | ok input' =>
    have hsource := Converter.quiet_source c (isTagged settings arguments) input'
    have hfiles' := hinput.files v
    have hencodings' := hinput.encodings v
    have hsettings' := (hinput.settings? v).trans hsettings
    simp only [hsource.outcome_bind, Converter.result_source hsettings', ← hfiles', ← hencodings']
    generalize (input arguments).after v = u at hsettings' ⊢
    cases c.goSource? settings (isTagged settings arguments) input' with
    | error f => rfl
    | ok go =>
      have hspec := Converter.writeOutput_spec ((hsource.settings? u).trans hsettings')
        (writer arguments) (argument arguments "output_file") go
      rw [hsource.files u, hsource.encodings u] at hspec
      simp only [conversion]
      rw [outcome, result_bind, after_bind, ← hspec, outcome]
      cases (Converter.writeOutput _ _ _).result _ <;> rfl

/-- A conversion begins with the settings, and does nothing without them. -/
theorem runConvert_unset {word : Text} (h : w.settings? = .error word) :
    (runConvert c arguments).outcome w = (.error (.setting word), w.files) := by
  rw [runConvert_eq, Quiet.getSettings.outcome_bind, result_getSettings_error h]

/-- A check reports on the lines of its input. It changes no files. -/
theorem runCheck_spec (h : w.settings? = .ok settings) :
    (runCheck c arguments).outcome w =
      ((report? c w.encodings w.files settings arguments).map .checked, w.files) := by
  have hinput := quiet_input arguments
  rw [runCheck_eq, hinput.outcome_bind, result_input h, report?, ← hinput.files w]
  cases input? w.encodings ((input arguments).after w).files settings arguments with
  | error f => rfl
  | ok input' =>
    simp only
    cases input'.failure <;> rfl

/-- The Go type of the SQL type among the arguments, or why it has none. -/
def mapped? (c : Converter) (arguments : Json.Members) : Except Failure Reply :=
  match (arguments.lookup "sql_type".toText).getD (.str []) with
  | .str given =>
    if (Text.trim given).isEmpty then .error (.usage .noType)
    else
      match c.types.goType? (Text.trim given) with
      | some go => .ok (.mapped (Text.trim given) go)
      | none => .error (.line (.unmapped (Text.trim given) none))
  | other => .error (.notText other.kind .trimming)

/-- The type that is looked up. -/
theorem mapped?_of_given {given : Text} (h : argument arguments "sql_type" = .str given) :
    mapped? c arguments =
      if (Text.trim given).isEmpty then .error (.usage .noType)
      else
        match c.types.goType? (Text.trim given) with
        | some go => .ok (.mapped (Text.trim given) go)
        | none => .error (.line (.unmapped (Text.trim given) none)) := by
  have hlookup : arguments.lookup "sql_type".toText = some (.str given) := by
    rw [argument] at h
    cases hv : arguments.lookup "sql_type".toText with
    | none =>
      rw [hv] at h
      cases h
    | some v =>
      rw [hv] at h
      exact congrArg some h
  rw [mapped?, hlookup]
  rfl

/-- Looking up a type needs neither files nor settings. -/
theorem runMapType_spec (c : Converter) (arguments : Json.Members) (w : Workspace) :
    (runMapType c arguments).outcome w = (mapped? c arguments, w.files) := by
  unfold runMapType mapped?
  cases (arguments.lookup "sql_type".toText).getD (.str []) with
  | str given =>
    simp only
    split
    · rfl
    · unfold TypeTable.map
      cases c.types.goType? (Text.trim given) <;> rfl
  | _ => rfl

/-- What comes out of a call of a tool: the tool answers with the failures that concern its input. -/
def answered : Except Failure Reply → Except Failure Reply
  | .ok r => .ok r
  | .error f => if f.isAnswer then .ok (.failed f) else .error f

theorem answered_error_eq_ok {f : Failure} {r : Reply} (h : answered (.error f) = .ok r) :
    r = .failed f := by
  rw [answered] at h
  split at h
  · exact (Except.ok.inj h).symm
  · cases h

/-- A reply that does not tell of a failure is the tool's own. -/
theorem eq_ok_of_answered {x : Except Failure Reply} {r : Reply} (h : answered x = .ok r)
    (hr : ∀ f, r ≠ .failed f) : x = .ok r := by
  cases x with
  | ok _ => exact h
  | error f => exact absurd (answered_error_eq_ok h) (hr f)

theorem ofName?_name (tool : Tool) : ofName? tool.name = some tool := by
  cases tool <;> decide

theorem call_spec (c : Converter) (tool : Tool) (arguments : Json.Members) (w : Workspace) :
    (call c tool.name arguments).outcome w =
      Prod.map answered id ((tool.run c arguments).outcome w) := by
  rw [call, ofName?_name]
  unfold outcome result after
  simp only [run_tryCatch]
  cases (tool.run c arguments).run w with
  | ok r v => rfl
  | error f v =>
    simp only [answer, Prod.map_apply, answered]
    cases f.isAnswer <;> rfl

theorem result_convert (h : w.settings? = .ok settings) :
    (call c convert.name arguments).result w =
      answered (conversion w.encodings w.files settings (argument arguments "output_file")
        (source? c w.encodings w.files settings arguments)).1 := by
  show ((call c convert.name arguments).outcome w).1 = _
  rw [call_spec, run, runConvert_spec h, Prod.map_apply]

/-- Without an output file a conversion comes to its source. -/
theorem result_convert_alone (h : w.settings? = .ok settings)
    (houtput : (argument arguments "output_file").holds = false) :
    (call c convert.name arguments).result w =
      answered ((source? c w.encodings w.files settings arguments).map (.generated none)) := by
  rw [result_convert h]
  cases source? c w.encodings w.files settings arguments with
  | error f => rfl
  | ok go => simp only [conversion, Converter.outputting, generated, houtput]; rfl

theorem result_check (h : w.settings? = .ok settings) :
    (call c check.name arguments).result w =
      answered ((report? c w.encodings w.files settings arguments).map .checked) := by
  show ((call c check.name arguments).outcome w).1 = _
  rw [call_spec, run, runCheck_spec h, Prod.map_apply]

theorem result_mapType (c : Converter) (arguments : Json.Members) (w : Workspace) :
    (call c mapType.name arguments).result w = answered (mapped? c arguments) := by
  show ((call c mapType.name arguments).outcome w).1 = _
  rw [call_spec, run, runMapType_spec, Prod.map_apply]

/-- A name is that of a tool, or the call does nothing. -/
theorem name_or_unknown (name : Text) : (∃ tool : Tool, name = tool.name) ∨ ofName? name = none := by
  cases h : ofName? name with
  | none => exact .inr rfl
  | some tool =>
    have hname : decide (tool.name = name) = true := by
      unfold ofName? at h
      simpa using List.find?_some h
    exact .inl ⟨tool, (of_decide_eq_true hname).symm⟩

theorem call_unknown {name : Text} (h : ofName? name = none) (c : Converter) (arguments : Json.Members)
    (w : Workspace) : (call c name arguments).run w = .ok (.unknownTool name) w := by
  rw [call, h]
  rfl

end Tool
end TableStructs
