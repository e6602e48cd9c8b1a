import TableStructs.Proofs.Call

/-!
Which actions look at the settings. An action is followed in two workspaces with the same files,
encodings and log. What it reads settings from may differ there, as far as a relation `P` allows: an
action `Respects P` if it comes to the same in both and leaves them so. An action that respects every
relation neither reads the settings nor changes what they are read from. Once the same settings are
remembered in both workspaces, their environments make no difference (`Remembered`).
-/
namespace TableStructs

/-- What settings are read from: those remembered, if any, and the environment. -/
abbrev Memory := Option Settings × Environment

/-- What settings are read from in a workspace. -/
def Workspace.memory (w : Workspace) : Memory := (w.settings, w.environment)

namespace Action
variable {α β : Type} {P : Memory → Memory → Prop}

/-- The same files, encodings and log, and related memories. -/
structure Alike (P : Memory → Memory → Prop) (w v : Workspace) : Prop where
  files : w.files = v.files
  encodings : w.encodings = v.encodings
  log : w.log = v.log
  memory : P w.memory v.memory

/-- In workspaces that are alike the action comes to the same, and it leaves them alike. -/
def Respects (P : Memory → Memory → Prop) (x : Action α) : Prop :=
  ∀ w v, Alike P w v → x.result w = x.result v ∧ Alike P (x.after w) (x.after v)

namespace Respects

theorem pure (a : α) : Respects P (Pure.pure a : Action α) := fun _ _ h => ⟨rfl, h⟩

theorem throw (f : Failure) : Respects P (MonadExcept.throw f : Action α) := fun _ _ h => ⟨rfl, h⟩

theorem bind {x : Action α} {g : α → Action β} (hx : Respects P x) (hg : ∀ a, Respects P (g a)) :
    Respects P (x >>= g) := by
  intro w v h
  obtain ⟨hresult, hafter⟩ := hx w v h
  rw [result_bind, result_bind, after_bind, after_bind, hresult]
  cases x.result v with
  | ok a => exact hg a _ _ hafter
  | error f => exact ⟨rfl, hafter⟩

theorem tryCatch {x : Action α} {g : Failure → Action α} (hx : Respects P x)
    (hg : ∀ f, Respects P (g f)) : Respects P (MonadExcept.tryCatch x g) := by
  intro w v h
  obtain ⟨hresult, hafter⟩ := hx w v h
  rw [result_tryCatch, result_tryCatch, after_tryCatch, after_tryCatch, hresult]
  cases x.result v with
  | ok a => exact ⟨rfl, hafter⟩
  | error f => exact hg f _ _ hafter

theorem note (records : List Log.Record) : Respects P (Action.note records) := fun _ _ h =>
  ⟨rfl, h.files, h.encodings, congrArg (· ++ records) h.log, h.memory⟩

/-! ### Files -/

/-- What is done next may depend on the files. -/
theorem ofFiles {g : FileTree → Action α} (hg : ∀ files, Respects P (g files)) :
    Respects P (do g (← get).files) := by
  intro w v h
  have hnext := hg v.files w v h
  show (g w.files).result w = (g v.files).result v ∧
    Alike P ((g w.files).after w) ((g v.files).after v)
  rw [h.files]
  exact hnext

theorem setFiles (files : FileTree) : Respects P (modify fun w : Workspace => { w with files }) :=
  fun _ _ h => ⟨rfl, rfl, h.encodings, h.log, h.memory⟩

theorem except (r : Except FileError α) : Respects P (Action.ofFiles r) := by
  cases r with
  | ok a => exact .pure a
  | error e => exact .throw _

theorem usablePath (path : Text) : Respects P (Action.usablePath path) := by
  unfold Action.usablePath
  split
  · exact .throw _
  · exact .pure _

theorem usableName (name : Text) : Respects P (Action.usableName name) := by
  unfold Action.usableName
  split
  · exact .throw _
  · exact .pure _

theorem getEncoding (name : Text) : Respects P (Action.getEncoding name) := by
  intro w v h
  unfold result after
  rw [getEncoding_run, getEncoding_run, h.encodings]
  cases v.encodings name with
  | ok encoding => exact ⟨rfl, h⟩
  | error fault => exact ⟨rfl, h⟩

theorem readLines (path encoding : Text) : Respects P (Action.readLines path encoding) :=
  (usableName encoding).bind fun encoding => (usablePath path).bind fun path => ofFiles fun files =>
    (except (files.read path)).bind fun bytes => (getEncoding encoding).bind fun encoding =>
      .pure (encoding.fileLines bytes)

theorem writeBytes (path : Text) (bytes : List UInt8) : Respects P (Action.writeBytes path bytes) :=
  (usablePath path).bind fun path => ofFiles fun files =>
    (except (files.write path bytes)).bind setFiles

theorem writeText (path text encoding : Text) : Respects P (Action.writeText path text encoding) := by
  refine (usableName encoding).bind fun encoding => (writeBytes _ _).bind fun _ =>
    (getEncoding encoding).bind fun encoding => ?_
  split
  · exact writeBytes _ _
  · exact .throw _

end Respects

/-! ### Reading the settings -/

/-- The same settings are remembered. -/
def Remembered (settings : Settings) (m m' : Memory) : Prop := m.1 = some settings ∧ m'.1 = some settings

theorem settings?_of_unset {w : Workspace} (h : w.settings = none) :
    w.settings? = Settings.ofEnvironment w.environment := by
  rw [Workspace.settings?, h]

theorem settings?_of_remembered {w : Workspace} {settings : Settings} (h : w.settings = some settings) :
    w.settings? = .ok settings := by
  rw [Workspace.settings?, h]

/-- Settings that are remembered are read whatever the environment is. -/
theorem getSettings_run_of_remembered {w : Workspace} {settings : Settings}
    (h : w.settings = some settings) : getSettings.run w = .ok settings w := by
  rw [getSettings_run, settings?_of_remembered h]
  exact congrArg (fun m => EStateM.Result.ok settings { w with settings := m }) h.symm

theorem Respects.getSettings (settings : Settings) :
    Respects (Remembered settings) Action.getSettings := by
  intro w v h
  have hw := getSettings_run_of_remembered h.memory.1
  have hv := getSettings_run_of_remembered h.memory.2
  rw [result_of_run hw, result_of_run hv, after_of_run hw, after_of_run hv]
  exact ⟨rfl, h⟩

/-- The action begins by reading the settings. Once they are read, the environment makes no
difference to the rest of it. -/
def ReadsFirst (x : Action α) : Prop :=
  ∃ g : Settings → Action α, x = getSettings >>= g ∧
    ∀ settings, Respects (Remembered settings) (g settings)

namespace ReadsFirst
variable {x : Action α} {w : Workspace}

theorem bind {k : α → Action β} (hx : ReadsFirst x)
    (hk : ∀ settings a, Respects (Remembered settings) (k a)) : ReadsFirst (x >>= k) := by
  obtain ⟨g, rfl, hg⟩ := hx
  exact ⟨fun settings => g settings >>= k, bind_assoc ..,
    fun settings => (hg settings).bind (hk settings)⟩

theorem respects (hx : ReadsFirst x) (settings : Settings) : Respects (Remembered settings) x := by
  obtain ⟨g, rfl, hg⟩ := hx
  intro w v h
  have hw := getSettings_run_of_remembered h.memory.1
  have hv := getSettings_run_of_remembered h.memory.2
  rw [result_bind, result_bind, after_bind, after_bind, result_of_run hw, result_of_run hv,
    after_of_run hw, after_of_run hv]
  exact hg settings w v h

/-- Settings that are read are remembered at the end. -/
theorem remembers (hx : ReadsFirst x) {settings : Settings} (h : w.settings? = .ok settings) :
    (x.after w).settings = some settings := by
  obtain ⟨g, rfl, hg⟩ := hx
  have hrun := getSettings_run w
  rw [h] at hrun
  rw [after_bind, result_of_run hrun, after_of_run hrun]
  exact (hg settings _ _ ⟨rfl, rfl, rfl, rfl, rfl⟩).2.memory.1

/-- Without settings the action does nothing. -/
theorem run_unset (hx : ReadsFirst x) {word : Text} (h : w.settings? = .error word) :
    x.run w = .error (.setting word) w := by
  obtain ⟨g, rfl, -⟩ := hx
  rw [EStateM.run_bind, getSettings_run, h]

end ReadsFirst
end Action

/-! ### Conversions and tools -/

open TableStructs.Action
variable {P : Memory → Memory → Prop} (c : Converter)

namespace Converter

theorem respects_structs (tagged : Bool) (input : Lines) : Respects P (c.structs tagged input) := by
  refine (Respects.note _).bind fun _ => ?_
  split
  · exact .throw _
  · exact .throw _
  · exact (Respects.note _).bind fun _ => .pure _

theorem respects_getTagKey (settings : Settings) : Respects (Remembered settings) c.getTagKey := by
  unfold getTagKey
  split
  · exact .pure _
  · exact (Respects.getSettings settings).bind fun _ => .pure _

theorem respects_source (settings : Settings) (tagged : Bool) (input : Lines) :
    Respects (Remembered settings) (c.source tagged input) := by
  refine (c.respects_structs tagged input).bind fun structs => ?_
  unfold render
  split
  · exact (c.respects_getTagKey settings).bind fun _ => .pure _
  · exact .pure _

theorem respects_writeOutput (settings : Settings) (source : Log.Source) (output : Json.Value)
    (go : Text) : Respects (Remembered settings) (writeOutput source output go) := by
  unfold writeOutput
  split
  · refine (Respects.note _).bind fun _ => ?_
    cases output with
    | str path => exact (Respects.getSettings settings).bind fun _ => .writeText _ _ _
    | _ => exact .throw _
  · exact .pure _

end Converter

namespace Tool

theorem respects_answer (name : Text) (f : Failure) : Respects P (answer name f) := by
  unfold answer
  split
  · exact (Respects.note _).bind fun _ => .pure _
  · exact .throw f

theorem respects_inlineLines (content : Json.Value) : Respects P (inlineLines content) := by
  unfold inlineLines
  split
  · exact .pure _
  · exact .throw _

/-- A type is looked up without the settings. -/
theorem respects_runMapType (arguments : Json.Members) : Respects P (runMapType c arguments) := by
  unfold runMapType
  split
  · simp only
    split
    · exact .throw _
    · split
      · exact .pure _
      · exact .throw _
  · exact .throw _

theorem respects_input (settings : Settings) (arguments : Json.Members) :
    Respects (Remembered settings) (input arguments) := by
  unfold input
  simp only
  split
  · exact (respects_inlineLines _).bind fun _ => .pure _
  · rw [Converter.inputPath_eq]
    split
    · exact (Respects.pure _).bind fun _ => (Respects.getSettings settings).bind fun _ =>
        .readLines _ _
    · exact (Respects.throw _).bind fun _ => (Respects.getSettings settings).bind fun _ =>
        .readLines _ _

/-- What a check does with its input. -/
theorem respects_report (input : Lines) :
    Respects P (match input.failure with
      | some e => throw (.decode e)
      | none => return .checked (TableStructs.check c.types input.lines) : Action Reply) := by
  split
  · exact .throw _
  · exact .pure _

/-- A conversion reads the settings, whatever its arguments are. -/
theorem runConvert_readsFirst (arguments : Json.Members) : ReadsFirst (runConvert c arguments) := by
  refine ⟨_, runConvert_eq c arguments, fun settings => ?_⟩
  exact (respects_input settings arguments).bind fun input =>
    (c.respects_source settings _ input).bind fun go =>
      (Converter.respects_writeOutput settings _ _ go).bind fun _ => .pure _

/-- A check reads the settings if its input is a file with an acceptable path. -/
theorem runCheck_readsFirst {arguments : Json.Members} {path : Text}
    (hfile : (argument arguments "sql_content").holds = false)
    (hpath : Converter.inputPath? (argument arguments "input_path") = .ok path) :
    ReadsFirst (runCheck c arguments) := by
  have hinput : input arguments = getSettings >>= fun settings => readLines path settings.encoding := by
    simp only [input, hfile, Bool.false_eq_true, if_false, Converter.inputPath_eq, hpath, pure_bind]
  rw [runCheck_eq]
  exact ReadsFirst.bind ⟨_, hinput, fun _ => .readLines _ _⟩ fun _ => respects_report c

/-- Any other check gets along without the settings. -/
theorem respects_runCheck {arguments : Json.Members}
    (h : (argument arguments "sql_content").holds = true ∨
      ∃ f, Converter.inputPath? (argument arguments "input_path") = .error f) :
    Respects P (runCheck c arguments) := by
  rw [runCheck_eq]
  refine Respects.bind ?_ (respects_report c)
  unfold input
  simp only
  split
  · exact (respects_inlineLines _).bind fun _ => .pure _
  · next hfile =>
    obtain ⟨f, hpath⟩ := h.resolve_left hfile
    rw [Converter.inputPath_eq, hpath]
    exact .throw f

/-- A failure to read the settings comes out of the call. -/
theorem tryCatch_readsFirst {x : Action Reply} (hx : ReadsFirst x) (name : Text) :
    ReadsFirst (tryCatch x (answer name)) := by
  obtain ⟨g, rfl, hg⟩ := hx
  refine ⟨fun settings => tryCatch (g settings) (answer name), ?_,
    fun settings => (hg settings).tryCatch (respects_answer name)⟩
  funext w
  show (tryCatch (getSettings >>= g) (answer name) : Action Reply).run w =
    (getSettings >>= fun settings => tryCatch (g settings) (answer name) : Action Reply).run w
  rw [run_tryCatch, EStateM.run_bind, EStateM.run_bind, getSettings_run]
  cases w.settings? with
  | ok settings => exact (run_tryCatch ..).symm
  | error word => rfl

theorem call_eq (tool : Tool) (arguments : Json.Members) :
    call c tool.name arguments = tryCatch (tool.run c arguments) (answer tool.name) := by
  rw [call, ofName?_name]

end Tool

/-! ### Files that are converted -/

namespace Converter

theorem convertFile_readsFirst {input : Json.Value} {path : Text} (h : inputPath? input = .ok path)
    (output : Json.Value) (tagged : Bool) : ReadsFirst (c.convertFile input output tagged) := by
  unfold convertFile
  rw [inputPath_eq, h, pure_bind]
  exact ⟨_, rfl, fun settings => (Respects.readLines _ _).bind fun lines =>
    (c.respects_source settings tagged lines).bind fun go =>
      (respects_writeOutput settings _ output go).bind fun _ => .pure _⟩

theorem respects_convertFile {input : Json.Value} {f : Failure} (h : inputPath? input = .error f)
    (output : Json.Value) (tagged : Bool) : Respects P (c.convertFile input output tagged) := by
  unfold convertFile
  rw [inputPath_eq, h]
  exact .throw f

end Converter
end TableStructs
