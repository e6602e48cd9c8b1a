import TableStructs.Session
import TableStructs.Proofs.Memory

/-!
How long settings last in a session. Some steps read the settings (`Step.readsSettings`) and all others
get along without them. The first step that reads them with success fixes them: until they are
forgotten, no step that sets the environment makes a difference to any other (`run_of_remembered`). A
reading that fails leaves nothing behind, and neither does a step that reads nothing, so that the
environment of the next reading counts. `Settings.ofEnvironment_eq_ok_iff` says what it sets.
-/
namespace TableStructs

/-! ### Settings of an environment -/

namespace Settings
variable {env : Environment} {name : String} {value : Text}

/-- The value of the variable in force under a name: the last one that goes by it in any letter case. -/
def InForce (env : Environment) (name : String) (value : Text) : Prop :=
  ∃ before given after, env = before ++ (given, value) :: after ∧ given.map lower = name.toText ∧
    ∀ v ∈ after, v.1.map lower ≠ name.toText

/-- What an environment says under a name: the value of the variable in force, or else the standard one. -/
def Says (env : Environment) (name : String) (standard value : Text) : Prop :=
  InForce env name value ∨ (∀ v ∈ env, v.1.map lower ≠ name.toText) ∧ value = standard

theorem lookUp?_eq_some_iff : lookUp? env name = some value ↔ InForce env name value := by
  rw [lookUp?, Option.map_eq_some_iff]
  constructor
  · rintro ⟨⟨given, value⟩, hfind, rfl⟩
    obtain ⟨hname, after, before, hsplit, hafter⟩ := List.find?_eq_some_iff_append.1 hfind
    refine ⟨before.reverse, given, after.reverse, ?_, of_decide_eq_true hname, fun v hv => ?_⟩
    · rw [← env.reverse_reverse, hsplit]
      simp
    · simpa using hafter v (List.mem_reverse.1 hv)
  · rintro ⟨before, given, after, rfl, hname, hafter⟩
    refine ⟨(given, value), List.find?_eq_some_iff_append.2 ⟨decide_eq_true hname, after.reverse,
      before.reverse, by simp, fun v hv => ?_⟩, rfl⟩
    simpa using hafter v (List.mem_reverse.1 hv)

theorem says_iff {standard : Text} :
    Says env name standard value ↔ (lookUp? env name).getD standard = value := by
  rw [Says, ← lookUp?_eq_some_iff]
  cases h : lookUp? env name with
  | some found =>
    obtain ⟨before, given, after, rfl, hname, -⟩ := lookUp?_eq_some_iff.1 h
    have hsome : (given, found) ∈ before ++ (given, found) :: after :=
      List.mem_append_right before List.mem_cons_self
    refine ⟨?_, fun hv => .inl (congrArg some hv)⟩
    rintro (hv | ⟨hnone, -⟩)
    · exact Option.some.inj hv
    · exact absurd hname (hnone _ hsome)
  | none =>
    have hnone : ∀ v ∈ env, v.1.map lower ≠ name.toText := by
      rw [lookUp?, Option.map_eq_none_iff, List.find?_eq_none] at h
      simpa using h
    refine ⟨?_, fun hv => .inr ⟨hnone, hv.symm⟩⟩
    rintro (hv | ⟨-, hv⟩)
    · cases hv
    · exact hv.symm

/-- **What an environment sets**: each setting is what the variable in force for it says, and the standard
value where there is no such variable. -/
theorem ofEnvironment_eq_ok_iff {settings : Settings} :
    ofEnvironment env = .ok settings ↔
      Says env "sql2go_tag_key" "json".toText settings.tagKey ∧
      Says env "sql2go_encoding" "utf-8".toText settings.encoding ∧
      Says env "sql2go_log_level" "INFO".toText settings.logLevel ∧
      ∃ word, Says env "sql2go_include_json" "false".toText word ∧ truth? word = some settings.includeJson := by
  have hfalse : truth? "false".toText = some false := by decide
  obtain ⟨includeJson, tagKey, encoding, logLevel⟩ := settings
  simp only [says_iff, ofEnvironment]
  cases lookUp? env "sql2go_include_json" with
  | none => simp [hfalse, and_assoc, and_comm, and_left_comm]
  | some word =>
    cases htruth : truth? word with
    | none => simp [htruth]
    | some b => simp [htruth, and_assoc, and_comm, and_left_comm]

example : ofEnvironment [("SQL2GO_TAG_KEY".toText, "db".toText), ("sql2go_Tag_Key".toText, "yaml".toText),
    ("SQL2GO_INCLUDE_JSON".toText, "Yes".toText)] =
      .ok { includeJson := true, tagKey := "yaml".toText } := by
  decide

end Settings

namespace Session
open TableStructs.Action

/-! ### Steps -/

namespace Step

/-- Whether a step reads the settings: a conversion does so in any case, a check and a conversion of
a file if they come to open their input. -/
def readsSettings : Step → Bool
  | call tool arguments =>
    match Tool.ofName? tool with
    | some .convert => true
    | some .check =>
      !(Tool.argument arguments "sql_content").holds &&
        (Converter.inputPath? (Tool.argument arguments "input_path")).isOk
    | some .mapType | none => false
  | convertFile input _ _ => (Converter.inputPath? input).isOk
  | write .. | makeDirectory _ | read _ | setEnvironment _ | forgetSettings => false

/-- Whether a step makes the settings forgotten. -/
def forgets : Step → Bool
  | forgetSettings => true
  | _ => false

/-- Whether a step sets the environment. -/
def setsEnvironment : Step → Bool
  | setEnvironment _ => true
  | _ => false

theorem eq_of_forgets {step : Step} (h : step.forgets = true) : step = forgetSettings := by
  cases step with
  | forgetSettings => rfl
  | _ => cases h

theorem eq_of_setsEnvironment {step : Step} (h : step.setsEnvironment = true) :
    ∃ env, step = setEnvironment env := by
  cases step with
  | setEnvironment env => exact ⟨env, rfl⟩
  | _ => cases h

variable (c : Converter) {step : Step} {P : Memory → Memory → Prop}

/-- A step that reads the settings does this first. -/
theorem readsFirst (h : step.readsSettings = true) : ReadsFirst (step.run c) := by
  cases step with
  | call tool arguments =>
    obtain ⟨tool, rfl⟩ | hunknown := Tool.name_or_unknown tool
    · simp only [readsSettings, Tool.ofName?_name] at h
      have hrun : ReadsFirst (tool.run c arguments) := by
        cases tool with
        | convert => exact Tool.runConvert_readsFirst c arguments
        | check =>
          simp only [Bool.and_eq_true, Bool.not_eq_true'] at h
          obtain ⟨hfile, hpath⟩ := h
          cases hinput : Converter.inputPath? (Tool.argument arguments "input_path") with
          | ok path => exact Tool.runCheck_readsFirst c hfile hinput
          | error f => simp [hinput, Except.isOk, Except.toBool] at hpath
        | mapType => cases h
      simp only [run, Tool.call_eq]
      exact (Tool.tryCatch_readsFirst hrun tool.name).bind fun _ _ => .pure _
    · simp [readsSettings, hunknown] at h
  | convertFile input output tagged =>
    rw [readsSettings] at h
    cases hinput : Converter.inputPath? input with
    | ok path => exact (c.convertFile_readsFirst hinput output tagged).bind fun _ _ => .pure _
    | error f => simp [hinput, Except.isOk, Except.toBool] at h
  | _ => cases h

/-- A step that does not read the settings gets along without them. -/
theorem respects (h : step.readsSettings = false) (hforget : step.forgets = false)
    (hset : step.setsEnvironment = false) : Respects P (step.run c) := by
  cases step with
  | call tool arguments =>
    refine Respects.bind ?_ fun _ => .pure _
    obtain ⟨tool, rfl⟩ | hunknown := Tool.name_or_unknown tool
    · simp only [readsSettings, Tool.ofName?_name] at h
      rw [Tool.call_eq]
      refine Respects.tryCatch ?_ (Tool.respects_answer _)
      cases tool with
      | convert => cases h
      | check =>
        apply Tool.respects_runCheck
        cases hinput : Converter.inputPath? (Tool.argument arguments "input_path") with
        | ok path => simpa [hinput, Except.isOk, Except.toBool] using h
        | error f => exact .inr ⟨f, rfl⟩
      | mapType => exact Tool.respects_runMapType c arguments
    · rw [Tool.call, hunknown]
      exact .pure _
  | convertFile input output tagged =>
    refine Respects.bind ?_ fun _ => .pure _
    rw [readsSettings] at h
    cases hinput : Converter.inputPath? input with
    | ok path => simp [hinput, Except.isOk, Except.toBool] at h
    | error f => exact c.respects_convertFile hinput output tagged
  | write path bytes => exact (Respects.writeBytes path bytes).bind fun _ => .pure _
  | makeDirectory path =>
    exact (Respects.usablePath path).bind fun path => .ofFiles fun files =>
      (Respects.except (files.makeDirectory path)).bind fun files =>
        (Respects.setFiles files).bind fun _ => .pure _
  | read path => exact Respects.ofFiles fun files => .pure (Answer.content (files.look path))
  | setEnvironment env => cases hset
  | forgetSettings => cases hforget

/-- Once the settings are remembered, a step does not depend on the environment. -/
theorem respects_remembered (settings : Settings) (hforget : step.forgets = false)
    (hset : step.setsEnvironment = false) : Respects (Remembered settings) (step.run c) := by
  cases h : step.readsSettings with
  | true => exact (readsFirst c h).respects settings
  | false => exact respects c h hforget hset

end Step

/-! ### One step of a session -/

section
variable {α : Type} (c : Converter) {step : Step} {w : Workspace}

theorem observe_eq (x : Action α) (w : Workspace) :
    observe x w =
      (⟨x.result { w with log := [] }, (x.after { w with log := [] }).log⟩,
        x.after { w with log := [] }) := by
  unfold observe result after
  cases x.run { w with log := [] } <;> rfl

/-- What is observed of an action in workspaces with the same files and encodings. -/
theorem observe_of_respects {P : Memory → Memory → Prop} {x : Action α} (hx : Respects P x)
    {v : Workspace} (hfiles : w.files = v.files) (hencodings : w.encodings = v.encodings)
    (hmemory : P w.memory v.memory) :
    (observe x w).1 = (observe x v).1 ∧ Alike P (observe x w).2 (observe x v).2 := by
  obtain ⟨hresult, hafter⟩ := hx { w with log := [] } { v with log := [] } ⟨hfiles, hencodings, rfl, hmemory⟩
  rw [observe_eq, observe_eq, hresult, hafter.log]
  exact ⟨rfl, hafter⟩

/-- Without settings, a step that reads them fails and does nothing else. -/
theorem observe_unset (h : step.readsSettings = true) {word : Text} (hw : w.settings? = .error word) :
    observe (step.run c) w = (⟨.error (.setting word), []⟩, { w with log := [] }) := by
  have hrun : (step.run c).run { w with log := [] } = .error (.setting word) { w with log := [] } :=
    (step.readsFirst c h).run_unset hw
  rw [observe, hrun]

/-- A step that does not read the settings is observed to do the same whatever they are. -/
theorem observe_congr (h : step.readsSettings = false) (settings : Option Settings)
    (environment : Environment) :
    (observe (step.run c) { w with settings, environment }).1 = (observe (step.run c) w).1 ∧
      (observe (step.run c) { w with settings, environment }).2.files =
        (observe (step.run c) w).2.files := by
  cases hforget : step.forgets with
  | true =>
    obtain rfl := Step.eq_of_forgets hforget
    exact ⟨rfl, rfl⟩
  | false =>
    cases hset : step.setsEnvironment with
    | true =>
      obtain ⟨env, rfl⟩ := Step.eq_of_setsEnvironment hset
      exact ⟨rfl, rfl⟩
    | false =>
      obtain ⟨houtcome, hafter⟩ := observe_of_respects (P := fun _ _ => True)
        (step.respects c h hforget hset) (w := { w with settings, environment }) (v := w) rfl rfl trivial
      exact ⟨houtcome, hafter.files⟩

/-- A step that does not read the settings leaves them as they are. -/
theorem settings_of_not_reads (h : step.readsSettings = false) (hforget : step.forgets = false) :
    (observe (step.run c) w).2.settings = w.settings := by
  cases hset : step.setsEnvironment with
  | true =>
    obtain ⟨env, rfl⟩ := Step.eq_of_setsEnvironment hset
    rfl
  | false =>
    obtain ⟨-, hafter⟩ := observe_of_respects (P := fun m _ => m = w.memory)
      (step.respects c h hforget hset) (w := w) (v := w) rfl rfl rfl
    exact congrArg Prod.fst hafter.memory

/-- **What fixes the settings**: they have been remembered before, or the step reads them. -/
theorem settings_observe (settings : Settings) :
    (observe (step.run c) w).2.settings = some settings ↔
      step.forgets = false ∧
        (w.settings = some settings ∨ step.readsSettings = true ∧ w.settings? = .ok settings) := by
  cases hforget : step.forgets with
  | true =>
    obtain rfl := Step.eq_of_forgets hforget
    have hnone : (observe (Step.forgetSettings.run c) w).2.settings = none := rfl
    simp [hnone]
  | false =>
    cases hreads : step.readsSettings with
    | false => simp [settings_of_not_reads c hreads hforget]
    | true =>
      have hremembered : w.settings = some settings → w.settings? = .ok settings :=
        settings?_of_remembered
      cases hw : w.settings? with
      | error word =>
        rw [observe_unset c hreads hw]
        simp
      | ok settings' =>
        have hafter : (observe (step.run c) w).2.settings = some settings' := by
          rw [observe_eq]
          exact (step.readsFirst c hreads).remembers hw
        rw [hw] at hremembered
        simp only [hafter, true_and, Option.some.injEq, Except.ok.injEq] at hremembered ⊢
        exact ⟨.inr, Or.rec hremembered id⟩

end

/-! ### Sessions -/

/-- The steps with what they came to, but for those that set the environment. -/
def answers (c : Converter) (w : Workspace) (steps : List Step) : List (Step × Outcome Answer) :=
  (steps.zip (run c w steps).1).filter (!·.1.setsEnvironment)

/-- The steps, but for those that set the environment. -/
def withoutEnvironments (steps : List Step) : List Step := steps.filter (!·.setsEnvironment)

section
variable {c : Converter} {w v : Workspace} {settings : Settings}

theorem length_run (c : Converter) (w : Workspace) (steps : List Step) :
    (run c w steps).1.length = steps.length := by
  induction steps generalizing w with
  | nil => rfl
  | cons step rest ih => simp [run, ih]

theorem answers_cons (c : Converter) (w : Workspace) (step : Step) (rest : List Step) :
    answers c w (step :: rest) =
      (if step.setsEnvironment then [] else [(step, (observe (step.run c) w).1)]) ++
        answers c (observe (step.run c) w).2 rest := by
  unfold answers
  simp only [run, List.zip_cons_cons, List.filter_cons]
  cases step.setsEnvironment <;> rfl

theorem answers_append (c : Converter) (w : Workspace) (a b : List Step) :
    answers c w (a ++ b) = answers c w a ++ answers c (run c w a).2 b := by
  unfold answers
  rw [run_append, List.zip_append (length_run c w a).symm, List.filter_append]

/-- **Settings that are remembered stay**, and until they are forgotten the steps that set the
environment make no difference. -/
theorem run_of_remembered {steps : List Step} (hsteps : ∀ step ∈ steps, step.forgets = false)
    (hfiles : w.files = v.files) (hencodings : w.encodings = v.encodings)
    (h : Remembered settings w.memory v.memory) :
    answers c w steps = answers c v (withoutEnvironments steps) ∧
      (run c w steps).2.files = (run c v (withoutEnvironments steps)).2.files ∧
      Remembered settings (run c w steps).2.memory (run c v (withoutEnvironments steps)).2.memory := by
  induction steps generalizing w v with
  | nil => exact ⟨rfl, hfiles, h⟩
  | cons step rest ih =>
    have hrest : ∀ step ∈ rest, step.forgets = false := fun s hs => hsteps s (List.mem_cons_of_mem _ hs)
    cases hset : step.setsEnvironment with
    | true =>
      obtain ⟨env, rfl⟩ := Step.eq_of_setsEnvironment hset
      have hnext : Remembered settings (observe ((Step.setEnvironment env).run c) w).2.memory v.memory := h
      obtain ⟨hanswers, hend⟩ :=
        ih hrest (w := (observe ((Step.setEnvironment env).run c) w).2) hfiles hencodings hnext
      exact ⟨(answers_cons ..).trans hanswers, hend⟩
    | false =>
      have hkeep : withoutEnvironments (step :: rest) = step :: withoutEnvironments rest := by
        simp [withoutEnvironments, hset]
      obtain ⟨houtcome, hafter⟩ := observe_of_respects
        (step.respects_remembered c settings (hsteps step List.mem_cons_self) hset) hfiles hencodings h
      obtain ⟨hanswers, hend⟩ := ih hrest hafter.files hafter.encodings hafter.memory
      rw [hkeep, answers_cons, answers_cons, houtcome, hanswers]
      exact ⟨rfl, hend⟩

theorem run_step (c : Converter) (w : Workspace) (before : List Step) (step : Step) :
    run c w (before ++ [step]) =
      ((run c w before).1 ++ [(observe (step.run c) (run c w before).2).1],
        (observe (step.run c) (run c w before).2).2) := by
  rw [run_append]
  rfl

/-- The environment is read again behind a step that leaves no settings. -/
theorem settings?_of_step_environment {before : List Step} {step : Step}
    (h : (run c w (before ++ [step])).2.settings = none) (env : Environment) :
    (run c w (before ++ [step, .setEnvironment env])).2.settings? = Settings.ofEnvironment env := by
  have hsteps : before ++ [step, .setEnvironment env] = (before ++ [step]) ++ [.setEnvironment env] := by
    simp
  rw [hsteps, run_step]
  generalize run c w (before ++ [step]) = r at h ⊢
  exact settings?_of_unset h

theorem run_from_step (c : Converter) (w : Workspace) (before : List Step) (step : Step)
    (rest : List Step) :
    answers c w (before ++ step :: rest) =
        answers c w (before ++ [step]) ++ answers c (run c w (before ++ [step])).2 rest ∧
      (run c w (before ++ step :: rest)).2 = (run c (run c w (before ++ [step])).2 rest).2 := by
  have hsteps : before ++ step :: rest = (before ++ [step]) ++ rest := by simp
  rw [hsteps]
  exact ⟨answers_append .., by rw [run_append c w (before ++ [step]) rest]⟩

/-- Behind a step that has left settings, the environment makes no difference until they are forgotten. -/
theorem answers_of_settings {before : List Step} {step : Step}
    (h : (run c w (before ++ [step])).2.settings = some settings) {a b : List Step}
    (hsteps : ∀ s ∈ a ++ b, s.forgets = false) (hab : withoutEnvironments a = withoutEnvironments b) :
    answers c w (before ++ step :: a) = answers c w (before ++ step :: b) ∧
      (run c w (before ++ step :: a)).2.files = (run c w (before ++ step :: b)).2.files ∧
      (run c w (before ++ step :: a)).2.settings = some settings := by
  have hremembered : Remembered settings (run c w (before ++ [step])).2.memory
      (run c w (before ++ [step])).2.memory := ⟨h, h⟩
  obtain ⟨hanswers, hfiles, hlast⟩ := run_of_remembered (c := c)
    (fun s hs => hsteps s (List.mem_append_left b hs)) rfl rfl hremembered
  obtain ⟨hanswers', hfiles', -⟩ := run_of_remembered (c := c)
    (fun s hs => hsteps s (List.mem_append_right a hs)) rfl rfl hremembered
  obtain ⟨ha, hrun⟩ := run_from_step c w before step a
  obtain ⟨hb, hrun'⟩ := run_from_step c w before step b
  rw [ha, hb, hrun, hrun', hanswers, hanswers', hfiles, hfiles', hab]
  exact ⟨rfl, rfl, hlast.1⟩

/-- A step that fails to read the settings does nothing else, and they are read again later. -/
theorem run_of_error {before : List Step} {step : Step} (hreads : step.readsSettings = true) {word : Text}
    (h : (run c w before).2.settings? = .error word) :
    (run c w (before ++ [step])).1 = (run c w before).1 ++ [⟨.error (.setting word), []⟩] ∧
      (run c w (before ++ [step])).2.files = (run c w before).2.files ∧
      ∀ env, (run c w (before ++ [step, .setEnvironment env])).2.settings? = Settings.ofEnvironment env := by
  have hobserve := observe_unset c hreads h
  have hnone : (run c w (before ++ [step])).2.settings = none := by
    rw [run_step, hobserve]
    cases hremembered : (run c w before).2.settings with
    | none => rfl
    | some settings => cases h.symm.trans (settings?_of_remembered hremembered)
  refine ⟨?_, ?_, settings?_of_step_environment hnone⟩
  · rw [run_step, hobserve]
  · rw [run_step, hobserve]

/-- A step that does not read the settings leaves them to be read later. -/
theorem settings?_of_not_reads {before : List Step} {step : Step} (hreads : step.readsSettings = false)
    (h : (run c w before).2.settings = none) (env : Environment) :
    (run c w (before ++ [step, .setEnvironment env])).2.settings? = Settings.ofEnvironment env := by
  have hnext : (run c w (before ++ [step])).2 = (observe (step.run c) (run c w before).2).2 :=
    congrArg Prod.snd (run_step c w before step)
  cases hforget : step.forgets with
  | true =>
    obtain rfl := Step.eq_of_forgets hforget
    exact settings?_of_step_environment (congrArg Workspace.settings hnext) env
  | false =>
    have hsame := settings_of_not_reads c (w := (run c w before).2) hreads hforget
    rw [← hnext, h] at hsame
    exact settings?_of_step_environment hsame env

/-- **How long settings last.** A step of a session leaves settings behind if and only if they have
been remembered before, or the step reads them with success. From then on they stay until they are
forgotten, and sessions that differ in how they set the environment have the same answers and the same
files. A step that reads settings and fails to do so remembers nothing, and one that does not read them
neither depends on them nor fixes them: the environment set behind it counts. All conversions read
the settings; types are looked up, and inputs given as a text or under a path that is refused are
dealt with, without them. -/
theorem settings_last (c : Converter) (w : Workspace) (before : List Step) (step : Step) :
    let here := (run c w before).2
    let next := (run c w (before ++ [step])).2
    (∀ settings, next.settings = some settings ↔
      step.forgets = false ∧
        (here.settings = some settings ∨ step.readsSettings = true ∧ here.settings? = .ok settings)) ∧
    (∀ settings, next.settings = some settings → ∀ a b, (∀ s ∈ a ++ b, s.forgets = false) →
      withoutEnvironments a = withoutEnvironments b →
        answers c w (before ++ step :: a) = answers c w (before ++ step :: b) ∧
        (run c w (before ++ step :: a)).2.files = (run c w (before ++ step :: b)).2.files ∧
        (run c w (before ++ step :: a)).2.settings = some settings) ∧
    (step.readsSettings = true → ∀ word, here.settings? = .error word →
      (run c w (before ++ [step])).1 = (run c w before).1 ++ [⟨.error (.setting word), []⟩] ∧
      next.files = here.files ∧
      ∀ env, (run c w (before ++ [step, .setEnvironment env])).2.settings? = Settings.ofEnvironment env) ∧
    (step.readsSettings = false →
      (∀ settings environment, let other := { here with settings, environment }
        (observe (step.run c) other).1 = (observe (step.run c) here).1 ∧
        (observe (step.run c) other).2.files = next.files) ∧
      (here.settings = none → ∀ env,
        (run c w (before ++ [step, .setEnvironment env])).2.settings? = Settings.ofEnvironment env)) ∧
    (∀ arguments, (Step.call Tool.convert.name arguments).readsSettings = true ∧
      (Step.call Tool.mapType.name arguments).readsSettings = false ∧
      (∀ name, Tool.ofName? name = none → (Step.call name arguments).readsSettings = false) ∧
      ((Tool.argument arguments "sql_content").holds = true ∨
        (∃ f, Converter.inputPath? (Tool.argument arguments "input_path") = .error f) →
          (Step.call Tool.check.name arguments).readsSettings = false)) ∧
    (∀ input output tagged f, Converter.inputPath? input = .error f →
      (Step.convertFile input output tagged).readsSettings = false) := by
  intro here next
  have hnext : next = (observe (step.run c) here).2 := congrArg Prod.snd (run_step c w before step)
  refine ⟨fun settings => ?_, fun settings h a b => answers_of_settings h,
    fun hreads word => run_of_error hreads,
    fun hreads => ⟨fun settings environment => ?_, settings?_of_not_reads hreads⟩,
    fun arguments => ⟨?_, ?_, ?_, ?_⟩, fun input output tagged f hf => ?_⟩
  · rw [hnext]
    exact settings_observe c settings
  · rw [hnext]
    exact observe_congr c hreads settings environment
  · simp [Step.readsSettings, Tool.ofName?_name]
  · simp [Step.readsSettings, Tool.ofName?_name]
  · intro name hname
    simp [Step.readsSettings, hname]
  · simp only [Step.readsSettings, Tool.ofName?_name]
    rintro (htext | ⟨f, hf⟩)
    · simp [htext]
    · simp [hf, Except.isOk, Except.toBool]
  · simp [Step.readsSettings, hf, Except.isOk, Except.toBool]

/-- A conversion without an input fails, but it has read the settings: tags that are asked for in the
environment behind it come too late. -/
theorem settings_last_of_failed_call :
    let failing : Step := .call Tool.convert.name []
    let dump := "CREATE TABLE coins (\n  id bigint\n);".toText
    let converting : Step := .call Tool.convert.name [("sql_content".toText, .str dump)]
    let tags : Environment := [("SQL2GO_INCLUDE_JSON".toText, "1".toText)]
    (run {} {} [failing]).2.settings = some {} ∧
      answers {} {} [failing, .setEnvironment tags, converting] = answers {} {} [failing, converting] := by
  intro failing dump converting tags
  obtain ⟨hleft, hstay, -⟩ := settings_last {} {} [] failing
  have hsettings : (run {} {} ([] ++ [failing])).2.settings = some {} :=
    (hleft {}).2 ⟨rfl, .inr ⟨by decide, rfl⟩⟩
  have hsteps : ∀ s ∈ [.setEnvironment tags, converting] ++ [converting], s.forgets = false := by
    simp [Step.forgets, converting]
  exact ⟨hsettings, (hstay {} hsettings [.setEnvironment tags, converting] [converting] hsteps rfl).1⟩

end

end Session
end TableStructs
