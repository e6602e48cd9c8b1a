import TableStructs.Proofs.Source

/-!
What an action comes to, and what it leaves. `result` and `after` are the two halves of a run;
`result_bind` and `after_bind` take them through a sequence of actions. Most actions only read: they
leave the files and the settings that would be read as they were (`Quiet`).
-/
namespace TableStructs.Action
variable {α β : Type}

/-- What an action comes to. -/
def result (x : Action α) (w : Workspace) : Except Failure α :=
  match x.run w with
  | .ok a _ => .ok a
  | .error f _ => .error f

/-- The workspace that an action leaves, whatever it comes to. -/
def after (x : Action α) (w : Workspace) : Workspace :=
  match x.run w with
  | .ok _ v => v
  | .error _ v => v

theorem result_of_run {x : Action α} {w v : Workspace} {a : α} (h : x.run w = .ok a v) :
    result x w = .ok a := by
  rw [result, h]

theorem after_of_run {x : Action α} {w v : Workspace} {a : α} (h : x.run w = .ok a v) :
    after x w = v := by
  rw [after, h]

theorem Returns.result {x : Action α} {w : Workspace} {a : α} (h : x.Returns w a) :
    x.result w = .ok a :=
  let ⟨_, hv⟩ := h
  result_of_run hv

theorem returns_iff_result {x : Action α} {w : Workspace} {a : α} : x.Returns w a ↔ x.result w = .ok a := by
  refine ⟨Returns.result, fun h => ?_⟩
  unfold Action.result at h
  split at h
  · next v hv =>
    cases h
    exact ⟨v, hv⟩
  · cases h

theorem result_bind (x : Action α) (g : α → Action β) (w : Workspace) :
    result (x >>= g) w =
      match result x w with
      | .ok a => result (g a) (after x w)
      | .error f => .error f := by
  unfold result after
  rw [EStateM.run_bind]
  cases x.run w <;> rfl

theorem after_bind (x : Action α) (g : α → Action β) (w : Workspace) :
    after (x >>= g) w =
      match result x w with
      | .ok a => after (g a) (after x w)
      | .error _ => after x w := by
  unfold result after
  rw [EStateM.run_bind]
  cases x.run w <;> rfl

theorem run_tryCatch (x : Action α) (g : Failure → Action α) (w : Workspace) :
    (tryCatch x g).run w =
      match x.run w with
      | .ok a v => .ok a v
      | .error f v => (g f).run v := by
  show EStateM.tryCatch x g w = _
  unfold EStateM.tryCatch EStateM.run
  cases x w <;> rfl

theorem result_tryCatch (x : Action α) (g : Failure → Action α) (w : Workspace) :
    result (tryCatch x g) w =
      match result x w with
      | .ok a => .ok a
      | .error f => result (g f) (after x w) := by
  unfold result after
  rw [run_tryCatch]
  cases x.run w <;> rfl

theorem after_tryCatch (x : Action α) (g : Failure → Action α) (w : Workspace) :
    after (tryCatch x g) w =
      match result x w with
      | .ok _ => after x w
      | .error f => after (g f) (after x w) := by
  unfold result after
  rw [run_tryCatch]
  cases x.run w <;> rfl

/-- What an action comes to, and the files that it leaves. -/
def outcome (x : Action α) (w : Workspace) : Except Failure α × FileTree :=
  (x.result w, (x.after w).files)

theorem getEncoding_run (name : Text) (w : Workspace) :
    (getEncoding name).run w =
      match w.encodings name with
      | .ok encoding => .ok encoding w
      | .error fault => .error (.encodingName fault name) w := by
  simp only [getEncoding, EStateM.run_bind, EStateM.run_get]
  cases w.encodings name <;> rfl

/-- Why no file can be opened by a path, to be read or written in an encoding, whatever files and
encodings there are. The name of the encoding is looked at first. -/
def openFailure? (path encoding : Text) : Option Failure := (nameFailure? encoding).or (pathFailure? path)

theorem openFailure?_eq_none_iff {path encoding : Text} :
    openFailure? path encoding = none ↔ nameFailure? encoding = none ∧ pathFailure? path = none := by
  rw [openFailure?, Option.or_eq_none_iff]

/-- An encoding can be had by a name. -/
structure Supports (encodings : Encoding.Registry) (name : Text) (encoding : Encoding) : Prop where
  usable : nameFailure? name = none
  known : encodings name = .ok encoding

/-- A path and a name that are texts in UTF-8 can be handed on, apart from the code point zero. -/
theorem openFailure?_eq_some {path encoding : Text} {f : Failure} (h : openFailure? path encoding = some f) :
    f = .zeroInPath ∨ ∃ e, f = .encode e := by
  rw [openFailure?, Option.or_eq_some_iff] at h
  obtain hname | ⟨-, hpath⟩ := h
  · unfold nameFailure? at hname
    split at hname
    · exact .inr ⟨_, (Option.some.inj hname).symm⟩
    · cases hname
  · unfold pathFailure? at hpath
    split at hpath
    · exact .inr ⟨_, (Option.some.inj hpath).symm⟩
    · split at hpath
      · exact .inl (Option.some.inj hpath).symm
      · cases hpath

theorem usablePath_run (path : Text) (w : Workspace) :
    (usablePath path).run w =
      match pathFailure? path with
      | some f => .error f w
      | none => .ok path w := by
  unfold usablePath
  cases pathFailure? path <;> rfl

theorem usableName_run (name : Text) (w : Workspace) :
    (usableName name).run w =
      match nameFailure? name with
      | some f => .error f w
      | none => .ok name w := by
  unfold usableName
  cases nameFailure? name <;> rfl

/-! ### Actions that only read -/

/-- The action only reads: it leaves the files, the encodings and the settings to be read as they were. -/
structure Quiet (x : Action α) : Prop where
  files : ∀ w, (x.after w).files = w.files
  encodings : ∀ w, (x.after w).encodings = w.encodings
  settings? : ∀ w, (x.after w).settings? = w.settings?

namespace Quiet

theorem pure (a : α) : Quiet (Pure.pure a : Action α) := ⟨fun _ => rfl, fun _ => rfl, fun _ => rfl⟩

theorem throw (f : Failure) :
    Quiet (MonadExcept.throw f : Action α) := ⟨fun _ => rfl, fun _ => rfl, fun _ => rfl⟩

theorem note (records : List Log.Record) : Quiet (Action.note records) :=
  ⟨fun _ => rfl, fun _ => rfl, fun _ => rfl⟩

theorem bind {x : Action α} {g : α → Action β} (hx : Quiet x) (hg : ∀ a, Quiet (g a)) :
    Quiet (x >>= g) where
  files w := by
    rw [after_bind]
    cases result x w with
    | ok a => exact ((hg a).files _).trans (hx.files w)
    | error f => exact hx.files w
  encodings w := by
    rw [after_bind]
    cases result x w with
    | ok a => exact ((hg a).encodings _).trans (hx.encodings w)
    | error f => exact hx.encodings w
  settings? w := by
    rw [after_bind]
    cases result x w with
    | ok a => exact ((hg a).settings? _).trans (hx.settings? w)
    | error f => exact hx.settings? w

theorem getSettings : Quiet Action.getSettings where
  files w := by
    rw [after, getSettings_run]
    cases w.settings? <;> rfl
  encodings w := by
    rw [after, getSettings_run]
    cases w.settings? <;> rfl
  settings? w := by
    rw [after, getSettings_run]
    cases hs : w.settings? with
    | ok settings => rfl
    | error word => exact hs

theorem ofFiles (r : Except FileError α) : Quiet (Action.ofFiles r) := by
  cases r with
  | ok a => exact .pure a
  | error e => exact .throw _

/-- The files may be looked at. -/
theorem readFile (path : Text) : Quiet (do Action.ofFiles ((← get).files.read path)) where
  files w := (ofFiles _).files w
  encodings w := (ofFiles _).encodings w
  settings? w := (ofFiles _).settings? w

theorem usablePath (path : Text) : Quiet (Action.usablePath path) := by
  unfold Action.usablePath
  split
  · exact .throw _
  · exact .pure _

theorem usableName (name : Text) : Quiet (Action.usableName name) := by
  unfold Action.usableName
  split
  · exact .throw _
  · exact .pure _

theorem getEncoding (name : Text) : Quiet (Action.getEncoding name) where
  files w := by
    rw [after, getEncoding_run]
    cases w.encodings name <;> rfl
  encodings w := by
    rw [after, getEncoding_run]
    cases w.encodings name <;> rfl
  settings? w := by
    rw [after, getEncoding_run]
    cases w.encodings name <;> rfl

theorem readLines (path encoding : Text) : Quiet (Action.readLines path encoding) :=
  (usableName encoding).bind fun encoding => (usablePath path).bind fun path => (readFile path).bind fun _ =>
    (getEncoding encoding).bind fun _ => .pure _

/-- What an action that only reads hands on: its result, and files and settings as they were. -/
theorem outcome_bind {x : Action α} (hx : Quiet x) (g : α → Action β) (w : Workspace) :
    outcome (x >>= g) w =
      match x.result w with
      | .ok a => outcome (g a) (x.after w)
      | .error f => (.error f, w.files) := by
  rw [outcome, result_bind, after_bind]
  cases x.result w with
  | ok a => rfl
  | error f => rw [← hx.files w]

end Quiet

theorem result_getSettings {w : Workspace} {settings : Settings} (h : w.settings? = .ok settings) :
    getSettings.result w = .ok settings :=
  (getSettings_returns_iff.2 h).result

theorem result_getSettings_error {w : Workspace} {word : Text} (h : w.settings? = .error word) :
    getSettings.result w = .error (.setting word) := by
  rw [result, getSettings_run, h]

end TableStructs.Action
