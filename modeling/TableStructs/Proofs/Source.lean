import Mathlib.Data.List.Basic
import TableStructs.Tool

/-!
The Go source of a dump, as the result of an action. `Returns` says what an action gives and leaves
open what it logs. With settings that can be read, converting a text gives the source of its structs
under one key (`source_returns`); structs without tags have the same source under every key, so
it does not matter that their key is not asked for.
-/
namespace TableStructs

/-! ### Actions -/

/-- The settings that an action would get: those remembered, or else those of the environment. -/
def Workspace.settings? (w : Workspace) : Except Text Settings :=
  match w.settings with
  | some settings => .ok settings
  | none => Settings.ofEnvironment w.environment

@[simp] theorem Workspace.settings?_log (w : Workspace) (log : List Log.Record) :
    ({ w with log } : Workspace).settings? = w.settings? := rfl

namespace Action
variable {α β : Type}

/-- The action succeeds in the workspace and gives `a`. -/
def Returns (x : Action α) (w : Workspace) (a : α) : Prop := ∃ w', x.run w = .ok a w'

theorem returns_bind {x : Action α} {f : α → Action β} {w v : Workspace} {a : α} {b : β}
    (hx : x.run w = .ok a v) (hf : (f a).Returns v b) : (x >>= f).Returns w b := by
  obtain ⟨v', hv'⟩ := hf
  refine ⟨v', ?_⟩
  rw [EStateM.run_bind, hx]
  exact hv'

/-- Settings that have been read are remembered. -/
theorem getSettings_run (w : Workspace) :
    getSettings.run w =
      match w.settings? with
      | .ok settings => .ok settings { w with settings := some settings }
      | .error word => .error (.setting word) w := by
  obtain ⟨files, encodings, environment, remembered, log⟩ := w
  cases remembered with
  | some settings => rfl
  | none =>
    simp only [getSettings, EStateM.run_bind, EStateM.run_get, Workspace.settings?]
    cases Settings.ofEnvironment environment <;> rfl

theorem getSettings_returns_iff {w : Workspace} {settings : Settings} :
    getSettings.Returns w settings ↔ w.settings? = .ok settings := by
  unfold Returns
  rw [getSettings_run]
  cases w.settings? <;> simp

theorem note_run (records : List Log.Record) (w : Workspace) :
    (note records).run w = .ok () { w with log := w.log ++ records } := rfl

end Action

/-! ### Sources -/

theorem goSource_append (key : Text) (a b : List Struct) :
    goSource key (a ++ b) = goSource key a ++ goSource key b := List.flatMap_append

/-- Only tags show the key. -/
theorem Struct.render_of_untagged {s : Struct} (h : s.isTagged = false) (key key' : Text) :
    s.render key = s.render key' := by
  have hfield : ∀ f ∈ s.fields, s.fieldLine key f = s.fieldLine key' f := by
    intro f hf
    have htag : f.tag = none := by simpa [isTagged] using List.any_eq_false.1 h f hf
    rw [fieldLine, fieldLine, htag]
  have hlines : s.fields.flatMap (fun f => fieldLine key s f ++ [.char '\n']) =
      s.fields.flatMap (fun f => fieldLine key' s f ++ [.char '\n']) :=
    List.flatMap_congr fun f hf => by rw [hfield f hf]
  unfold render
  rw [hlines]

theorem goSource_of_untagged {structs : List Struct} (h : structs.any (·.isTagged) = false)
    (key key' : Text) : goSource key structs = goSource key' structs :=
  List.flatMap_congr fun s hs =>
    s.render_of_untagged (by simpa using List.any_eq_false.1 h s hs) key key'

namespace Converter
open TableStructs.Action
variable {c : Converter} {w : Workspace} {settings : Settings}

/-- The key of tags under some settings. -/
def key (c : Converter) (settings : Settings) : Text :=
  match c.tagKey with
  | some (k :: rest) => k :: rest
  | _ => settings.tagKey

theorem getTagKey_returns (h : w.settings? = .ok settings) :
    c.getTagKey.Returns w (c.key settings) := by
  have hrun := getSettings_run w
  rw [h] at hrun
  obtain ⟨types, tagKey⟩ := c
  rcases tagKey with _ | _ | ⟨k, rest⟩
  · exact returns_bind hrun ⟨_, EStateM.run_pure ..⟩
  · exact returns_bind hrun ⟨_, EStateM.run_pure ..⟩
  · exact ⟨w, EStateM.run_pure ..⟩

/-- Structs have their source under the key of the settings, whether it is asked for or not. -/
theorem render_returns (h : w.settings? = .ok settings) (structs : List Struct) :
    (c.render structs).Returns w (goSource (c.key settings) structs) := by
  unfold render
  cases htagged : structs.any (·.isTagged) with
  | true =>
    obtain ⟨v, hv⟩ := getTagKey_returns (c := c) h
    exact returns_bind hv ⟨v, rfl⟩
  | false =>
    rw [goSource_of_untagged htagged (c.key settings) []]
    exact ⟨w, rfl⟩

/-- The structs of a text are those of its conversion, which is noted in the log. -/
theorem structs_run {tagged : Bool} {lines : List Text} {structs : List Struct}
    (h : (convert c.types tagged lines).result = .ok structs) (w : Workspace) :
    (c.structs tagged { lines }).run w =
      .ok structs { w with
        log := w.log ++ (convert c.types tagged lines).notices.map .notice ++
          (convert c.types tagged lines).endNotices.map .notice } := by
  simp only [Converter.structs, EStateM.run_bind, EStateM.run_pure, note_run, h]

/-- The source of a dump that converts. -/
theorem source_returns {tagged : Bool} {lines : List Text} {structs : List Struct}
    (h : (convert c.types tagged lines).result = .ok structs) (hw : w.settings? = .ok settings) :
    (c.source tagged { lines }).Returns w (goSource (c.key settings) structs) :=
  returns_bind (structs_run h w) (render_returns ((w.settings?_log _).trans hw) structs)

end Converter
end TableStructs
