import TableStructs.Proofs.Run
import TableStructs.Proofs.Source

/-!
Dumps behind one another. A conversion that starts behind `n` lines which have given the structs
`done` is that of the remaining lines on their own, with other line numbers and with `done` in
front (`Behind.run`). This asks that no table is open in between, or that the remaining lines begin
with a header: a header gives up an open table, and what was in it never shows. What a struct has
become at its terminator stays, whatever is read behind it (`finished_prefix_run`).
-/
namespace TableStructs

namespace Conversion
variable {n : Nat} {done : List Struct} {s t : State}

/-! ### A state behind other lines -/

/-- `t` has read `n` lines more than `s`, and these have given the structs `done`. The open structs
may differ. -/
structure Behind (n : Nat) (done : List Struct) (s t : State) : Prop where
  line : t.line = n + s.line
  finished : t.finished = done ++ s.finished

/-- A pass is behind all that it has read. -/
theorem Behind.initial (t : State) : Behind t.line t.finished {} t :=
  ⟨rfl, (List.append_nil _).symm⟩

namespace Behind

/-- A reading that both follow: their open structs are the same, or the reading gives them up. -/
theorem follow (h : Behind n done s t) {r : Reading}
    (hc : t.current = s.current ∨ (∃ table, r = .opens table) ∨ ∃ e, r = .nameless e) :
    Behind n done (s.follow r) (t.follow r) ∧ (t.follow r).current = (s.follow r).current := by
  have hline : (t.follow r).line = n + (s.follow r).line := by
    rw [State.line_follow, State.line_follow, h.line, Nat.add_assoc]
  refine ⟨⟨hline, ?_⟩, ?_⟩
  · rw [State.finished_follow, State.finished_follow, h.finished]
    rcases hc with hc | ⟨table, rfl⟩ | ⟨e, rfl⟩
    · rw [hc]
      split
      · exact List.append_assoc ..
      · rfl
    · rfl
    · rfl
  · rw [State.current_follow, State.current_follow]
    rcases hc with hc | ⟨table, rfl⟩ | ⟨e, rfl⟩
    · rw [hc]
    · rfl
    · rfl

/-- **Reading on** behind other lines, from the same open struct or from a header. -/
theorem run (types : TypeTable) (tagged : Bool) (h : Behind n done s t) {lines : List Text}
    (hc : t.current = s.current ∨
      ∃ line rest, lines = line :: rest ∧ Text.has headerMark line = true) :
    Behind n done (s.run types tagged lines).1 (t.run types tagged lines).1 ∧
      (t.run types tagged lines).2 = (s.run types tagged lines).2.map (·.shift n) := by
  induction lines generalizing s t with
  | nil => exact ⟨h, rfl⟩
  | cons line rest ih =>
    have hread : Reading.ofLine types tagged line t.current.isSome =
        Reading.ofLine types tagged line s.current.isSome := by
      rcases hc with hc | ⟨_, _, ⟨⟩, hh⟩
      · rw [hc]
      · rw [Reading.ofLine_of_header hh, Reading.ofLine_of_header hh]
    have hfollow : t.current = s.current ∨
        (∃ table, Reading.ofLine types tagged line s.current.isSome = .opens table) ∨
        ∃ e, Reading.ofLine types tagged line s.current.isSome = .nameless e := by
      rcases hc with hc | ⟨_, _, ⟨⟩, hh⟩
      · exact .inl hc
      · exact .inr (Reading.of_header hh)
    obtain ⟨hnext, hcurrent⟩ := h.follow hfollow
    cases he : (Reading.ofLine types tagged line s.current.isSome).error? with
    | none =>
      rw [State.run_cons_of_pass rest he, State.run_cons_of_pass rest (hread ▸ he), hread]
      exact ih hnext (.inl hcurrent)
    | some e =>
      rw [State.run_cons_of_stop rest he, State.run_cons_of_stop rest (hread ▸ he), hread]
      refine ⟨hnext, ?_⟩
      rw [Option.map_some, LineError.shift_onLine, h.line, Nat.add_assoc]

end Behind

/-! ### Finished structs stay -/

namespace State

theorem finished_prefix_follow (s : State) (r : Reading) : s.finished <+: (s.follow r).finished := by
  rw [finished_follow]
  split
  · exact List.prefix_append ..
  · exact List.prefix_rfl

theorem finished_prefix_run (types : TypeTable) (tagged : Bool) (s : State) (lines : List Text) :
    s.finished <+: (s.run types tagged lines).1.finished := by
  induction lines generalizing s with
  | nil => exact List.prefix_rfl
  | cons line rest ih =>
    have hnext := s.finished_prefix_follow (Reading.ofLine types tagged line s.current.isSome)
    cases he : (Reading.ofLine types tagged line s.current.isSome).error? with
    | none =>
      rw [run_cons_of_pass rest he]
      exact hnext.trans (ih _)
    | some e =>
      rw [run_cons_of_stop rest he]
      exact hnext

end State
end Conversion

/-! ### Results -/

section Results
open Conversion
variable {types : TypeTable} {tagged : Bool} {xs ys : List Text}

theorem convert_append_of_error {e : LineError} (h : (convert types tagged xs).result = .error e) :
    (convert types tagged (xs ++ ys)).result = .error e := by
  obtain ⟨t, ht⟩ := convert_error_iff.1 h
  exact convert_error_iff.2 ⟨t, State.run_append_of_stop ht ys⟩

/-- A dump that converts, and behind it another one that does not continue its open table. -/
theorem convert_append_of_ok {as : List Struct} (h : (convert types tagged xs).result = .ok as)
    (hopen : openTable types tagged xs = none ∨
      ∃ line rest, ys = line :: rest ∧ Text.has headerMark line = true) :
    (convert types tagged (xs ++ ys)).result =
      match (convert types tagged ys).result with
      | .ok bs => .ok (as ++ bs)
      | .error e => .error (e.shift xs.length) := by
  obtain ⟨t, ht, rfl⟩ := convert_ok_iff.1 h
  have hcurrent : t.current = ({} : State).current ∨
      ∃ line rest, ys = line :: rest ∧ Text.has headerMark line = true := by
    refine hopen.imp_left fun hnone => ?_
    rw [openTable, ht] at hnone
    exact Option.map_eq_none_iff.1 hnone
  have hlength : t.line = xs.length := by
    rw [State.line_run ht]
    exact Nat.zero_add _
  obtain ⟨hbehind, herror⟩ := (Behind.initial t).run types tagged hcurrent
  rw [convert, State.run_append_of_pass ht, convert]
  rcases hu : ({} : State).run types tagged ys with ⟨u, o⟩
  rcases hv : t.run types tagged ys with ⟨v, o'⟩
  rw [hu, hv] at hbehind herror
  subst herror
  cases o with
  | none => exact congrArg Except.ok hbehind.finished
  | some e =>
    rw [hlength]
    rfl

/-- Lines that continue an open table say nothing alone. -/
example :
    let xs := ["CREATE TABLE coins ("].map String.toText
    let ys := ["x text", ");"].map String.toText
    (convert .builtin false ys).result = .ok [] ∧
      (convert .builtin false (xs ++ ys)).result ≠ .ok [] := by
  decide +kernel

theorem exists_prefix_of_convert_append {cs : List Struct}
    (h : (convert types tagged (xs ++ ys)).result = .ok cs) :
    ∃ as, (convert types tagged xs).result = .ok as ∧ as <+: cs := by
  obtain ⟨u, hu, rfl⟩ := convert_ok_iff.1 h
  obtain ⟨t, ht, hrest⟩ := State.pass_of_run_append hu
  have hprefix := t.finished_prefix_run types tagged ys
  rw [hrest] at hprefix
  exact ⟨t.finished, convert_ok_iff.2 ⟨t, ht, rfl⟩, hprefix⟩

/-- **Concatenation.** A dump that fails does so whatever stands behind it. Behind one that converts,
another one that does not continue its open table converts if and only if it does so alone: the
structs stand behind one another, so do the Go sources under any settings that can be read, and an
error has its line number increased. And what stands behind a dump never changes its structs. -/
theorem conversion_append (c : Converter) (tagged : Bool) (xs ys : List Text) :
    (∀ e, (convert c.types tagged xs).result = .error e →
      (convert c.types tagged (xs ++ ys)).result = .error e) ∧
    (∀ as, (convert c.types tagged xs).result = .ok as →
      (openTable c.types tagged xs = none ∨
        ∃ line rest, ys = line :: rest ∧ Text.has headerMark line = true) →
      ((∃ cs, (convert c.types tagged (xs ++ ys)).result = .ok cs) ↔
        ∃ bs, (convert c.types tagged ys).result = .ok bs) ∧
      (∀ bs, (convert c.types tagged ys).result = .ok bs →
        (convert c.types tagged (xs ++ ys)).result = .ok (as ++ bs) ∧
        ∀ settings, ∃ go go', ∀ w, Action.getSettings.Returns w settings →
          (c.source tagged { lines := xs }).Returns w go ∧
          (c.source tagged { lines := ys }).Returns w go' ∧
          (c.source tagged { lines := xs ++ ys }).Returns w (go ++ go')) ∧
      (∀ e, (convert c.types tagged ys).result = .error e →
        (convert c.types tagged (xs ++ ys)).result = .error (e.shift xs.length))) ∧
    (∀ cs, (convert c.types tagged (xs ++ ys)).result = .ok cs →
      ∃ as, (convert c.types tagged xs).result = .ok as ∧ as <+: cs) := by
  refine ⟨fun e => convert_append_of_error, fun as has hopen => ?_,
    fun cs => exists_prefix_of_convert_append⟩
  have happend := convert_append_of_ok has hopen
  refine ⟨?_, fun bs hbs => ?_, fun e he => ?_⟩
  · cases hys : (convert c.types tagged ys).result with
    | ok bs => simp [happend, hys]
    | error e => simp [happend, hys]
  · rw [hbs] at happend
    refine ⟨happend, fun settings => ⟨goSource (c.key settings) as, goSource (c.key settings) bs,
      fun w hw => ?_⟩⟩
    have hsettings := Action.getSettings_returns_iff.1 hw
    refine ⟨Converter.source_returns has hsettings, Converter.source_returns hbs hsettings, ?_⟩
    rw [← goSource_append]
    exact Converter.source_returns happend hsettings
  · rw [happend, he]

end Results
end TableStructs
