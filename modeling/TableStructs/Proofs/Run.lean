import TableStructs.Proofs.Reading

/-!
Whole passes. A conversion reads lines up to the first one it cannot use: `run_stop` cuts the lines
there, and `StopsAt` says it of `convert`. A check reads them all, and what it has reported stays
reported (`problems_prefix_run`).
-/
namespace TableStructs

/-! ### Converting -/

namespace Conversion
namespace State
variable {types : TypeTable} {tagged : Bool}

theorem run_append_of_pass {s t : State} {a : List Text} (h : s.run types tagged a = (t, none))
    (b : List Text) : s.run types tagged (a ++ b) = t.run types tagged b := by
  rw [run_append, h]

theorem run_append_of_stop {s t : State} {a : List Text} {e : LineError}
    (h : s.run types tagged a = (t, some e)) (b : List Text) :
    s.run types tagged (a ++ b) = (t, some e) := by
  rw [run_append, h]

theorem pass_of_run_append {s u : State} {a b : List Text}
    (h : s.run types tagged (a ++ b) = (u, none)) :
    ∃ t, s.run types tagged a = (t, none) ∧ t.run types tagged b = (u, none) := by
  rcases ha : s.run types tagged a with ⟨t, _ | e⟩
  · rw [run_append_of_pass ha] at h
    exact ⟨t, rfl, h⟩
  · rw [run_append_of_stop ha] at h
    cases h

/-- A line that can be used. -/
theorem run_cons_of_pass {s : State} {line : Text} (rest : List Text)
    (h : (Reading.ofLine types tagged line s.current.isSome).error? = none) :
    s.run types tagged (line :: rest) =
      (s.follow (Reading.ofLine types tagged line s.current.isSome)).run types tagged rest := by
  simp only [run, next_eq, h, Option.map_none]

/-- A line that cannot be used. -/
theorem run_cons_of_stop {s : State} {line : Text} {e : LineError} (rest : List Text)
    (h : (Reading.ofLine types tagged line s.current.isSome).error? = some e) :
    s.run types tagged (line :: rest) =
      (s.follow (Reading.ofLine types tagged line s.current.isSome), some (e.onLine (s.line + 1))) := by
  simp only [run, next_eq, h, Option.map_some]

/-- A run without an error can use its first line. -/
theorem pass_of_run_cons {s t : State} {line : Text} {rest : List Text}
    (h : s.run types tagged (line :: rest) = (t, none)) :
    (Reading.ofLine types tagged line s.current.isSome).error? = none ∧
      (s.follow (Reading.ofLine types tagged line s.current.isSome)).run types tagged rest =
        (t, none) := by
  cases he : (Reading.ofLine types tagged line s.current.isSome).error? with
  | none =>
    rw [run_cons_of_pass rest he] at h
    exact ⟨rfl, h⟩
  | some e =>
    rw [run_cons_of_stop rest he] at h
    cases h

theorem line_run {s t : State} {lines : List Text} (h : s.run types tagged lines = (t, none)) :
    t.line = s.line + lines.length := by
  induction lines generalizing s with
  | nil =>
    cases h
    rfl
  | cons line rest ih =>
    obtain ⟨-, hrest⟩ := pass_of_run_cons h
    rw [ih hrest, line_follow, List.length_cons]
    omega

/-- A run that ends in an error has read all lines before some line, and cannot use that one. -/
theorem run_stop {s t : State} {lines : List Text} {e : LineError}
    (h : s.run types tagged lines = (t, some e)) :
    ∃ before line rest u e', lines = before ++ line :: rest ∧
      s.run types tagged before = (u, none) ∧
      (Reading.ofLine types tagged line u.current.isSome).error? = some e' ∧
      e = e'.onLine (u.line + 1) := by
  induction lines generalizing s with
  | nil => simp [run] at h
  | cons line rest ih =>
    cases he : (Reading.ofLine types tagged line s.current.isSome).error? with
    | none =>
      rw [run_cons_of_pass rest he] at h
      obtain ⟨before, bad, behind, u, e', hlines, hpass, hbad, hnumber⟩ := ih h
      refine ⟨line :: before, bad, behind, u, e', by simp [hlines], ?_, hbad, hnumber⟩
      rw [run_cons_of_pass before he, hpass]
    | some e' =>
      rw [run_cons_of_stop rest he] at h
      simp only [Prod.mk.injEq, Option.some.injEq] at h
      exact ⟨[], line, rest, s, e', rfl, rfl, he, h.2.symm⟩

/-- No reading but that of a field leaves the open struct with the field in it. -/
theorem eq_adds_of_current_follow {s : State} {t : Struct} {f : Field} {r : Reading}
    (hs : s.current = some t) (h : (s.follow r).current = some (t.add f)) : r = .adds f := by
  rw [current_follow, hs] at h
  cases r with
  | opens table =>
    have hfields := congrArg Struct.fields (Option.some.inj h)
    simp [Struct.add, Struct.ofTable] at hfields
  | adds g =>
    have hfields := congrArg Struct.fields (Option.some.inj h)
    simpa [Struct.add] using hfields
  | nameless e => cases h
  | closes => cases h
  | faulty | constraint | nothing =>
    have hfields := congrArg Struct.fields (Option.some.inj h)
    simp [Struct.add] at hfields

end State

/-- The name of the table that is open after some lines. -/
def openTable (types : TypeTable) (tagged : Bool) (lines : List Text) : Option Text :=
  (({} : State).run types tagged lines).1.current.map (·.table)

/-- The struct that is open after some lines. -/
def openStruct (types : TypeTable) (tagged : Bool) (lines : List Text) : Option Struct :=
  (({} : State).run types tagged lines).1.current

/-- A conversion that has read `before` stops at the next line, `line`, with the error `e`. -/
structure StopsAt (types : TypeTable) (tagged : Bool) (before : List Text) (line : Text)
    (e : LineError) : Prop where
  passed : ∃ structs, (convert types tagged before).result = .ok structs
  stopped : (convert types tagged (before ++ [line])).result = .error e

/-- A conversion that has read `before` adds the field `f` to the open struct at the next line, `line`,
and goes on. -/
structure AddsAt (types : TypeTable) (tagged : Bool) (before : List Text) (line : Text)
    (f : Field) : Prop where
  passed : ∃ structs, (convert types tagged (before ++ [line])).result = .ok structs
  added : ∃ s, openStruct types tagged before = some s ∧
    openStruct types tagged (before ++ [line]) = some (s.add f)

end Conversion

section Convert
open Conversion
variable {types : TypeTable} {tagged : Bool} {lines : List Text}

theorem convert_ok_iff {structs : List Struct} :
    (convert types tagged lines).result = .ok structs ↔
      ∃ t, ({} : State).run types tagged lines = (t, none) ∧ t.finished = structs := by
  unfold convert
  rcases ({} : State).run types tagged lines with ⟨t, _ | e⟩ <;> simp

theorem convert_error_iff {e : LineError} :
    (convert types tagged lines).result = .error e ↔
      ∃ t, ({} : State).run types tagged lines = (t, some e) := by
  unfold convert
  rcases ({} : State).run types tagged lines with ⟨t, _ | e'⟩ <;> simp

/-- Stopping, seen from inside: the number of the line in error is that of the line. -/
theorem Conversion.stopsAt_iff {before : List Text} {line : Text} {e : LineError} :
    StopsAt types tagged before line e ↔
      ∃ t e', ({} : State).run types tagged before = (t, none) ∧
        (Reading.ofLine types tagged line t.current.isSome).error? = some e' ∧
        e = e'.onLine (before.length + 1) := by
  constructor
  · rintro ⟨⟨structs, hpass⟩, hstop⟩
    obtain ⟨t, ht, -⟩ := convert_ok_iff.1 hpass
    obtain ⟨u, hu⟩ := convert_error_iff.1 hstop
    rw [State.run_append_of_pass ht] at hu
    cases he : (Reading.ofLine types tagged line t.current.isSome).error? with
    | none =>
      rw [State.run_cons_of_pass [] he] at hu
      simp [State.run] at hu
    | some e' =>
      simp only [State.run_cons_of_stop [] he, State.line_run ht, Prod.mk.injEq,
        Option.some.injEq] at hu
      exact ⟨t, e', ht, he, by simpa using hu.2.symm⟩
  · rintro ⟨t, e', ht, he, rfl⟩
    refine ⟨⟨t.finished, convert_ok_iff.2 ⟨t, ht, rfl⟩⟩,
      convert_error_iff.2 ⟨t.follow (Reading.ofLine types tagged line t.current.isSome), ?_⟩⟩
    rw [State.run_append_of_pass ht, State.run_cons_of_stop [] he, State.line_run ht, Nat.zero_add]

/-- Adding, seen from inside: the line is a column line of the open table, and reads as the field. -/
theorem Conversion.addsAt_iff {before : List Text} {line : Text} {f : Field} :
    AddsAt types tagged before line f ↔
      ∃ t, ({} : State).run types tagged before = (t, none) ∧ t.current.isSome = true ∧
        Reading.ofLine types tagged line t.current.isSome = .adds f := by
  constructor
  · rintro ⟨⟨structs, hpass⟩, s, hs, hadd⟩
    obtain ⟨u, hu, -⟩ := convert_ok_iff.1 hpass
    obtain ⟨t, ht, hline⟩ := State.pass_of_run_append hu
    obtain ⟨-, hend⟩ := State.pass_of_run_cons hline
    have hcurrent : t.current = some s := by simpa [openStruct, ht] using hs
    have hfollow : (t.follow (Reading.ofLine types tagged line t.current.isSome)).current =
        some (s.add f) := by
      have hu' : u.current = some (s.add f) := by simpa [openStruct, hu] using hadd
      rw [← hu', (Prod.mk.inj hend).1]
    exact ⟨t, ht, by rw [hcurrent]; rfl, State.eq_adds_of_current_follow hcurrent hfollow⟩
  · rintro ⟨t, ht, hopen, hr⟩
    obtain ⟨s, hs⟩ := Option.isSome_iff_exists.1 hopen
    have hrun : ({} : State).run types tagged (before ++ [line]) = (t.follow (.adds f), none) := by
      rw [State.run_append_of_pass ht, State.run_cons_of_pass [] (by rw [hr]; rfl), hr]
      rfl
    refine ⟨⟨_, convert_ok_iff.2 ⟨_, hrun, rfl⟩⟩, s, by simp [openStruct, ht, hs], ?_⟩
    simp [openStruct, hrun, State.current_follow, hs]

/-- A conversion that fails stops at one of the lines. -/
theorem convert_stop {e : LineError} (h : (convert types tagged lines).result = .error e) :
    ∃ before line rest, lines = before ++ line :: rest ∧ StopsAt types tagged before line e := by
  obtain ⟨t, ht⟩ := convert_error_iff.1 h
  obtain ⟨before, line, rest, u, e', hlines, hpass, hbad, hnumber⟩ := State.run_stop ht
  refine ⟨before, line, rest, hlines, stopsAt_iff.2 ⟨u, e', hpass, hbad, ?_⟩⟩
  rw [hnumber, State.line_run hpass, Nat.zero_add]

/-- What stands behind the line that stops a conversion is never read. -/
theorem Conversion.StopsAt.convert_append {before : List Text} {line : Text} {e : LineError}
    (h : StopsAt types tagged before line e) (rest : List Text) :
    (convert types tagged (before ++ line :: rest)).result = .error e := by
  obtain ⟨t, ht⟩ := convert_error_iff.1 h.stopped
  have := State.run_append_of_stop ht rest
  exact convert_error_iff.2 ⟨t, by simpa using this⟩

end Convert

/-! ### Checking -/

namespace Report.State

/-- A check reads every line. -/
theorem line_run (types : TypeTable) (s : State) (lines : List Text) :
    (s.run types lines).line = s.line + lines.length := by
  induction lines generalizing s with
  | nil => rfl
  | cons line rest ih =>
    have hnext : (s.next types line).line = s.line + 1 := by
      rw [next_eq types false, line_follow]
    show ((s.next types line).run types rest).line = _
    rw [ih, hnext, List.length_cons]
    omega

theorem run_append_cons (types : TypeTable) (s : State) (before : List Text) (line : Text)
    (rest : List Text) :
    s.run types (before ++ line :: rest) = ((s.run types before).next types line).run types rest := by
  rw [run_append]
  rfl

/-- What a check reports at a reading. -/
def problem? (s : State) : Reading → Option Problem
  | .nameless e => some (.header (e.onLine (s.line + 1)))
  | .faulty e => s.current.map fun t => .column t.table (e.onLine (s.line + 1))
  | _ => none

theorem problems_leave (s : State) : s.leave.problems = s.problems := by
  unfold leave
  split <;> rfl

theorem problems_follow (s : State) (r : Reading) :
    (s.follow r).problems = s.problems ++ (s.problem? r).toList := by
  cases r with
  | opens table => simp [follow, problem?, start, warn, problems_leave, advance]
  | nameless e => simp [follow, problem?, report, problems_leave, advance]
  | closes =>
    simp only [follow, problem?]
    split <;> simp [close, warn, advance]
  | faulty e =>
    simp only [follow, problem?]
    split <;> simp [*, report, advance]
  | _ => simp [follow, problem?, advance]

theorem problem?_of_pass {r : Reading} (h : r.error? = none) (s : State) : s.problem? r = none := by
  cases r <;> simp_all [Reading.error?, problem?]

theorem problems_prefix_run (types : TypeTable) (s : State) (lines : List Text) :
    s.problems <+: (s.run types lines).problems := by
  induction lines generalizing s with
  | nil => exact List.prefix_rfl
  | cons line rest ih =>
    have hnext : s.problems <+: (s.next types line).problems := by
      rw [next_eq types false, problems_follow]
      exact List.prefix_append ..
    exact hnext.trans (ih _)

theorem finish_eq (s : State) :
    s.finish = { s with current := none, warnings := s.finish.warnings } := by
  cases hc : s.current with
  | none => rw [show s.finish = s by simp [finish, hc], ← hc]
  | some t => simp [finish, hc, warn]

end Report.State
end TableStructs
