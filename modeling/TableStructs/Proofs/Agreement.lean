import Mathlib.Algebra.Ring.Nat
import TableStructs.Proofs.Entries
import TableStructs.Proofs.Run

/-!
Converting a dump and checking it agree. The two passes keep different state: one the structs
themselves, the other a table's name, counts and entries. `Agree` relates the two. Every reading
preserves it (`Agree.follow`), also one in error, so up to the line at which a conversion stops the
check has counted what the conversion has built; its first problem is then that line's error.
-/
namespace TableStructs

namespace Report

/-- What is said about the lines that a conversion cannot use, in order. -/
def errors (r : Report) : List Text := r.problems.map Problem.message

/-- The counts of a report are those of some structs: their number, the number of their fields,
and under each name, in the order of first appearance, the fields of the last one of that name. -/
structure Counts (r : Report) (structs : List Struct) : Prop where
  tables : r.tableCount = structs.length
  columns : r.columnCount = (structs.map (·.fields.length)).sum
  names : r.structs.map (·.1) = (structs.map (·.name)).eraseDups
  last : ∀ name, r.structs.lookup name =
    (structs.reverse.find? (·.name = name)).map (·.fields.length)

/-- What a check knows of an open struct. -/
def OpenTable.ofStruct (t : Struct) : OpenTable := ⟨t.table, t.fields.length⟩

end Report

open Report (OpenTable Entry)

/-- A conversion and a check that have read the same lines. -/
structure Agree (s : Conversion.State) (r : Report.State) : Prop where
  line : r.line = s.line
  current : r.current = s.current.map OpenTable.ofStruct
  /-- The check computes a struct's name when it closes the table; the conversion has it already. -/
  named : ∀ t ∈ s.current, t.name = structName t.table
  counted : r.counted =
    (Entry.ofStructs s.finished, s.finished.length, (s.finished.map (·.fields.length)).sum)

namespace Agree
variable {s : Conversion.State} {r : Report.State} {types : TypeTable} {tagged : Bool}

theorem initial : Agree {} {} := ⟨rfl, rfl, (fun _ h => nomatch h), rfl⟩

theorem isSome (h : Agree s r) : r.current.isSome = s.current.isSome := by
  rw [h.current, Option.isSome_map]

theorem current_follow (h : Agree s r) (x : Reading) :
    (r.follow x).current = (s.follow x).current.map OpenTable.ofStruct := by
  rw [Report.State.current_follow, Conversion.State.current_follow, h.current]
  cases x with
  | opens table => rfl
  | adds f => cases s.current <;> simp [OpenTable.ofStruct, Struct.add]
  | _ => rfl

theorem named_follow (h : Agree s r) (x : Reading) :
    ∀ t ∈ (s.follow x).current, t.name = structName t.table := by
  rw [Conversion.State.current_follow]
  cases x with
  | opens table => simp [Struct.ofTable]
  | nameless e => simp
  | closes => simp
  | adds f =>
    intro t ht
    obtain ⟨u, hu, rfl⟩ := Option.map_eq_some_iff.1 ht
    exact h.named u hu
  | _ => exact h.named

/-- What the conversion finishes at a terminator is what the check counts there. -/
theorem counted_follow (h : Agree s r) (x : Reading) :
    (r.follow x).counted =
      (Entry.ofStructs (s.follow x).finished, (s.follow x).finished.length,
        ((s.follow x).finished.map (·.fields.length)).sum) := by
  rw [Report.State.counted_follow, Conversion.State.finished_follow]
  cases x with
  | closes =>
    have hr := h.current
    cases hc : s.current with
    | none =>
      rw [hc, Option.map_none] at hr
      simp [hr, h.counted]
    | some t =>
      have hname : Entry.ofStruct t = ⟨structName t.table, t.fields.length, t.table⟩ := by
        rw [Entry.ofStruct, h.named t hc]
      have hcounted := h.counted
      simp only [Report.State.counted, Prod.mk.injEq] at hcounted
      rw [hc, Option.map_some] at hr
      simp [hr, OpenTable.ofStruct, hcounted, Entry.ofStructs_concat, hname]
  | _ => exact h.counted

/-- **A reading preserves agreement**, one in error too. -/
theorem follow (h : Agree s r) (x : Reading) : Agree (s.follow x) (r.follow x) where
  line := by simp [h.line]
  current := h.current_follow x
  named := h.named_follow x
  counted := h.counted_follow x

/-- As long as the conversion reads on, the check agrees with it and has nothing to report. -/
theorem run (h : Agree s r) {t : Conversion.State} {lines : List Text}
    (hrun : s.run types tagged lines = (t, none)) :
    Agree t (r.run types lines) ∧ (r.run types lines).problems = r.problems := by
  induction lines generalizing s r with
  | nil =>
    cases hrun
    exact ⟨h, rfl⟩
  | cons line rest ih =>
    obtain ⟨hpass, hrest⟩ := Conversion.State.pass_of_run_cons hrun
    have hnext := Report.State.next_eq types tagged line r
    rw [h.isSome] at hnext
    have hproblems : (r.next types line).problems = r.problems := by
      rw [hnext, Report.State.problems_follow, Report.State.problem?_of_pass hpass,
        Option.toList_none, List.append_nil]
    have hagree := h.follow (Reading.ofLine types tagged line s.current.isSome)
    rw [← hnext] at hagree
    obtain ⟨hend, hsame⟩ := ih hagree hrest
    exact ⟨hend, hsame.trans hproblems⟩

end Agree

/-! ### The results of both passes -/

section Results
open Conversion
variable {types : TypeTable} {tagged : Bool}

theorem check_problems (lines : List Text) :
    (check types lines).problems = (({} : Report.State).run types lines).problems := by
  unfold check Report.ofState
  rw [Report.State.finish_eq]

/-- A check that agrees with a conversion at the end of the input has its counts. -/
theorem Agree.counts {s : State} {lines : List Text}
    (h : Agree s (({} : Report.State).run types lines)) : (check types lines).Counts s.finished := by
  have hcounted := h.counted
  simp only [Report.State.counted, Prod.mk.injEq] at hcounted
  obtain ⟨hentries, htables, hcolumns⟩ := hcounted
  have hcheck : (check types lines).entries = Entry.ofStructs s.finished := by
    rw [check, Report.ofState, Report.State.finish_eq, hentries]
  refine ⟨?_, ?_, ?_, fun name => ?_⟩
  · rw [check, Report.ofState, Report.State.finish_eq, htables]
  · rw [check, Report.ofState, Report.State.finish_eq, hcolumns]
  · rw [Report.structs, List.map_map, ← Entry.map_struct_ofStructs, ← hcheck]
    rfl
  · rw [Report.lookup_structs, hcheck, Entry.find?_ofStructs, Option.map_map]
    rfl

/-- A conversion that succeeds: the check reports no problem and counts the structs. -/
theorem check_of_convert_ok {lines : List Text} {structs : List Struct}
    (h : (convert types tagged lines).result = .ok structs) :
    (check types lines).problems = [] ∧ (check types lines).Counts structs := by
  obtain ⟨t, ht, rfl⟩ := convert_ok_iff.1 h
  obtain ⟨hagree, hproblems⟩ := Agree.initial.run ht
  exact ⟨(check_problems lines).trans hproblems, hagree.counts⟩

/-- The first problem of a check is that of the first line with one. -/
theorem check_head_problem {before rest : List Text} {line : Text} {p : Problem}
    (h : ((({} : Report.State).run types before).next types line).problems = [p]) :
    (check types (before ++ line :: rest)).problems.head? = some p := by
  obtain ⟨others, hothers⟩ := Report.State.problems_prefix_run types
    ((({} : Report.State).run types before).next types line) rest
  rw [check_problems, Report.State.run_append_cons, ← hothers, h]
  rfl

/-- A conversion that stops: the check reports the same line first, under the name of the open table
if it is no header. -/
theorem check_of_stopsAt {before : List Text} {line : Text} {e : LineError}
    (h : StopsAt types tagged before line e) (rest : List Text) :
    if Text.has headerMark line then
      (check types (before ++ line :: rest)).problems.head? = some (.header e)
    else ∃ table, openTable types tagged before = some table ∧
      (check types (before ++ line :: rest)).problems.head? = some (.column table e) := by
  obtain ⟨t, e', ht, he, rfl⟩ := stopsAt_iff.1 h
  obtain ⟨hagree, hproblems⟩ := Agree.initial.run ht
  have hnumber : (({} : Report.State).run types before).line = before.length := by
    rw [Report.State.line_run]
    exact Nat.zero_add _
  have hnext := Report.State.problems_follow (({} : Report.State).run types before)
    (Reading.ofLine types tagged line t.current.isSome)
  rw [← hagree.isSome, ← Report.State.next_eq, hproblems, hagree.isSome] at hnext
  rcases Reading.error?_cases he with ⟨hhead, hread⟩ | ⟨hhead, hopen, hread⟩
  · rw [if_pos hhead]
    apply check_head_problem
    rw [hnext, hread, Report.State.problem?, hnumber]
    rfl
  · simp only [hhead, Bool.false_eq_true, if_false]
    obtain ⟨c, hc⟩ := Option.isSome_iff_exists.1 hopen
    refine ⟨c.table, by simp [openTable, ht, hc], ?_⟩
    apply check_head_problem
    rw [hnext, hread, Report.State.problem?, hnumber, hagree.current, hc]
    rfl

/-- **A check and a conversion agree.** The check finds a dump valid if and only if it converts. An
error of the conversion is the first that the check reports, under the name of the open table
unless its line is a header; and the structs of a dump that converts have the check's counts. -/
theorem check_agrees_with_convert (types : TypeTable) (tagged : Bool) (lines : List Text) :
    ((check types lines).isValid = true ↔
      ∃ structs, (convert types tagged lines).result = .ok structs) ∧
    (∀ e, (convert types tagged lines).result = .error e →
      ∃ before line rest, lines = before ++ line :: rest ∧ StopsAt types tagged before line e ∧
        if Text.has headerMark line then (check types lines).errors.head? = some e.message
        else ∃ table, openTable types tagged before = some table ∧
          (check types lines).errors.head? =
            some ("Table '".toText ++ table ++ "': ".toText ++ e.message)) ∧
    ∀ structs, (convert types tagged lines).result = .ok structs →
      (check types lines).Counts structs := by
  refine ⟨⟨fun hvalid => ?_, ?_⟩, fun e he => ?_, fun structs h => (check_of_convert_ok h).2⟩
  · cases hr : (convert types tagged lines).result with
    | ok structs => exact ⟨structs, rfl⟩
    | error e =>
      obtain ⟨before, line, rest, rfl, hstop⟩ := convert_stop hr
      have hempty : (check types (before ++ line :: rest)).problems = [] := by
        simpa [Report.isValid] using hvalid
      have hfirst := check_of_stopsAt hstop rest
      simp [hempty] at hfirst
  · rintro ⟨structs, h⟩
    simp [Report.isValid, (check_of_convert_ok h).1]
  · obtain ⟨before, line, rest, rfl, hstop⟩ := convert_stop he
    refine ⟨before, line, rest, rfl, hstop, ?_⟩
    have hfirst := check_of_stopsAt hstop rest
    unfold Report.errors
    cases hhead : Text.has headerMark line with
    | true =>
      simp only [hhead, if_true] at hfirst ⊢
      rw [List.head?_map, hfirst]
      rfl
    | false =>
      simp only [hhead, Bool.false_eq_true, if_false] at hfirst ⊢
      obtain ⟨table, htable, hproblem⟩ := hfirst
      refine ⟨table, htable, ?_⟩
      rw [List.head?_map, hproblem]
      rfl

end Results
end TableStructs
