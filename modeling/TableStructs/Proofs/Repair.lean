import TableStructs.Proofs.Agreement

/-!
A dump repaired line by line. As long as a conversion fails, the line in error is replaced by an
empty one and the conversion runs again. A check finds in one pass what this loop meets round by
round, on every dump whose headers all have names.

Behind it stands that a column line in error leaves a check where an empty line would, except for
the problem it reports (`next_faulty`), and that nothing a check does later depends on the problems
it has reported (`run_problems`).
-/
namespace TableStructs

/-- The loop: it starts at `lines`, meets errors, each with the table that is open at its line, and
stops at the lines `repaired`, which convert to `structs`. -/
inductive Repair (types : TypeTable) (tagged : Bool) :
    (lines : List Text) → (met : List (Option Text × LineError)) → (repaired : List Text) →
      (structs : List Struct) → Prop
  | done {lines structs} (ok : (convert types tagged lines).result = .ok structs) :
    Repair types tagged lines [] lines structs
  | round {lines e i met repaired structs}
    (error : (convert types tagged lines).result = .error e)
    (number : e.number? = some (i + 1 : Nat))
    (next : Repair types tagged (lines.set i []) met repaired structs) :
    Repair types tagged lines
      ((Conversion.openTable types tagged (lines.take i), e) :: met) repaired structs

/-- The loop has one course only. -/
theorem Repair.unique {types : TypeTable} {tagged : Bool} {lines : List Text}
    {met met' : List (Option Text × LineError)} {repaired repaired' : List Text}
    {structs structs' : List Struct} (h : Repair types tagged lines met repaired structs)
    (h' : Repair types tagged lines met' repaired' structs') :
    met' = met ∧ repaired' = repaired ∧ structs' = structs := by
  induction h generalizing met' with
  | done ok =>
    cases h' with
    | done ok' => exact ⟨rfl, rfl, Except.ok.inj (ok'.symm.trans ok)⟩
    | round error => cases ok.symm.trans error
  | round error number _ ih =>
    cases h' with
    | done ok => cases ok.symm.trans error
    | round error' number' next' =>
      cases error.symm.trans error'
      cases Nat.succ.inj (Int.ofNat.inj (Option.some.inj (number.symm.trans number')))
      obtain ⟨rfl, hrest⟩ := ih next'
      exact ⟨rfl, hrest⟩

/-- The loop stops at lines that convert. -/
theorem Repair.converts {types : TypeTable} {tagged : Bool} {lines repaired : List Text}
    {met : List (Option Text × LineError)} {structs : List Struct}
    (h : Repair types tagged lines met repaired structs) :
    (convert types tagged repaired).result = .ok structs := by
  induction h with
  | done ok => exact ok
  | round _ _ _ ih => exact ih

/-! ### Checks and their problems -/

namespace Report.State

/-- No reading is followed otherwise because of problems reported before. -/
theorem follow_problems (s : State) (ps : List Problem) (r : Reading) :
    { s with problems := ps ++ s.problems }.follow r =
      { s.follow r with problems := ps ++ (s.follow r).problems } := by
  obtain ⟨n, current, problems, warnings, entries, tableCount, columnCount, skipped⟩ := s
  cases r with
  | nameless e => cases current <;> simp [follow, advance, leave, report, warn]
  | faulty e => cases current <;> simp [follow, advance, report]
  | _ => cases current <;> rfl

theorem run_problems (types : TypeTable) (s : State) (ps : List Problem) (lines : List Text) :
    { s with problems := ps ++ s.problems }.run types lines =
      { s.run types lines with problems := ps ++ (s.run types lines).problems } := by
  induction lines generalizing s with
  | nil => rfl
  | cons line rest ih =>
    show ({ s with problems := ps ++ s.problems }.next types line).run types rest = _
    rw [next_eq types false, follow_problems, ih]
    rw [← next_eq types false]
    rfl

theorem finish_problems (s : State) (ps : List Problem) :
    { s with problems := ps }.finish = { s.finish with problems := ps } := by
  obtain ⟨n, current, problems, warnings, entries, tableCount, columnCount, skipped⟩ := s
  cases current <;> rfl

/-- A column line in error leaves what a blank line would leave, and one more problem. -/
theorem next_faulty {types : TypeTable} {tagged : Bool} {line : Text} {s : State} {t : OpenTable}
    {e : LineError} (ht : s.current = some t)
    (hr : Reading.ofLine types tagged line s.current.isSome = .faulty e) :
    s.next types line =
      { s.next types [] with problems := s.problems ++ [.column t.table (e.onLine (s.line + 1))] } := by
  rw [next_eq types tagged, hr, next_eq types tagged, Reading.ofLine_blank]
  simp [follow, ht, report, advance]

end Report.State

/-- What a column line in error is to the check of a dump: a blank line, and the first problem. -/
theorem run_of_stopsAt {types : TypeTable} {tagged : Bool} {before : List Text} {line : Text}
    {e : LineError} (h : Conversion.StopsAt types tagged before line e)
    (hh : Text.has headerMark line = false) :
    ∃ table, Conversion.openTable types tagged before = some table ∧
      ∀ rest, ({} : Report.State).run types (before ++ line :: rest) =
        { ({} : Report.State).run types (before ++ [] :: rest) with
          problems := .column table e ::
            (({} : Report.State).run types (before ++ [] :: rest)).problems } := by
  obtain ⟨t, e', ht, he, rfl⟩ := Conversion.stopsAt_iff.1 h
  obtain ⟨hagree, hproblems⟩ := Agree.initial.run ht
  obtain ⟨-, hopen, hread⟩ := (Reading.error?_cases he).resolve_left fun h' => by simp [hh] at h'
  obtain ⟨c, hc⟩ := Option.isSome_iff_exists.1 hopen
  refine ⟨c.table, by simp [Conversion.openTable, ht, hc], fun rest => ?_⟩
  have hnumber : (({} : Report.State).run types before).line = before.length := by
    rw [Report.State.line_run]
    exact Nat.zero_add _
  have hnext := Report.State.next_faulty (hagree.current.trans (congrArg _ hc))
    (hagree.isSome ▸ hread)
  have hblank : ((({} : Report.State).run types before).next types []).problems = [] := by
    rw [Report.State.next_eq types tagged, Reading.ofLine_blank]
    exact hproblems
  rw [Report.State.run_append_cons, Report.State.run_append_cons, hnext, hproblems, hnumber]
  have := Report.State.run_problems types ((({} : Report.State).run types before).next types [])
    [.column c.table (e'.onLine (before.length + 1))] rest
  rw [hblank, List.append_nil] at this
  exact this

/-! ### Repairing behind some lines -/

/-- The loop on lines of which the first ones, `before`, convert: it repairs those behind them, and
the check that has read `before` finds there what the loop meets. -/
structure RepairsBehind (types : TypeTable) (tagged : Bool) (before rest : List Text)
    (met : List (Text × LineError)) (repaired : List Text) (structs : List Struct) : Prop where
  loop : Repair types tagged (before ++ rest) (met.map fun m => (some m.1, m.2))
    (before ++ repaired) structs
  numbers : ∃ numbers : List Nat, met.map (·.2.number?) = numbers.map (fun n : Nat => some (n : Int)) ∧
    (before.length :: numbers).Pairwise (· < ·)
  problems : (({} : Report.State).run types (before ++ rest)).problems =
    met.map fun m => .column m.1 m.2
  report : ({} : Report.State).run types (before ++ repaired) =
    { ({} : Report.State).run types (before ++ rest) with problems := [] }

namespace RepairsBehind
open Conversion
variable {types : TypeTable} {tagged : Bool} {before rest repaired : List Text}
  {met : List (Text × LineError)} {structs : List Struct}

theorem done {s : State} (h : ({} : State).run types tagged before = (s, none)) :
    RepairsBehind types tagged before [] [] [] s.finished where
  loop := by
    rw [List.append_nil]
    exact .done (convert_ok_iff.2 ⟨s, h, rfl⟩)
  numbers := ⟨[], rfl, by simp⟩
  problems := by
    rw [List.append_nil]
    exact (Agree.initial.run h).2
  report := by
    have hproblems := (Agree.initial.run h).2
    rw [List.append_nil]
    generalize ({} : Report.State).run types before = r at hproblems ⊢
    cases r
    cases hproblems
    rfl

/-- A line that can be used stays. -/
theorem pass {line : Text} (h : RepairsBehind types tagged (before ++ [line]) rest met repaired structs) :
    RepairsBehind types tagged before (line :: rest) met (line :: repaired) structs where
  loop := by simpa using h.loop
  numbers := by
    obtain ⟨numbers, hmet, hnumbers⟩ := h.numbers
    refine ⟨numbers, hmet, ?_⟩
    obtain ⟨hfirst, hrest⟩ := List.pairwise_cons.1 hnumbers
    rw [List.length_append] at hfirst
    refine List.pairwise_cons.2 ⟨fun n hn => ?_, hrest⟩
    exact Nat.lt_of_le_of_lt (Nat.le_add_right ..) (hfirst n hn)
  problems := by simpa using h.problems
  report := by simpa using h.report

/-- A column line in error costs the loop one round, and the check one problem. -/
theorem round {line : Text} {e : LineError} (hs : StopsAt types tagged before line e)
    (hh : Text.has headerMark line = false)
    (h : RepairsBehind types tagged (before ++ [[]]) rest met repaired structs) :
    ∃ table,
      RepairsBehind types tagged before (line :: rest) ((table, e) :: met) ([] :: repaired) structs := by
  obtain ⟨table, htable, hrun⟩ := run_of_stopsAt hs hh
  have hnumber : e.number? = some ((before.length + 1 : Nat) : Int) := by
    obtain ⟨-, e', -, -, rfl⟩ := stopsAt_iff.1 hs
    exact e'.number?_onLine _
  have hloop := h.loop
  have hproblems := h.problems
  have hreport := h.report
  obtain ⟨numbers, hmet, hnumbers⟩ := h.numbers
  rw [List.length_append] at hnumbers
  simp only [List.append_assoc, List.singleton_append] at hloop hproblems hreport
  refine ⟨table, ?_, ⟨(before.length + 1) :: numbers, ?_, ?_⟩, ?_, ?_⟩
  · have hset : (before ++ line :: rest).set before.length [] = before ++ [] :: rest := by simp
    rw [← hset] at hloop
    have := Repair.round (hs.convert_append rest) hnumber hloop
    rwa [List.take_left, htable] at this
  · simp [hnumber, hmet]
  · refine List.pairwise_cons.2 ⟨fun n hn => ?_, hnumbers⟩
    rcases List.mem_cons.1 hn with rfl | hn
    · exact Nat.lt_succ_self _
    · exact Nat.lt_of_succ_lt ((List.pairwise_cons.1 hnumbers).1 n hn)
  · rw [hrun, List.map_cons, ← hproblems]
  · rw [hrun, hreport]

end RepairsBehind

/-- **The loop ends** on every dump whose headers all have names, wherever it starts. -/
theorem exists_repairsBehind {types : TypeTable} {tagged : Bool} {before rest : List Text}
    {s : Conversion.State} (hs : ({} : Conversion.State).run types tagged before = (s, none))
    (hnamed : ∀ line ∈ rest, Text.has headerMark line = true → (headerTable? line).isSome = true) :
    ∃ met repaired structs, RepairsBehind types tagged before rest met repaired structs := by
  induction rest generalizing before s with
  | nil => exact ⟨[], [], s.finished, .done hs⟩
  | cons line rest ih =>
    have hrest := fun l hl => hnamed l (List.mem_cons_of_mem _ hl)
    have hconcat (l : Text)
        (hl : (Reading.ofLine types tagged l s.current.isSome).error? = none) :
        ∃ t, ({} : Conversion.State).run types tagged (before ++ [l]) = (t, none) := by
      rw [Conversion.State.run_append_of_pass hs, Conversion.State.run_cons_of_pass [] hl]
      exact ⟨_, rfl⟩
    cases he : (Reading.ofLine types tagged line s.current.isSome).error? with
    | none =>
      obtain ⟨t, ht⟩ := hconcat line he
      obtain ⟨met, repaired, structs, h⟩ := ih ht hrest
      exact ⟨met, line :: repaired, structs, h.pass⟩
    | some e =>
      have hh : Text.has headerMark line = false := by
        apply eq_false_of_ne_true
        intro hh
        rw [Reading.error?_of_named hh (hnamed line List.mem_cons_self hh)] at he
        cases he
      obtain ⟨t, ht⟩ := hconcat [] (by rw [Reading.ofLine_blank]; rfl)
      obtain ⟨met, repaired, structs, h⟩ := ih ht hrest
      obtain ⟨table, hround⟩ := h.round (Conversion.stopsAt_iff.2 ⟨s, e, hs, he, rfl⟩) hh
      exact ⟨(table, _) :: met, [] :: repaired, structs, hround⟩

/-- **What repairing meets, a check finds.** Every dump whose headers all have names is repaired in
as many rounds as its check has errors, and the errors are those that the rounds meet, on lines
further and further down. The check of the repaired dump finds none, has all else in common with
that of the dump, and has the counts of the structs that the repaired dump gives. -/
theorem repair_finds_problems (types : TypeTable) (tagged : Bool) (lines : List Text)
    (hnamed : ∀ line ∈ lines, Text.has headerMark line = true → (headerTable? line).isSome = true) :
    ∃ met : List (Text × LineError), ∃ repaired structs,
      Repair types tagged lines (met.map fun m => (some m.1, m.2)) repaired structs ∧
      (∀ met' repaired' structs', Repair types tagged lines met' repaired' structs' →
        met' = met.map (fun m => (some m.1, m.2)) ∧ repaired' = repaired ∧ structs' = structs) ∧
      met.length = (check types lines).errors.length ∧
      (check types lines).errors =
        met.map (fun m => "Table '".toText ++ m.1 ++ "': ".toText ++ m.2.message) ∧
      (∃ numbers : List Nat, met.map (·.2.number?) = numbers.map (fun n : Nat => some (n : Int)) ∧
        numbers.Pairwise (· < ·)) ∧
      check types repaired = { check types lines with problems := [] } ∧
      (check types lines).Counts structs := by
  have hstart : ({} : Conversion.State).run types tagged [] = ({}, none) := rfl
  obtain ⟨met, repaired, structs, h⟩ := exists_repairsBehind hstart hnamed
  have hproblems : (check types lines).problems = met.map fun m => .column m.1 m.2 :=
    (check_problems lines).trans h.problems
  have herrors : (check types lines).errors =
      met.map (fun m => "Table '".toText ++ m.1 ++ "': ".toText ++ m.2.message) := by
    rw [Report.errors, hproblems, List.map_map]
    rfl
  have hcheck : check types repaired = { check types lines with problems := [] } := by
    have hreport : ({} : Report.State).run types repaired =
        { ({} : Report.State).run types lines with problems := [] } := h.report
    rw [check, hreport, Report.State.finish_problems]
    rfl
  obtain ⟨numbers, hmet, hnumbers⟩ := h.numbers
  refine ⟨met, repaired, structs, h.loop, fun _ _ _ h' => h.loop.unique h', ?_, herrors,
    ⟨numbers, hmet, (List.pairwise_cons.1 hnumbers).2⟩, hcheck, ?_⟩
  · rw [herrors, List.length_map]
  · have hcounts := (check_of_convert_ok h.loop.converts).2
    rw [List.nil_append, hcheck] at hcounts
    exact ⟨hcounts.tables, hcounts.columns, hcounts.names, hcounts.last⟩

/-- A column without a type and one whose type has no rule cost two rounds. -/
theorem repair_two_columns :
    let lines := ["CREATE TABLE coins (", "x", "y money", "z text", ");"].map String.toText
    (∀ line ∈ lines, Text.has headerMark line = true → (headerTable? line).isSome = true) ∧
    ∃ met repaired structs, Repair .builtin false lines met repaired structs ∧ met.length = 2 := by
  intro lines
  have hnamed : ∀ line ∈ lines, Text.has headerMark line = true →
      (headerTable? line).isSome = true := by decide +kernel
  obtain ⟨met, repaired, structs, hloop, -, hrounds, -⟩ :=
    repair_finds_problems .builtin false lines hnamed
  refine ⟨hnamed, _, repaired, structs, hloop, ?_⟩
  rw [List.length_map, hrounds]
  decide +kernel

end TableStructs
