import TableStructs.Proofs.Agreement
import TableStructs.Proofs.Blocks

/-!
A header without a name, and what a check misses behind it. Such a header closes the open table and
opens none, so that the lines up to the next header or terminator belong to no table and are not
looked at. `problems_of_naming` says what comes up when the header is given a name: its own problem
goes, all others stay, and in its place stand the problems that a check of the named header with these
lines alone would find.
-/
namespace TableStructs

/-- The problem with its line number increased by `n`. -/
def Problem.shift (n : Nat) : Problem → Problem
  | header e => header (e.shift n)
  | column table e => column table (e.shift n)

theorem Problem.shift_zero (p : Problem) : p.shift 0 = p := by
  cases p with
  | header e => cases e <;> simp [shift, LineError.shift]
  | column table e => cases e <;> simp [shift, LineError.shift]

/-- The lines before the first header or terminator. -/
def Blocks.beforeMark (lines : List Text) : List Text := lines.takeWhile (!isMark ·)

namespace Reading
open Blocks
variable {types : TypeTable} {tagged : Bool} {line : Text}

/-- Outside every table only headers say anything. -/
theorem ofLine_outside (h : isHeader line = false) : ofLine types tagged line false = nothing := by
  have hmark : Text.has headerMark line = false := h
  simp [ofLine, LineKind.ofLine, hmark]

/-- A terminator inside a table closes it. -/
theorem ofLine_terminator (hheader : isHeader line = false) (h : isTerminator line = true) :
    ofLine types tagged line true = closes := by
  have hmark : Text.has headerMark line = false := hheader
  have htrim : Text.trim line = terminatorMark := of_decide_eq_true h
  simp [ofLine, LineKind.ofLine, hmark, htrim]

end Reading

namespace Report.State
open Blocks
variable {types : TypeTable} {n : Nat} {s t : State} {lines : List Text}

/-! ### The same place in two dumps -/

/-- The name of the open table. -/
def table? (s : State) : Option Text := s.current.map (·.table)

/-- `t` has read `n` lines more than `s`, and a table of the same name is open in both. -/
structure Behind (n : Nat) (s t : State) : Prop where
  line : t.line = n + s.line
  table : t.table? = s.table?

/-- The open table after a reading depends on no more than which one was open before. -/
theorem table?_follow (s : State) (r : Reading) :
    (s.follow r).table? =
      match r with
      | .opens table => some table
      | .nameless _ | .closes => none
      | .adds _ | .faulty _ | .constraint | .nothing => s.table? := by
  rw [table?, current_follow]
  cases r with
  | adds f => cases hc : s.current <;> simp [table?, hc]
  | _ => rfl

theorem isSome_table? (s : State) : s.table?.isSome = s.current.isSome := by simp [table?]

namespace Behind

theorem isSome (h : Behind n s t) : t.current.isSome = s.current.isSome := by
  rw [← isSome_table?, ← isSome_table?, h.table]

theorem follow (h : Behind n s t) (r : Reading) : Behind n (s.follow r) (t.follow r) where
  line := by rw [line_follow, line_follow, h.line, Nat.add_assoc]
  table := by rw [table?_follow, table?_follow, h.table]

theorem problem? (h : Behind n s t) (r : Reading) : t.problem? r = (s.problem? r).map (·.shift n) := by
  cases r with
  | nameless e => simp [State.problem?, Problem.shift, LineError.shift_onLine, h.line, Nat.add_assoc]
  | faulty e =>
    have htable := h.table
    unfold table? at htable
    cases hs : s.current <;> cases ht : t.current <;>
      simp_all [State.problem?, Problem.shift, LineError.shift_onLine, h.line, Nat.add_assoc]
  | _ => rfl

/-- **Reading on** from the same place finds the same problems, on lines further down. -/
theorem run (h : Behind n s t) (types : TypeTable) (lines : List Text) :
    ∃ found, (s.run types lines).problems = s.problems ++ found ∧
      (t.run types lines).problems = t.problems ++ found.map (·.shift n) := by
  induction lines generalizing s t with
  | nil => exact ⟨[], by simp [State.run], by simp [State.run]⟩
  | cons line rest ih =>
    have hs := next_eq types false line s
    have ht := next_eq types false line t
    rw [h.isSome] at ht
    obtain ⟨found, hfound, hfound'⟩ := ih (h.follow (Reading.ofLine types false line s.current.isSome))
    refine ⟨(s.problem? (Reading.ofLine types false line s.current.isSome)).toList ++ found, ?_, ?_⟩
    · show ((s.next types line).run types rest).problems = _
      rw [hs, hfound, problems_follow, List.append_assoc]
    · show ((t.next types line).run types rest).problems = _
      rw [ht, hfound', problems_follow, h.problem?]
      cases s.problem? (Reading.ofLine types false line s.current.isSome) <;> simp

end Behind

/-! ### Behind a header, with a table open and without one -/

/-- Without an open table nothing is looked at but headers. -/
theorem run_outside (h : s.current = none) (hlines : ∀ line ∈ lines, isHeader line = false) :
    s.run types lines = { s with line := s.line + lines.length } := by
  induction lines generalizing s with
  | nil => rfl
  | cons line rest ih =>
    obtain ⟨hline, hrest⟩ := List.forall_mem_cons.1 hlines
    have hnext : s.next types line = s.advance := by
      rw [next_eq types false, h, Option.isSome_none, Reading.ofLine_outside hline]
      rfl
    show (s.next types line).run types rest = _
    rw [hnext, ih (s := s.advance) h hrest, List.length_cons, Nat.add_comm rest.length, ← Nat.add_assoc]
    rfl

/-- At a mark it no longer matters whether a table has been open. -/
theorem next_mark (types : TypeTable) {line : Text} (hline : t.line = s.line) (hs : s.current = none)
    (hmark : isMark line = true) :
    Behind 0 (s.next types line) (t.next types line) ∧
      ∃ found, (s.next types line).problems = s.problems ++ found ∧
        (t.next types line).problems = t.problems ++ found := by
  rw [next_eq types false line s, next_eq types false line t, problems_follow, problems_follow]
  have hnumber (r r' : Reading) : (t.follow r').line = 0 + (s.follow r).line := by
    rw [line_follow, line_follow, hline, Nat.zero_add]
  cases hheader : isHeader line with
  | true =>
    have hread (inTable : Bool) :
        Reading.ofLine types false line inTable = Reading.ofLine types false line s.current.isSome := by
      rw [Reading.ofLine_of_header hheader, Reading.ofLine_of_header hheader]
    rw [hread t.current.isSome]
    have hcases : (∃ table, Reading.ofLine types false line s.current.isSome = .opens table) ∨
        ∃ e, Reading.ofLine types false line s.current.isSome = .nameless e := Reading.of_header hheader
    obtain ⟨table, hr⟩ | ⟨e, hr⟩ := hcases
    · rw [hr]
      exact ⟨⟨hnumber .., by rw [table?_follow, table?_follow]⟩, [], rfl, rfl⟩
    · rw [hr]
      exact ⟨⟨hnumber .., by rw [table?_follow, table?_follow]⟩, _, rfl, by simp [problem?, hline]⟩
  | false =>
    have hterminator : isTerminator line = true := by simpa [isMark, hheader] using hmark
    rw [hs, Option.isSome_none, Reading.ofLine_outside hheader]
    have hnone : (s.follow .nothing).table? = none := by rw [table?_follow, table?, hs, Option.map_none]
    cases ht : t.current with
    | none =>
      rw [Option.isSome_none, Reading.ofLine_outside hheader]
      refine ⟨⟨hnumber .., ?_⟩, [], rfl, rfl⟩
      rw [hnone, table?_follow, table?, ht, Option.map_none]
    | some table =>
      rw [Option.isSome_some, Reading.ofLine_terminator hheader hterminator]
      exact ⟨⟨hnumber .., by rw [hnone, table?_follow]⟩, [], rfl, rfl⟩

/-- From the next mark on the same problems are found, whether or not a table has been open. -/
theorem run_resume (types : TypeTable) (hline : t.line = s.line) (hs : s.current = none)
    (hmark : ∀ line ∈ lines.head?, isMark line = true) :
    ∃ found, (s.run types lines).problems = s.problems ++ found ∧
      (t.run types lines).problems = t.problems ++ found := by
  cases lines with
  | nil => exact ⟨[], by simp [run], by simp [run]⟩
  | cons line rest =>
    obtain ⟨hbehind, found, hfound, hfound'⟩ := next_mark types hline hs (hmark line rfl)
    obtain ⟨more, hmore, hmore'⟩ := hbehind.run types rest
    have hshift : more.map (·.shift 0) = more := by
      have : (fun p : Problem => p.shift 0) = id := funext Problem.shift_zero
      rw [this, List.map_id]
    refine ⟨found ++ more, ?_, ?_⟩
    · show ((s.next types line).run types rest).problems = _
      rw [hmore, hfound, List.append_assoc]
    · show ((t.next types line).run types rest).problems = _
      rw [hmore', hfound', hshift, List.append_assoc]

/-- Behind the same number of lines, once without an open table: what is found differs before the
first mark and nowhere else. -/
theorem run_beforeMark (types : TypeTable) (hline : t.line = s.line) (hs : s.current = none)
    (rest : List Text) :
    ∃ below, (s.run types rest).problems = s.problems ++ below ∧
      (t.run types rest).problems = (t.run types (beforeMark rest)).problems ++ below := by
  have hplain : ∀ line ∈ beforeMark rest, isMark line = false := by
    simpa [beforeMark] using List.all_eq_true.1 (List.all_takeWhile (p := (!isMark ·)) (l := rest))
  have hheader : ∀ line ∈ beforeMark rest, isHeader line = false := fun line hl => by
    have := hplain line hl
    simp only [isMark, Bool.or_eq_false_iff] at this
    exact this.1
  have hmark : ∀ line ∈ (rest.dropWhile (!isMark ·)).head?, isMark line = true := by
    intro line hl
    have := List.head?_dropWhile_not (!isMark ·) rest
    rw [Option.mem_def.1 hl] at this
    simpa using this
  have hsplit : rest = beforeMark rest ++ rest.dropWhile (!isMark ·) :=
    List.takeWhile_append_dropWhile.symm
  obtain ⟨below, hbelow, hbelow'⟩ := run_resume types
    (s := s.run types (beforeMark rest)) (t := t.run types (beforeMark rest))
    (by rw [line_run, line_run, hline]) (by rw [run_outside hs hheader]; exact hs) hmark
  refine ⟨below, ?_, ?_⟩
  · rw [hsplit, run_append, hbelow, run_outside hs hheader]
  · rw [← hbelow', ← run_append, ← hsplit]

end Report.State

/-! ### Naming a header -/

section
open Report.State Blocks
variable {types : TypeTable} {line named table : Text}

theorem hasMark_of_headerTable? (h : headerTable? line = some table) : Text.has headerMark line = true := by
  unfold headerTable? at h
  unfold Text.has
  cases hafter : Text.after? headerMark line with
  | none => simp [hafter] at h
  | some _ => rfl

/-- **What comes up when a header is given a name.** Its own problem goes and all others stay. In its
place stand the problems that a check of the named header alone, with the lines up to the next header
or terminator, would find; so naming the header brings up nothing new if and only if that check finds
nothing. -/
theorem problems_of_naming (types : TypeTable) (before rest : List Text)
    (hline : Text.has headerMark line = true) (hnameless : headerTable? line = none)
    (hnamed : headerTable? named = some table) :
    let own : Problem := .header (.malformed (Text.trim line) (some (before.length + 1 : Nat)))
    let shown := (check types (named :: beforeMark rest)).problems.map (·.shift before.length)
    ∃ below,
      (check types (before ++ line :: rest)).problems = (check types before).problems ++ own :: below ∧
      (check types (before ++ named :: rest)).problems = (check types before).problems ++ shown ++ below ∧
      ((check types (before ++ named :: rest)).problems = (check types before).problems ++ below ↔
        (check types (named :: beforeMark rest)).isValid = true) := by
  intro own shown
  -- The three states behind the header: without a name, with it, and with it in a dump of its own.
  let p := ({} : Report.State).run types before
  have hp : p.line = before.length := by
    rw [line_run]
    exact Nat.zero_add _
  have hlineNext : p.next types line = p.follow (.nameless (.malformed (Text.trim line) none)) := by
    rw [next_eq types false, Reading.ofLine_of_header hline, headerTable, hnameless]
  have hnamedNext (s : Report.State) : s.next types named = s.follow (.opens table) := by
    rw [next_eq types false, Reading.ofLine_of_header (hasMark_of_headerTable? hnamed), headerTable, hnamed]
  have hbehind : Report.State.Behind before.length (({} : Report.State).next types named)
      (p.next types named) := by
    rw [hnamedNext, hnamedNext]
    exact ⟨by rw [line_follow, line_follow, hp], by rw [table?_follow, table?_follow]⟩
  obtain ⟨found, halone, hfound⟩ := hbehind.run types (beforeMark rest)
  obtain ⟨below, hbelow, hbelow'⟩ := run_beforeMark types (s := p.next types line)
    (t := p.next types named) (by rw [hlineNext, hnamedNext, line_follow, line_follow])
    (by rw [hlineNext, current_follow]) rest
  have hproblems (s : Report.State) : (s.next types named).problems = s.problems := by
    rw [hnamedNext, problems_follow]
    exact List.append_nil _
  have hshown : (check types (named :: beforeMark rest)).problems = found := by
    rw [check_problems]
    exact halone.trans (congrArg (· ++ found) (hproblems {}))
  have hrepaired : (check types (before ++ named :: rest)).problems =
      (check types before).problems ++ shown ++ below := by
    rw [check_problems, check_problems, run_append_cons, hbelow', hfound, hproblems]
    simp only [shown, hshown]
    rfl
  refine ⟨below, ?_, hrepaired, ?_⟩
  · rw [check_problems, check_problems, run_append_cons, hbelow, hlineNext, problems_follow]
    simp only [problem?, List.append_assoc]
    exact congrArg (fun n : Nat => p.problems ++ (Problem.header (.malformed (Text.trim line) (some n)) :: below))
      (congrArg (· + 1) hp)
  · rw [hrepaired, List.append_assoc, List.append_cancel_left_eq, List.append_left_eq_self,
      List.map_eq_nil_iff, Report.isValid, List.isEmpty_iff]

/-- A type without a rule behind a header without a name, and a second table that is found as before. -/
theorem problems_of_naming_second_table :
    let before := ["CREATE TABLE notes (", "  body text", ");"].map String.toText
    let rest := ["  x money", ");", "CREATE TABLE pairs (", "  y", ");"].map String.toText
    let line := "CREATE TABLE public. (".toText
    let named := "CREATE TABLE coins (".toText
    Text.has headerMark line = true ∧ headerTable? line = none ∧
      headerTable? named = some "coins".toText ∧
      (check .builtin (named :: Blocks.beforeMark rest)).isValid = false ∧
      (check .builtin (before ++ named :: rest)).problems ≠
        (check .builtin (before ++ line :: rest)).problems.tail := by
  intro before rest line named
  have hline : Text.has headerMark line = true := by decide +kernel
  have hnameless : headerTable? line = none := by decide +kernel
  have hnamed : headerTable? named = some "coins".toText := by decide +kernel
  have hinvalid : (check .builtin (named :: Blocks.beforeMark rest)).isValid = false := by decide +kernel
  have hbefore : (check .builtin before).problems = [] := by decide +kernel
  obtain ⟨below, hown, -, hiff⟩ := problems_of_naming .builtin before rest hline hnameless hnamed
  refine ⟨hline, hnameless, hnamed, hinvalid, fun h => ?_⟩
  rw [hbefore] at hown hiff
  rw [hown] at h
  exact absurd (hiff.1 h) (by rw [hinvalid]; decide)

/-- **Problems hide behind a header without a name**: a column that has no Go type is not reported, and
comes up as soon as the header is given a name. -/
theorem nameless_header_hides_column :
    let lines := ["CREATE TABLE (", "  x money", ");"].map String.toText
    let repaired := ["CREATE TABLE coins (", "  x money", ");"].map String.toText
    (check .builtin lines).errors = ["Malformed column line (line 1): 'CREATE TABLE ('".toText] ∧
      (check .builtin repaired).errors =
        ["Table 'coins': Unhandled column type (line 2): money".toText] ∧
      (check .builtin repaired).errors ≠
        (check .builtin lines).errors.erase "Malformed column line (line 1): 'CREATE TABLE ('".toText := by
  decide +kernel

end
end TableStructs
