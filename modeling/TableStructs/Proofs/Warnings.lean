import TableStructs.Proofs.Run

/-!
What a check warns of. At each reading a check adds some warnings (`warnings_follow`), and a last one at
the end of the dump if a table is still open. With `problems_follow`, `counted_follow` and
`skipped_follow` this is all that a reading does to a report. So what a report warns of at all, some
reading has brought up, or the end (`mem_warnings_check`).
-/
namespace TableStructs.Report
namespace State

/-- The warning about an open table at a header on line `n`. -/
def leaveWarnings (s : State) (n : Nat) : List Warning :=
  s.current.toList.map fun t => .unterminated n t.table

/-- The warning about the name of a table. -/
def nameWarnings (table : Text) : List Warning :=
  if looksSingular table then [.singularName table (structName table)] else []

/-- What a check warns of at a reading. -/
def warningsAt (s : State) : Reading → List Warning
  | .opens table => s.leaveWarnings (s.line + 1) ++ nameWarnings table
  | .nameless _ => s.leaveWarnings (s.line + 1)
  | .closes => s.current.toList.flatMap (closingWarnings s.entries)
  | .adds _ | .faulty _ | .constraint | .nothing => []

/-- What a check warns of at the end of a dump. -/
def endWarnings (s : State) : List Warning := s.current.toList.map fun t => .missingEnd t.table

theorem warnings_leave (s : State) : s.leave.warnings = s.warnings ++ s.leaveWarnings s.line := by
  unfold leave leaveWarnings
  cases s.current <;> simp [warn]

theorem warnings_follow (s : State) (r : Reading) :
    (s.follow r).warnings = s.warnings ++ s.warningsAt r := by
  have hleave : s.advance.leave.warnings = s.warnings ++ s.leaveWarnings (s.line + 1) :=
    s.advance.warnings_leave
  cases r with
  | opens table => simp [follow, start, warn, hleave, warningsAt, nameWarnings]
  | nameless e => simp [follow, report, hleave, warningsAt]
  | closes => cases hc : s.current <;> simp [follow, hc, close, warn, advance, warningsAt]
  | faulty e => cases hc : s.current <;> simp [follow, hc, report, advance, warningsAt]
  | _ => simp [follow, advance, warningsAt]

theorem skipped_follow (s : State) (r : Reading) :
    (s.follow r).skipped = s.skipped + if r = .constraint then 1 else 0 := by
  have hleave : s.advance.leave.skipped = s.skipped := by
    unfold leave
    split <;> rfl
  cases r with
  | closes => cases hc : s.current <;> simp [follow, hc, close, warn, advance]
  | faulty e => cases hc : s.current <;> simp [follow, hc, report, advance]
  | opens table => simp [follow, start, warn, hleave]
  | nameless e => simp [follow, report, hleave]
  | _ => simp [follow, advance]

/-- Whatever a check warns of while it reads, some reading has brought it up. -/
theorem mem_warnings_run {types : TypeTable} {s : State} {lines : List Text} {w : Warning}
    (h : w ∈ (s.run types lines).warnings) :
    w ∈ s.warnings ∨ ∃ (t : State) (r : Reading), w ∈ t.warningsAt r := by
  induction lines generalizing s with
  | nil => exact .inl h
  | cons line rest ih =>
    rcases ih (s := s.next types line) h with hnext | hread
    · rw [next_eq types false, warnings_follow] at hnext
      exact (List.mem_append.1 hnext).imp_right fun hw => ⟨s, _, hw⟩
    · exact .inr hread

end State

/-- The report on a dump, from the state behind its last line. -/
theorem check_eq (types : TypeTable) (lines : List Text) :
    check types lines =
      let s := ({} : State).run types lines
      { problems := s.problems
        warnings := s.warnings ++ s.endWarnings
        tableCount := s.tableCount
        columnCount := s.columnCount
        skipped := s.skipped
        entries := s.entries } := by
  unfold check ofState
  generalize ({} : State).run types lines = s
  cases hc : s.current <;> simp [State.finish, State.endWarnings, State.warn, hc]

/-- A warning comes from a reading, or from the end of the dump. -/
theorem mem_warnings_check {types : TypeTable} {lines : List Text} {w : Warning}
    (h : w ∈ (check types lines).warnings) :
    (∃ (t : State) (r : Reading), w ∈ t.warningsAt r) ∨ ∃ t : State, w ∈ t.endWarnings := by
  rw [check_eq] at h
  rcases List.mem_append.1 h with hrun | hend
  · exact .inl ((State.mem_warnings_run hrun).resolve_left List.not_mem_nil)
  · exact .inr ⟨_, hend⟩

/-- A name is warned of because of how it ends, with the struct's name that comes from it. -/
theorem singularName_of_mem {types : TypeTable} {lines : List Text} {table struct : Text}
    (h : .singularName table struct ∈ (check types lines).warnings) :
    looksSingular table = true ∧ struct = structName table := by
  have hleave (t : State) (n : Nat) : .singularName table struct ∉ t.leaveWarnings n := by
    simp [State.leaveWarnings]
  rcases mem_warnings_check h with ⟨t, r, hr⟩ | ⟨t, ht⟩
  · cases r with
    | opens name =>
      have hname := (List.mem_append.1 hr).resolve_left (hleave t _)
      unfold State.nameWarnings at hname
      split at hname
      · next hlooks =>
        cases List.mem_singleton.1 hname
        exact ⟨hlooks, rfl⟩
      · cases hname
    | nameless e => exact absurd hr (hleave t _)
    | closes =>
      obtain ⟨u, -, hu⟩ := List.mem_flatMap.1 hr
      unfold State.closingWarnings at hu
      split at hu <;> split at hu <;> simp at hu
    | _ => cases hr
  · simp [State.endWarnings] at ht

end TableStructs.Report
