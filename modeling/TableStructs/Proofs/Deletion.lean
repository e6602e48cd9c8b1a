import TableStructs.Proofs.Agreement
import TableStructs.Proofs.Concatenation
import TableStructs.Proofs.Legible
import TableStructs.Proofs.Warnings

/-!
Lines that can be left out. A line that is ignorable where it stands changes nothing but line numbers:
without any set of such lines a dump converts to the same structs and the same Go source, or fails with
the same error, and a check reports the same. Line numbers are lowered by the number of lines left out
before them (`renumber`), and a check counts those of the lines that were constraints no longer.
-/
namespace TableStructs

/-! ### Numbers of lines -/

namespace LineError

/-- The error with another line number. -/
def mapNumber (f : Nat → Nat) : LineError → LineError
  | malformed line number => malformed line (number.map fun n => (f n.toNat : Int))
  | unmapped sqlType number => unmapped sqlType (number.map fun n => (f n.toNat : Int))

theorem mapNumber_onLine (f : Nat → Nat) (e : LineError) (n : Nat) :
    (e.onLine n).mapNumber f = e.onLine (f n) := by
  cases e <;> rfl

end LineError

/-- The problem with another line number. -/
def Problem.mapNumber (f : Nat → Nat) : Problem → Problem
  | header e => header (e.mapNumber f)
  | column table e => column table (e.mapNumber f)

/-- The warning with another line number, if it has one. -/
def Warning.mapNumber (f : Nat → Nat) : Warning → Warning
  | unterminated line table => unterminated (f line) table
  | w => w

/-! ### Leaving lines out -/

/-- The lines, but for those at deleted places. -/
def kept (deleted : Nat → Bool) (lines : List Text) : List Text :=
  (lines.zipIdx.filter fun p => !deleted p.2).map (·.1)

/-- The number of deleted places before a place. -/
def deletedBefore (deleted : Nat → Bool) (i : Nat) : Nat := (List.range i).countP deleted

/-- The new number of line `n`, whose place is `n - 1`. -/
def renumber (deleted : Nat → Bool) (n : Nat) : Nat := n - deletedBefore deleted (n - 1)

/-- Whether a table is open at a place, to a check. -/
def openAt (types : TypeTable) (lines : List Text) (i : Nat) : Bool :=
  (({} : Report.State).run types (lines.take i)).current.isSome

/-- The number of deleted places with a line that is not blank, in an open table. -/
def deletedConstraints (types : TypeTable) (deleted : Nat → Bool) (lines : List Text) : Nat :=
  (List.range lines.length).countP fun i =>
    deleted i && openAt types lines i && lines[i]?.any fun line => !(Text.trim line).isEmpty

/-- The deleted lines are ignorable where they stand. -/
def Ignorable (types : TypeTable) (deleted : Nat → Bool) (lines : List Text) : Prop :=
  ∀ i line, lines[i]? = some line → deleted i = true →
    LineKind.ofLine line (openAt types lines i) = .ignorable

section
variable {types : TypeTable} {deleted : Nat → Bool} {lines a b : List Text} {line : Text} {i : Nat}

theorem kept_append (deleted : Nat → Bool) (a b : List Text) :
    ∃ more, kept deleted (a ++ b) = kept deleted a ++ more := by
  unfold kept
  rw [List.zipIdx_append, List.filter_append, List.map_append]
  exact ⟨_, rfl⟩

theorem kept_concat (deleted : Nat → Bool) (lines : List Text) (line : Text) :
    kept deleted (lines ++ [line]) =
      kept deleted lines ++ if deleted lines.length then [] else [line] := by
  unfold kept
  rw [List.zipIdx_append, List.filter_append, List.map_append]
  cases h : deleted lines.length <;> simp [h]

theorem deletedBefore_succ (deleted : Nat → Bool) (i : Nat) :
    deletedBefore deleted (i + 1) = deletedBefore deleted i + if deleted i then 1 else 0 := by
  unfold deletedBefore
  rw [List.range_succ, List.countP_append]
  cases h : deleted i <;> simp [h]

theorem openAt_append (h : i ≤ a.length) (b : List Text) : openAt types (a ++ b) i = openAt types a i := by
  unfold openAt
  rw [List.take_append_of_le_length h]

theorem openAt_length (types : TypeTable) (lines : List Text) :
    openAt types lines lines.length = (({} : Report.State).run types lines).current.isSome := by
  rw [openAt, List.take_length]

theorem Ignorable.of_append (h : Ignorable types deleted (a ++ b)) : Ignorable types deleted a := by
  intro i line hline hdeleted
  have hi : i < a.length := (List.getElem?_eq_some_iff.1 hline).1
  rw [← openAt_append (Nat.le_of_lt hi) b]
  exact h i line ((List.getElem?_append_left hi).trans hline) hdeleted

/-- A line that is deleted behind other lines is ignorable in the state that they lead to. -/
theorem Ignorable.last (h : Ignorable types deleted (lines ++ line :: b))
    (hdeleted : deleted lines.length = true) :
    LineKind.ofLine line (({} : Report.State).run types lines).current.isSome = .ignorable := by
  rw [← openAt_length, ← openAt_append (Nat.le_refl _) (line :: b)]
  exact h lines.length line (by simp) hdeleted

theorem deletedConstraints_concat (types : TypeTable) (deleted : Nat → Bool) (lines : List Text)
    (line : Text) :
    deletedConstraints types deleted (lines ++ [line]) =
      deletedConstraints types deleted lines +
        if deleted lines.length && openAt types lines lines.length && !(Text.trim line).isEmpty then 1
        else 0 := by
  have hbefore : ∀ i ∈ List.range lines.length,
      (deleted i && openAt types (lines ++ [line]) i &&
        (lines ++ [line])[i]?.any fun line => !(Text.trim line).isEmpty) = true ↔
      (deleted i && openAt types lines i && lines[i]?.any fun line => !(Text.trim line).isEmpty) = true := by
    intro i hi
    have hi' : i < lines.length := List.mem_range.1 hi
    rw [openAt_append (Nat.le_of_lt hi'), List.getElem?_append_left hi']
  unfold deletedConstraints
  rw [List.length_append, List.length_singleton, List.range_succ, List.countP_append,
    List.countP_congr hbefore, List.countP_singleton, openAt_append (Nat.le_refl _),
    List.getElem?_concat_length, Option.any_some]

/-- An ignorable line is a constraint inside a table, if it is not blank, or says nothing. -/
theorem Reading.of_ignorable {inTable : Bool} (h : LineKind.ofLine line inTable = .ignorable)
    (types : TypeTable) (tagged : Bool) :
    Reading.ofLine types tagged line inTable =
      if inTable && !(Text.trim line).isEmpty then .constraint else .nothing := by
  rw [Reading.ofLine, h]

theorem Reading.error?_of_ignorable {inTable : Bool} (h : LineKind.ofLine line inTable = .ignorable)
    (types : TypeTable) (tagged : Bool) : (Reading.ofLine types tagged line inTable).error? = none := by
  rw [of_ignorable h]
  split <;> rfl

/-- A line that is left stands where it stood, less the lines left out before it. -/
theorem renumber_eq {n m : Nat} (h : n = deletedBefore deleted n + m) :
    renumber deleted (n + 1) = m + 1 := by
  have : renumber deleted (n + 1) = n + 1 - deletedBefore deleted n := rfl
  omega

end

/-! ### Converting -/

section Convert
open Conversion
variable {types : TypeTable} {tagged : Bool} {deleted : Nat → Bool} {lines : List Text}

/-- As long as a conversion reads on, it does so without the deleted lines, to the same structs. -/
theorem Conversion.State.run_kept {t : State} (hrun : ({} : State).run types tagged lines = (t, none))
    (h : Ignorable types deleted lines) :
    ∃ s, ({} : State).run types tagged (kept deleted lines) = (s, none) ∧
      Behind (deletedBefore deleted lines.length) [] s t ∧ t.current = s.current := by
  induction lines using List.reverseRecOn generalizing t with
  | nil =>
    cases hrun
    exact ⟨{}, rfl, ⟨rfl, rfl⟩, rfl⟩
  | append_singleton before line ih =>
    obtain ⟨u, hu, hline⟩ := pass_of_run_append hrun
    obtain ⟨hpass, hnext⟩ := pass_of_run_cons hline
    obtain ⟨s, hs, hbehind, hcurrent⟩ := ih hu h.of_append
    obtain rfl : u.follow (Reading.ofLine types tagged line u.current.isSome) = t :=
      congrArg Prod.fst hnext
    rw [kept_concat, List.length_append, List.length_singleton, deletedBefore_succ]
    cases hd : deleted before.length with
    | true =>
      -- The line is ignorable where the check stands, and the conversion has the same table open.
      have hopen := (Agree.initial.run hu).1.isSome
      have hread := Reading.of_ignorable (hopen ▸ h.last hd) types tagged
      have hfollow : u.follow (Reading.ofLine types tagged line u.current.isSome) = u.advance := by
        rw [hread]
        split <;> rfl
      rw [hfollow, if_pos rfl, List.append_nil, if_pos rfl]
      exact ⟨s, hs, ⟨by simp only [advance, hbehind.line]; omega, hbehind.finished⟩, hcurrent⟩
    | false =>
      rw [if_neg Bool.false_ne_true, if_neg Bool.false_ne_true, run_append_of_pass hs,
        run_cons_of_pass [] (hcurrent ▸ hpass), ← hcurrent]
      obtain ⟨hbehind', hcurrent'⟩ := hbehind.follow (.inl hcurrent)
      exact ⟨_, rfl, hbehind', hcurrent'⟩

/-- A conversion that stops does so at the same line, which is never a deleted one. -/
theorem Conversion.StopsAt.kept {before rest : List Text} {line : Text} {e : LineError}
    (hstop : StopsAt types tagged before line e) (h : Ignorable types deleted (before ++ line :: rest)) :
    (convert types tagged (kept deleted (before ++ line :: rest))).result =
      .error (e.mapNumber (renumber deleted)) := by
  obtain ⟨t, e', ht, he, rfl⟩ := stopsAt_iff.1 hstop
  obtain ⟨s, hs, hbehind, hcurrent⟩ := State.run_kept ht h.of_append
  -- Only a line that is not ignorable can be in error.
  have hleft : deleted before.length = false := by
    refine Bool.eq_false_iff.2 fun hd => ?_
    have hopen := (Agree.initial.run ht).1.isSome
    have hread := Reading.error?_of_ignorable (hopen ▸ h.last hd) types tagged
    rw [hread] at he
    cases he
  have hline : before.length = deletedBefore deleted before.length + (TableStructs.kept deleted before).length := by
    have hs' := State.line_run hs
    have ht' := State.line_run ht
    have := hbehind.line
    simp only [Nat.zero_add] at hs' ht'
    omega
  have hstop' : StopsAt types tagged (TableStructs.kept deleted before) line
      ((e'.onLine (before.length + 1)).mapNumber (renumber deleted)) := by
    refine stopsAt_iff.2 ⟨s, e', hs, hcurrent ▸ he, ?_⟩
    rw [LineError.mapNumber_onLine, renumber_eq hline]
  obtain ⟨more, hmore⟩ := kept_append deleted (before ++ [line]) rest
  rw [kept_concat, hleft, if_neg Bool.false_ne_true, List.append_assoc, List.append_assoc] at hmore
  rw [show before ++ line :: rest = before ++ ([line] ++ rest) from rfl, hmore]
  exact hstop'.convert_append more

theorem convert_kept (h : Ignorable types deleted lines) :
    (convert types tagged (kept deleted lines)).result =
      (convert types tagged lines).result.mapError (·.mapNumber (renumber deleted)) := by
  cases hr : (convert types tagged lines).result with
  | ok structs =>
    obtain ⟨t, ht, rfl⟩ := convert_ok_iff.1 hr
    obtain ⟨s, hs, hbehind, -⟩ := State.run_kept ht h
    exact convert_ok_iff.2 ⟨s, hs, hbehind.finished.symm⟩
  | error e =>
    obtain ⟨before, line, rest, rfl, hstop⟩ := convert_stop hr
    exact hstop.kept h

/-- The state of a check tells where a table is open, as long as the conversion reads on. -/
theorem openAt_eq_openTable {i : Nat} {structs : List Struct}
    (h : (convert types tagged (lines.take i)).result = .ok structs) :
    openAt types lines i = (openTable types tagged (lines.take i)).isSome := by
  obtain ⟨t, ht, -⟩ := convert_ok_iff.1 h
  rw [openAt, (Agree.initial.run ht).1.isSome, openTable, ht, Option.isSome_map]

/-- Structs have the same source, however many lines their dump has. -/
theorem Converter.source_congr {c : Converter} {a b : List Text} {structs : List Struct}
    (ha : (convert c.types tagged a).result = .ok structs)
    (hb : (convert c.types tagged b).result = .ok structs) (w : Workspace) :
    (c.source tagged { lines := a }).result w = (c.source tagged { lines := b }).result w := by
  have hsettings : ((c.structs tagged { lines := a }).after w).settings? =
      ((c.structs tagged { lines := b }).after w).settings? :=
    ((quiet_structs ..).settings? w).trans ((quiet_structs ..).settings? w).symm
  have hresult {lines : List Text} (h : (convert c.types tagged lines).result = .ok structs) :
      (c.structs tagged { lines }).result w = .ok structs :=
    (structs_returns_iff.2 ⟨h, rfl⟩).result
  rw [source, source, Action.result_bind, Action.result_bind, hresult ha, hresult hb]
  exact render_congr hsettings structs

end Convert

/-! ### Checking -/

section Check
open Report (check_eq)
open Report.State
variable {types : TypeTable} {deleted : Nat → Bool} {lines : List Text} {s t : Report.State} {r : Reading}

namespace Report

/-- `s` is the state of a check without the deleted lines, `t` with them; `removed` of these were
constraints. -/
structure Thinned (deleted : Nat → Bool) (removed : Nat) (s t : State) : Prop where
  line : t.line = deletedBefore deleted t.line + s.line
  current : s.current = t.current
  problems : s.problems = t.problems.map (·.mapNumber (renumber deleted))
  warnings : s.warnings = t.warnings.map (·.mapNumber (renumber deleted))
  counted : s.counted = t.counted
  skipped : s.skipped + removed = t.skipped

namespace Thinned
variable {removed : Nat}

theorem problem? (h : Thinned deleted removed s t) (r : Reading) :
    s.problem? r = (t.problem? r).map (·.mapNumber (renumber deleted)) := by
  cases r with
  | nameless e =>
    simp [State.problem?, Problem.mapNumber, LineError.mapNumber_onLine, renumber_eq h.line]
  | faulty e =>
    simp only [State.problem?, h.current, Option.map_map, Function.comp_def, Problem.mapNumber,
      LineError.mapNumber_onLine, renumber_eq h.line]
  | _ => rfl

theorem leaveWarnings (h : Thinned deleted removed s t) :
    s.leaveWarnings (s.line + 1) =
      (t.leaveWarnings (t.line + 1)).map (·.mapNumber (renumber deleted)) := by
  rw [State.leaveWarnings, State.leaveWarnings, h.current, ← renumber_eq h.line, List.map_map]
  rfl

/-- The other warnings have no line numbers. -/
theorem warningsAt (h : Thinned deleted removed s t) (r : Reading) :
    s.warningsAt r = (t.warningsAt r).map (·.mapNumber (renumber deleted)) := by
  cases r with
  | opens table =>
    have hname : (nameWarnings table).map (·.mapNumber (renumber deleted)) = nameWarnings table := by
      unfold nameWarnings
      split <;> rfl
    simp only [State.warningsAt, List.map_append, h.leaveWarnings, hname]
  | nameless e => exact h.leaveWarnings
  | closes =>
    have hentries : s.entries = t.entries := congrArg Prod.fst h.counted
    have hclosing (table : OpenTable) :
        (closingWarnings t.entries table).map (·.mapNumber (renumber deleted)) =
          closingWarnings t.entries table := by
      unfold closingWarnings
      rw [List.map_append]
      congr 1
      · split <;> rfl
      · split <;> rfl
    simp only [State.warningsAt, h.current, hentries, List.map_flatMap, hclosing]
  | _ => rfl

theorem endWarnings (h : Thinned deleted removed s t) :
    s.endWarnings = t.endWarnings.map (·.mapNumber (renumber deleted)) := by
  rw [State.endWarnings, State.endWarnings, h.current, List.map_map]
  rfl

/-- A line that is left is read alike. -/
theorem follow (h : Thinned deleted removed s t) (hleft : deleted t.line = false) (r : Reading) :
    Thinned deleted removed (s.follow r) (t.follow r) where
  line := by
    rw [line_follow, line_follow, deletedBefore_succ, hleft, if_neg Bool.false_ne_true]
    have := h.line
    omega
  current := by rw [current_follow, current_follow, h.current]
  problems := by
    rw [problems_follow, problems_follow, h.problem?, h.problems, List.map_append, Option.toList_map]
  warnings := by rw [warnings_follow, warnings_follow, h.warningsAt, h.warnings, List.map_append]
  counted := by
    have hcounted := h.counted
    rw [counted_follow, counted_follow, h.current, h.counted]
    simp only [State.counted, Prod.mk.injEq] at hcounted
    rw [hcounted.1, hcounted.2.1, hcounted.2.2]
  skipped := by
    have := h.skipped
    rw [skipped_follow, skipped_follow]
    omega

/-- A line that is left out counts if it is a constraint. -/
theorem skip (h : Thinned deleted removed s t) (hdeleted : deleted t.line = true)
    (hr : r = .constraint ∨ r = .nothing) :
    Thinned deleted (removed + if r = .constraint then 1 else 0) s (t.follow r) where
  line := by
    rw [line_follow, deletedBefore_succ, if_pos hdeleted]
    have := h.line
    omega
  current := by
    rw [h.current, current_follow]
    rcases hr with rfl | rfl <;> rfl
  problems := by
    rw [h.problems, problems_follow]
    rcases hr with rfl | rfl <;> simp [State.problem?]
  warnings := by
    rw [h.warnings, warnings_follow]
    rcases hr with rfl | rfl <;> simp [State.warningsAt]
  counted := by
    rw [h.counted, counted_follow]
    rcases hr with rfl | rfl <;> rfl
  skipped := by
    rw [skipped_follow, ← h.skipped, Nat.add_assoc]

theorem run (h : Ignorable types deleted lines) :
    Thinned deleted (deletedConstraints types deleted lines)
      (({} : State).run types (kept deleted lines)) (({} : State).run types lines) := by
  induction lines using List.reverseRecOn with
  | nil => exact ⟨rfl, rfl, rfl, rfl, rfl, rfl⟩
  | append_singleton before line ih =>
    have hthinned := ih h.of_append
    have hnumber : (({} : State).run types before).line = before.length := by
      rw [State.line_run]
      exact Nat.zero_add _
    have hnext : ({} : State).run types (before ++ [line]) =
        (({} : State).run types before).follow
          (Reading.ofLine types false line (({} : State).run types before).current.isSome) := by
      rw [run_append_cons, next_eq types false]
      rfl
    rw [kept_concat, deletedConstraints_concat, openAt_length, hnext]
    cases hd : deleted before.length with
    | true =>
      have hread := Reading.of_ignorable (h.last hd) types false
      have hskip := hthinned.skip (hnumber ▸ hd) (r := Reading.ofLine types false line
        (({} : State).run types before).current.isSome) (by rw [hread]; split <;> simp)
      rw [if_pos rfl, List.append_nil]
      convert hskip using 2
      rw [hread, Bool.true_and]
      split <;> rfl
    | false =>
      have hfollow := hthinned.follow (hnumber ▸ hd) (Reading.ofLine types false line
        (({} : State).run types before).current.isSome)
      rw [if_neg Bool.false_ne_true, run_append_cons, next_eq types false, hthinned.current]
      exact hfollow

end Thinned
end Report

/-- What a check reports without the deleted lines. -/
theorem check_kept (h : Ignorable types deleted lines) :
    check types (kept deleted lines) =
      { check types lines with
        problems := (check types lines).problems.map (·.mapNumber (renumber deleted))
        warnings := (check types lines).warnings.map (·.mapNumber (renumber deleted))
        skipped := (check types lines).skipped - deletedConstraints types deleted lines } ∧
      (check types (kept deleted lines)).skipped + deletedConstraints types deleted lines =
        (check types lines).skipped := by
  have hthinned := Report.Thinned.run h
  have hcounted := hthinned.counted
  simp only [counted, Prod.mk.injEq] at hcounted
  rw [check_eq, check_eq]
  refine ⟨?_, hthinned.skipped⟩
  simp only [Report.mk.injEq, List.map_append]
  exact ⟨hthinned.problems, by rw [hthinned.warnings, hthinned.endWarnings], hcounted.2.1, hcounted.2.2,
    Nat.eq_sub_of_add_eq hthinned.skipped, hcounted.1⟩

end Check

/-- **Lines that can be left out.** Without any lines that are ignorable where they stand, a dump
converts to the same structs and the same source, or fails with the same error on the same line, whose
number is lowered by the lines left out before it. A check reports the same, with line numbers lowered
in the same way, but counts the constraints left out no longer. Where lines are ignorable follows from
the tables open to a check, which are those open to the conversion as long as it reads on. -/
theorem deletion_of_ignorable (c : Converter) (tagged : Bool) {deleted : Nat → Bool} {lines : List Text}
    (h : Ignorable c.types deleted lines) :
    (convert c.types tagged (kept deleted lines)).result =
      (convert c.types tagged lines).result.mapError (·.mapNumber (renumber deleted)) ∧
    (∀ structs, (convert c.types tagged lines).result = .ok structs → ∀ w,
      (c.source tagged { lines := kept deleted lines }).result w =
        (c.source tagged { lines }).result w) ∧
    (∀ i structs, (convert c.types tagged (lines.take i)).result = .ok structs →
      openAt c.types lines i = (Conversion.openTable c.types tagged (lines.take i)).isSome) ∧
    (check c.types (kept deleted lines)).isValid = (check c.types lines).isValid ∧
    check c.types (kept deleted lines) =
      { check c.types lines with
        problems := (check c.types lines).problems.map (·.mapNumber (renumber deleted))
        warnings := (check c.types lines).warnings.map (·.mapNumber (renumber deleted))
        skipped := (check c.types lines).skipped - deletedConstraints c.types deleted lines } ∧
    (check c.types (kept deleted lines)).skipped + deletedConstraints c.types deleted lines =
      (check c.types lines).skipped := by
  obtain ⟨hreport, hskipped⟩ := check_kept h
  refine ⟨convert_kept h, fun structs hok w => ?_, fun i structs => openAt_eq_openTable, ?_, hreport,
    hskipped⟩
  · have hkept : (convert c.types tagged (kept deleted lines)).result = .ok structs := by
      rw [convert_kept h, hok]
      rfl
    exact Converter.source_congr hkept hok w
  · rw [hreport, Report.isValid, List.isEmpty_map]
    rfl

/-- A remark, a terminator outside every table, a blank line and a constraint are left out. -/
theorem deletion_of_four_lines :
    let lines := ["-- coins", ");", "CREATE TABLE coin (", "", "  CONSTRAINT pk PRIMARY KEY (id)",
      "  CONSTRAINT fk FOREIGN KEY (x)", "  x money", ");"].map String.toText
    let deleted (i : Nat) := i = 0 || i = 1 || i = 3 || i = 4
    (convert .builtin true lines).result = .error (.unmapped "money".toText (some 7)) ∧
      (convert .builtin true (kept deleted lines)).result = .error (.unmapped "money".toText (some 3)) ∧
      (check .builtin lines).skipped = 2 ∧ (check .builtin (kept deleted lines)).skipped = 1 := by
  intro lines deleted
  have hresult : (convert .builtin true lines).result = .error (.unmapped "money".toText (some 7)) := by
    decide +kernel
  have hskipped : (check .builtin lines).skipped = 2 := by decide +kernel
  have hconstraints : deletedConstraints .builtin deleted lines = 1 := by decide +kernel
  have hignorable : Ignorable .builtin deleted lines := by
    have hplaces : ∀ i ∈ List.range 8, deleted i = true →
        ∀ line ∈ lines[i]?, LineKind.ofLine line (openAt .builtin lines i) = .ignorable := by
      decide +kernel
    intro i line hline hdeleted
    have hi : i < 8 := (List.getElem?_eq_some_iff.1 hline).1
    exact hplaces i (List.mem_range.2 hi) hdeleted line hline
  obtain ⟨hkept, -, -, -, -, hcount⟩ := deletion_of_ignorable {} true hignorable
  refine ⟨hresult, ?_, hskipped, ?_⟩
  · rw [hkept, hresult]
    decide +kernel
  · have : (check .builtin (kept deleted lines)).skipped + deletedConstraints .builtin deleted lines =
        (check .builtin lines).skipped := hcount
    omega

end TableStructs
