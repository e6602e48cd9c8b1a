import TableStructs.Proofs.Agreement
import TableStructs.Proofs.Concatenation
import TableStructs.Proofs.Warnings

/-!
More rules for types. A table of rules is extended by rules for whole types, none of which had a Go
type before, and by rules for beginnings, tried after all others (`TypeTable.extend`). What had a Go
type keeps it (`extends_extend`), and from this alone follows all else.

One line says the same under more rules, or it was a column line in error and gives a field now
(`Reading.Gains`). So a conversion that succeeds goes through the same states (`run_of_extends`), one
that fails reads at least as far (`convert_error_of_extends`), and a check, line by line, is no
stricter than before (`Milder`).
-/
namespace TableStructs

/-! ### Tables of rules -/

namespace TypeTable
variable {t t' : TypeTable}

/-- A table with more rules: for whole types, and for beginnings behind the others. -/
def extend (t : TypeTable) (exact prefixes : List (Text × Text)) : TypeTable :=
  prefixes.foldl (fun t rule => t.addPrefix rule.1 rule.2)
    (exact.foldl (fun t rule => t.addExact rule.1 rule.2) t)

/-- Every type with a Go type in the one table has the same in the other. -/
def Extends (t t' : TypeTable) : Prop :=
  ∀ sqlType go, t.goType? sqlType = some go → t'.goType? sqlType = some go

theorem foldl_addExact (t : TypeTable) (exact : List (Text × Text)) :
    exact.foldl (fun t rule => t.addExact rule.1 rule.2) t = { t with exact := exact.reverse ++ t.exact } := by
  induction exact generalizing t with
  | nil => rfl
  | cons rule exact ih =>
    rw [List.foldl_cons, ih]
    simp [addExact]

theorem foldl_addPrefix (t : TypeTable) (prefixes : List (Text × Text)) :
    prefixes.foldl (fun t rule => t.addPrefix rule.1 rule.2) t =
      { t with prefixes := t.prefixes ++ prefixes } := by
  induction prefixes generalizing t with
  | nil => simp
  | cons rule prefixes ih =>
    rw [List.foldl_cons, ih]
    simp [addPrefix]

/-- What an extended table gives: by the last of the new rules for the whole type, by the old table, or
by the first of the new beginnings. -/
theorem goType?_extend (t : TypeTable) (exact prefixes : List (Text × Text)) (sqlType : Text) :
    (t.extend exact prefixes).goType? sqlType =
      ((exact.reverse.lookup sqlType).or (t.goType? sqlType)).or
        ((prefixes.find? fun rule => rule.1.isPrefixOf sqlType).map (·.2)) := by
  rw [extend, foldl_addExact, foldl_addPrefix]
  unfold goType?
  simp only [List.lookup_append, List.find?_append]
  cases exact.reverse.lookup sqlType with
  | some go => rfl
  | none =>
    cases t.exact.lookup sqlType with
    | some go => rfl
    | none => cases t.prefixes.find? fun rule => rule.1.isPrefixOf sqlType <;> rfl

/-- **Types keep their Go types** if no new rule is for a type that had one. -/
theorem extends_extend {exact : List (Text × Text)} (hexact : ∀ rule ∈ exact, t.goType? rule.1 = none)
    (prefixes : List (Text × Text)) : t.Extends (t.extend exact prefixes) := by
  intro sqlType go hgo
  have hnone : exact.reverse.lookup sqlType = none := by
    rw [List.lookup_eq_none_iff]
    intro rule hrule
    have hrejected := hexact rule (List.mem_reverse.1 hrule)
    have hne : sqlType ≠ rule.1 := by
      rintro rfl
      rw [hrejected] at hgo
      cases hgo
    exact bne_iff_ne.2 hne
  rw [goType?_extend, hnone, hgo]
  rfl

theorem Extends.map (h : t.Extends t') {sqlType go : Text} {number : Option Int}
    (hgo : t.map sqlType number = .ok go) : t'.map sqlType number = .ok go := by
  unfold TypeTable.map at hgo ⊢
  split at hgo
  · next found hfound => rwa [h sqlType found hfound]
  · cases hgo

end TypeTable

/-! ### One line -/

namespace Reading

/-- What becomes of a reading under more rules. -/
inductive Gains : Reading → Reading → Prop
  | same (r : Reading) : Gains r r
  | field (e : LineError) (f : Field) : Gains (.faulty e) (.adds f)

variable {t t' : TypeTable}

/-- **A line** says the same under more rules, or gives a field where it gave none. -/
theorem gains_of_extends (h : t.Extends t') (tagged : Bool) (line : Text) (inTable : Bool) :
    Gains (ofLine t tagged line inTable) (ofLine t' tagged line inTable) := by
  unfold ofLine
  cases LineKind.ofLine line inTable with
  | header | terminator | ignorable => exact .same _
  | column =>
    unfold Field.ofLine TypeTable.map
    cases Column.ofLine line none with
    | error e => exact .same _
    | ok column =>
      simp only
      cases hgo : t.goType? column.sqlType with
      | some go =>
        rw [h column.sqlType go hgo]
        exact .same _
      | none =>
        cases t'.goType? column.sqlType with
        | some go => exact .field ..
        | none => exact .same _

/-- A line that could be used says the same. -/
theorem Gains.of_pass {r r' : Reading} (h : Gains r r') (hpass : r.error? = none) : r' = r := by
  cases h with
  | same => rfl
  | field => cases hpass

end Reading

/-! ### Converting -/

section
open Conversion
variable {t t' : TypeTable} {tagged : Bool} {lines : List Text}

theorem Conversion.State.run_of_extends (h : t.Extends t') {s u : State}
    (hrun : s.run t tagged lines = (u, none)) : s.run t' tagged lines = (u, none) := by
  induction lines generalizing s with
  | nil => exact hrun
  | cons line rest ih =>
    obtain ⟨hpass, hrest⟩ := pass_of_run_cons hrun
    have hsame := (Reading.gains_of_extends h tagged line s.current.isSome).of_pass hpass
    rw [← hsame] at hpass hrest
    rw [run_cons_of_pass rest hpass]
    exact ih hrest

/-- **A conversion that succeeds** is the same under more rules. -/
theorem convert_of_extends (h : t.Extends t') {structs : List Struct}
    (hok : (convert t tagged lines).result = .ok structs) :
    convert t' tagged lines = convert t tagged lines := by
  obtain ⟨u, hu, -⟩ := convert_ok_iff.1 hok
  rw [convert, convert, hu, State.run_of_extends h hu]

/-- **A conversion that fails** does not fail at an earlier line under more rules. -/
theorem convert_error_of_extends (h : t.Extends t') {e e' : LineError}
    (he : (convert t tagged lines).result = .error e) (he' : (convert t' tagged lines).result = .error e') :
    ∃ n n' : Nat, e.number? = some (n : Int) ∧ e'.number? = some (n' : Int) ∧ n ≤ n' := by
  obtain ⟨before, line, rest, rfl, hstop⟩ := convert_stop he
  obtain ⟨before', line', rest', hlines, hstop'⟩ := convert_stop he'
  have hle : before.length ≤ before'.length := by
    by_contra hlt
    -- The lines before the first error convert, so they convert under more rules as well.
    obtain ⟨structs, hpassed⟩ := hstop.passed
    have hprefix : before' ++ [line'] <+: before := by
      have hshort : (before' ++ [line']).length ≤ before.length := by
        rw [List.length_append, List.length_singleton]
        omega
      refine List.prefix_of_prefix_length_le ?_ (List.prefix_append before (line :: rest)) hshort
      exact ⟨rest', by rw [hlines, List.append_assoc, List.singleton_append]⟩
    obtain ⟨between, rfl⟩ := hprefix
    have hfails : (convert t' tagged (before' ++ [line'] ++ between)).result = .error e' :=
      convert_append_of_error hstop'.stopped
    rw [convert_of_extends h hpassed, hpassed] at hfails
    cases hfails
  obtain ⟨_, d, -, -, rfl⟩ := stopsAt_iff.1 hstop
  obtain ⟨_, d', -, -, rfl⟩ := stopsAt_iff.1 hstop'
  exact ⟨_, _, d.number?_onLine _, d'.number?_onLine _, Nat.succ_le_succ hle⟩

end

/-! ### Checking -/

namespace Report

/-- An open table that has more usable columns. -/
def OpenTable.Gains (o o' : OpenTable) : Prop := o'.table = o.table ∧ o.columns ≤ o'.columns

/-- An entry with more columns. -/
def Entry.Gains (e e' : Entry) : Prop :=
  e'.struct = e.struct ∧ e'.table = e.table ∧ e.columns ≤ e'.columns

theorem Entry.gains_record {e e' : Entry} (he : e.Gains e') {entries entries' : List Entry}
    (h : List.Forall₂ Gains entries entries') :
    List.Forall₂ Gains (record e entries) (record e' entries') := by
  induction h with
  | nil => exact .cons he .nil
  | @cons d d' rest rest' hd hrest ih =>
    simp only [record, hd.1, he.1]
    split
    · exact .cons he hrest
    · exact .cons hd ih

theorem Entry.gains_find? (name : Text) {entries entries' : List Entry}
    (h : List.Forall₂ Gains entries entries') :
    Option.Rel Gains (entries.find? (·.struct = name)) (entries'.find? (·.struct = name)) := by
  induction h with
  | nil => exact .none
  | @cons d d' rest rest' hd _ ih =>
    simp only [List.find?_cons, hd.1]
    split
    · exact .some hd
    · exact ih

/-- A table with more columns has no more warnings at its terminator. -/
theorem State.closingWarnings_sublist {entries entries' : List Entry} {o o' : OpenTable}
    (h : List.Forall₂ Entry.Gains entries entries') (ho : o.Gains o') :
    (closingWarnings entries' o').Sublist (closingWarnings entries o) := by
  unfold closingWarnings
  rw [ho.1]
  have hentry := Entry.gains_find? (structName o.table) h
  generalize entries.find? _ = found, entries'.find? _ = found' at hentry
  refine List.Sublist.append ?_ ?_
  · have := ho.2
    split
    · rw [if_pos (by omega)]
    · exact List.nil_sublist _
  · cases hentry with
    | none => exact .refl _
    | some he =>
      simp only
      rw [he.2.1]

/-- What has been counted of the same tables, with more columns. -/
structure State.CountsMore (c c' : List Entry × Nat × Nat) : Prop where
  entries : List.Forall₂ Entry.Gains c.1 c'.1
  tables : c'.2.1 = c.2.1
  columns : c.2.2 ≤ c'.2.2

/-- `s'` is a milder state of a check of the same lines than `s`. -/
structure Milder (s s' : State) : Prop where
  line : s'.line = s.line
  current : Option.Rel OpenTable.Gains s.current s'.current
  problems : s'.problems.Sublist s.problems
  warnings : s'.warnings.Sublist s.warnings
  counted : State.CountsMore s.counted s'.counted
  skipped : s'.skipped = s.skipped

namespace Milder
variable {s s' : State} {r r' : Reading}

theorem initial : Milder {} {} :=
  ⟨rfl, .none, .refl _, .refl _, ⟨.nil, rfl, Nat.le_refl _⟩, rfl⟩

/-- The same table is open, if any. -/
theorem map_table (h : Milder s s') {α : Type} (g : Text → α) :
    (s'.current.map fun o => g o.table) = s.current.map fun o => g o.table := by
  have hcurrent := h.current
  generalize s.current = o, s'.current = o' at hcurrent
  cases hcurrent with
  | none => rfl
  | some ho => exact congrArg (some ∘ g) ho.1

theorem isSome (h : Milder s s') : s'.current.isSome = s.current.isSome := by
  simpa using congrArg Option.isSome (h.map_table id)

theorem current_follow (h : Milder s s') (hr : r.Gains r') :
    Option.Rel OpenTable.Gains (s.follow r).current (s'.follow r').current := by
  have hcurrent := h.current
  rw [State.current_follow, State.current_follow]
  generalize s.current = o, s'.current = o' at hcurrent
  cases hr with
  | same =>
    cases r with
    | opens table => exact .some ⟨rfl, Nat.le_refl 0⟩
    | nameless e | closes => exact .none
    | adds f =>
      cases hcurrent with
      | none => exact .none
      | some ho => exact .some ⟨ho.1, Nat.succ_le_succ ho.2⟩
    | faulty e | constraint | nothing => exact hcurrent
  | field e f =>
    cases hcurrent with
    | none => exact .none
    | some ho => exact .some ⟨ho.1, Nat.le_succ_of_le ho.2⟩

/-- A problem stays, unless its line gives a field now. -/
theorem problem?_sublist (h : Milder s s') (hr : r.Gains r') :
    (s'.problem? r').toList.Sublist (s.problem? r).toList := by
  cases hr with
  | same =>
    cases r with
    | nameless e => rw [State.problem?, State.problem?, h.line]
    | faulty e =>
      rw [State.problem?, State.problem?, h.line,
        h.map_table fun table => Problem.column table (e.onLine (s.line + 1))]
    | _ => exact .refl _
  | field e f => exact List.nil_sublist _

theorem warningsAt_sublist (h : Milder s s') (hr : r.Gains r') :
    (s'.warningsAt r').Sublist (s.warningsAt r) := by
  have hleave : s'.leaveWarnings (s'.line + 1) = s.leaveWarnings (s.line + 1) := by
    rw [State.leaveWarnings, State.leaveWarnings, ← Option.toList_map, h.line,
      h.map_table (Warning.unterminated (s.line + 1)), Option.toList_map]
  cases hr with
  | same =>
    cases r with
    | opens table | nameless e => rw [State.warningsAt, State.warningsAt, hleave]
    | closes =>
      have hcurrent := h.current
      simp only [State.warningsAt]
      generalize s.current = o, s'.current = o' at hcurrent
      cases hcurrent with
      | none => exact .refl _
      | some ho =>
        rw [Option.toList_some, Option.toList_some, List.flatMap_singleton, List.flatMap_singleton]
        exact State.closingWarnings_sublist h.counted.entries ho
    | _ => exact .refl _
  | field e f => exact .refl _

theorem counted_follow (h : Milder s s') (hr : r.Gains r') :
    State.CountsMore (s.follow r).counted (s'.follow r').counted := by
  have hcurrent := h.current
  rw [State.counted_follow, State.counted_follow]
  generalize s.current = o, s'.current = o' at hcurrent
  cases hr with
  | same =>
    cases r with
    | closes =>
      cases hcurrent with
      | none => exact h.counted
      | @some o o' ho =>
        have hentry : Entry.Gains ⟨structName o.table, o.columns, o.table⟩
            ⟨structName o'.table, o'.columns, o'.table⟩ := ⟨congrArg structName ho.1, ho⟩
        exact ⟨Entry.gains_record hentry h.counted.entries, congrArg (· + 1) h.counted.tables,
          Nat.add_le_add h.counted.columns ho.2⟩
    | _ => exact h.counted
  | field e f => exact h.counted

/-- **One line.** A reading that gains leaves the milder state milder. -/
theorem follow (h : Milder s s') (hr : r.Gains r') : Milder (s.follow r) (s'.follow r') where
  line := by rw [State.line_follow, State.line_follow, h.line]
  current := h.current_follow hr
  problems := by
    rw [State.problems_follow, State.problems_follow]
    exact h.problems.append (h.problem?_sublist hr)
  warnings := by
    rw [State.warnings_follow, State.warnings_follow]
    exact h.warnings.append (h.warningsAt_sublist hr)
  counted := h.counted_follow hr
  skipped := by
    rw [State.skipped_follow, State.skipped_follow, h.skipped]
    cases hr <;> rfl

/-- **All lines.** -/
theorem run {t t' : TypeTable} (ht : t.Extends t') (h : Milder s s') (lines : List Text) :
    Milder (s.run t lines) (s'.run t' lines) := by
  induction lines generalizing s s' with
  | nil => exact h
  | cons line rest ih =>
    have hnext : Milder (s.next t line) (s'.next t' line) := by
      rw [State.next_eq t false, State.next_eq t' false, h.isSome]
      exact h.follow (Reading.gains_of_extends ht false line s.current.isSome)
    exact ih hnext

theorem endWarnings (h : Milder s s') : s'.endWarnings = s.endWarnings := by
  rw [State.endWarnings, State.endWarnings, ← Option.toList_map, h.map_table Warning.missingEnd,
    Option.toList_map]

end Milder

/-- **A report** under more rules has no new problems and no new warnings, the same tables under the same
struct names, and all columns that it had. -/
theorem check_of_extends {t t' : TypeTable} (h : t.Extends t') (lines : List Text) :
    (check t' lines).problems.Sublist (check t lines).problems ∧
      (check t' lines).warnings.Sublist (check t lines).warnings ∧
      (check t' lines).tableCount = (check t lines).tableCount ∧
      (check t' lines).skipped = (check t lines).skipped ∧
      (check t lines).columnCount ≤ (check t' lines).columnCount ∧
      List.Forall₂ Entry.Gains (check t lines).entries (check t' lines).entries := by
  have hmilder := Milder.initial.run h lines
  rw [check_eq, check_eq]
  refine ⟨hmilder.problems, ?_, hmilder.counted.tables, hmilder.skipped, hmilder.counted.columns,
    hmilder.counted.entries⟩
  simp only
  rw [hmilder.endWarnings]
  exact hmilder.warnings.append_right _

end Report

/-! ### The converter -/

namespace Converter
variable {c : Converter} {exact prefixes : List (Text × Text)}

/-- The converter with more rules. -/
def extend (c : Converter) (exact prefixes : List (Text × Text)) : Converter :=
  { c with types := c.types.extend exact prefixes }

/-- **More rules change nothing that worked.** New rules for whole types that had no Go type, and new
rules for beginnings behind the others: a type keeps its Go type; lines that convert give the same
structs and the same source, with the same log; lines that do not convert come to convert, or fail at
no earlier line; and a check has no new errors, the same tables and constraints, and no fewer columns. -/
theorem extension_is_conservative (hexact : ∀ rule ∈ exact, c.types.goType? rule.1 = none) :
    (∀ sqlType number go, c.types.map sqlType number = .ok go →
      (c.extend exact prefixes).types.map sqlType number = .ok go) ∧
    (∀ tagged lines structs, (convert c.types tagged lines).result = .ok structs →
      (convert (c.extend exact prefixes).types tagged lines).result = .ok structs ∧
      ∀ failure w, ((c.extend exact prefixes).source tagged { lines, failure }).run w =
        (c.source tagged { lines, failure }).run w) ∧
    (∀ tagged lines e, (convert c.types tagged lines).result = .error e →
      (∃ structs, (convert (c.extend exact prefixes).types tagged lines).result = .ok structs) ∨
      ∃ e' : LineError, (convert (c.extend exact prefixes).types tagged lines).result = .error e' ∧
        ∃ n n' : Nat, e.number? = some (n : Int) ∧ e'.number? = some (n' : Int) ∧ n ≤ n') ∧
    ∀ lines, (check (c.extend exact prefixes).types lines).errors.Sublist (check c.types lines).errors ∧
      (check (c.extend exact prefixes).types lines).tableCount = (check c.types lines).tableCount ∧
      (check (c.extend exact prefixes).types lines).skipped = (check c.types lines).skipped ∧
      (check c.types lines).columnCount ≤ (check (c.extend exact prefixes).types lines).columnCount := by
  have hextends : c.types.Extends (c.extend exact prefixes).types :=
    TypeTable.extends_extend hexact prefixes
  refine ⟨fun sqlType number go => hextends.map, fun tagged lines structs hok => ?_,
    fun tagged lines e he => ?_, fun lines => ?_⟩
  · have hsame := convert_of_extends hextends hok
    refine ⟨by rw [hsame, hok], fun failure w => ?_⟩
    have hstructs : (c.extend exact prefixes).structs tagged { lines, failure } =
        c.structs tagged { lines, failure } := by
      unfold Converter.structs
      rw [hsame]
    unfold source
    rw [hstructs]
    rfl
  · cases he' : (convert (c.extend exact prefixes).types tagged lines).result with
    | ok structs => exact .inl ⟨structs, rfl⟩
    | error e' => exact .inr ⟨e', rfl, convert_error_of_extends hextends he he'⟩
  · obtain ⟨hproblems, -, htables, hskipped, hcolumns, -⟩ := Report.check_of_extends hextends lines
    exact ⟨hproblems.map _, htables, hskipped, hcolumns⟩

/-- Rules for beginnings that are behind those for the same types, or fit every type. -/
theorem extension_is_conservative_of_money :
    let exact := [("money", "Money"), ("numeri", "int")].map fun (sql, go) => (sql.toText, go.toText)
    let prefixes := [("timestamp", "time.Time"), ("mon", "Month"), ("", "any")].map fun (sql, go) =>
      (sql.toText, go.toText)
    let lines := ["CREATE TABLE t (", "a timestamp,", "b money,", "c", ");"].map String.toText
    (∀ rule ∈ exact, TypeTable.builtin.goType? rule.1 = none) ∧
      (check (({} : Converter).extend exact prefixes).types lines).errors.Sublist
        (check .builtin lines).errors ∧
      (check .builtin lines).errors.length = 2 := by
  intro exact prefixes lines
  have hexact : ∀ rule ∈ exact, TypeTable.builtin.goType? rule.1 = none := by decide +kernel
  obtain ⟨-, -, -, hcheck⟩ := @extension_is_conservative {} exact prefixes hexact
  exact ⟨hexact, (hcheck lines).1, by decide +kernel⟩

end Converter
end TableStructs
