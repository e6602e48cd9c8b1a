import Mathlib.Data.List.Induction
import TableStructs.Proofs.Blocks
import TableStructs.Proofs.Run

/-!
What a conversion gives, said without a pass over the lines. `Fault` says which lines cannot be
used, from their places alone, and `Declares` what struct a block stands for. A conversion fails
with the fault of the first line that has one; without faults it gives the structs of the blocks.

The proof follows the lines: `Reached` says of a conversion's state what it owes to the lines read
so far, and each further line preserves that (`Reached.concat`).
-/
namespace TableStructs.Blocks

/-! ### Faults and structs -/

/-- Line `i` cannot be used. -/
inductive Fault (types : TypeTable) (lines : List Text) (i : Nat) : LineError → Prop
  /-- A header without a table's name. -/
  | nameless {line} (here : lines[i]? = some line) (header : isHeader line = true)
    (unnamed : headerTable? line = none) :
    Fault types lines i (.malformed (Text.trim line) (some (i + 1 : Nat)))
  /-- A column line with fewer than two pieces between single spaces. -/
  | short {line} (here : lines[i]? = some line) (column : isColumn lines i = true)
    (pieces : (Text.split ' ' (Text.trim line)).length < 2) :
    Fault types lines i (.malformed (Text.trim line) (some (i + 1 : Nat)))
  /-- A column line with a type that no rule fits. -/
  | unmapped {line name sqlType others} (here : lines[i]? = some line)
    (column : isColumn lines i = true)
    (pieces : Text.split ' ' (Text.trim line) = name :: sqlType :: others)
    (unruled : types.goType? (Text.dropEnd ',' sqlType) = none) :
    Fault types lines i (.unmapped (Text.dropEnd ',' sqlType) (some (i + 1 : Nat)))

/-- The field of a column line: its first two pieces between single spaces are the column's name and
its type, which may carry a comma. -/
def field? (types : TypeTable) (tagged : Bool) (line : Text) : Option Field :=
  match Text.split ' ' (Text.trim line) with
  | name :: sqlType :: _ =>
    (types.goType? (Text.dropEnd ',' sqlType)).map fun goType =>
      { name := camelCase name, goType, tag := if tagged then some name else none }
  | _ => none

/-- The struct that the lines from a header to another place stand for: the header names it, and
each column line between the two gives a field. -/
structure Declares (types : TypeTable) (tagged : Bool) (lines : List Text) (block : Nat × Nat)
    (t : Struct) : Prop where
  table : lines[block.1]?.bind headerTable? = some t.table
  name : t.name = structName t.table
  fields : t.fields.map some =
    (columnsBetween lines block.1 block.2).map fun k => lines[k]?.bind (field? types tagged)

/-! ### Lines by their places -/

section Places
variable {types : TypeTable} {tagged : Bool} {lines : List Text} {i : Nat} {line : Text}

theorem isColumn_iff (h : lines[i]? = some line) :
    isColumn lines i = true ↔
      (openHeader? lines i).isSome = true ∧ isHeader line = false ∧ isTerminator line = false ∧
        (Text.trim line).isEmpty = false ∧ Text.firstWord line ≠ constraintWord := by
  simp only [isColumn, isInside, isMark, h, Option.any_some, Bool.and_eq_true, Bool.not_eq_true',
    Bool.or_eq_false_iff, decide_eq_true_eq, ne_eq]
  tauto

theorem ofLine_of_column (h : lines[i]? = some line) (hc : isColumn lines i = true) :
    LineKind.ofLine line true = .column := by
  obtain ⟨-, hh, ht, hblank, hword⟩ := (isColumn_iff h).1 hc
  have hmark : Text.has headerMark line = false := hh
  have htrim : Text.trim line ≠ terminatorMark := of_decide_eq_false ht
  simp [LineKind.ofLine, hmark, htrim, hblank, hword]

theorem ofLine_of_not_column (h : lines[i]? = some line)
    (ho : (openHeader? lines i).isSome = true) (hh : isHeader line = false)
    (ht : isTerminator line = false) (hc : isColumn lines i = false) :
    LineKind.ofLine line true = .ignorable := by
  have hmark : Text.has headerMark line = false := hh
  have htrim : Text.trim line ≠ terminatorMark := of_decide_eq_false ht
  have hrest : (Text.trim line).isEmpty = false → Text.firstWord line = constraintWord := by
    intro hblank
    apply Decidable.byContradiction
    intro hword
    rw [(isColumn_iff h).2 ⟨ho, hh, ht, hblank, hword⟩] at hc
    cases hc
  simp only [LineKind.ofLine, hmark, htrim, Bool.false_eq_true, if_false, Bool.not_true,
    Bool.or_eq_true, decide_eq_true_eq]
  cases hblank : (Text.trim line).isEmpty with
  | true => simp
  | false => simp [hrest hblank]

theorem field_of_short (types : TypeTable) (tagged : Bool)
    (h : (Text.split ' ' (Text.trim line)).length < 2) :
    Field.ofLine types tagged line none = .error (.malformed (Text.trim line) none) := by
  unfold Field.ofLine Column.ofLine Column.ofLine?
  cases hs : Text.split ' ' (Text.trim line) with
  | nil => rfl
  | cons name pieces =>
    cases pieces with
    | nil => rfl
    | cons sqlType others =>
      rw [hs] at h
      simp only [List.length_cons] at h
      omega

theorem field_of_unmapped (tagged : Bool) {name sqlType : Text} {others : List Text}
    (hp : Text.split ' ' (Text.trim line) = name :: sqlType :: others)
    (ht : types.goType? (Text.dropEnd ',' sqlType) = none) :
    Field.ofLine types tagged line none = .error (.unmapped (Text.dropEnd ',' sqlType) none) := by
  simp [Field.ofLine, Column.ofLine, Column.ofLine?, TypeTable.map, hp, ht]

/-- The field of a column line is what its block takes it for. -/
theorem field_of_mapped (tagged : Bool) {name sqlType goType : Text} {others : List Text}
    (hp : Text.split ' ' (Text.trim line) = name :: sqlType :: others)
    (ht : types.goType? (Text.dropEnd ',' sqlType) = some goType) :
    ∃ f, field? types tagged line = some f ∧ Field.ofLine types tagged line none = .ok f := by
  simp [field?, Field.ofLine, Column.ofLine, Column.ofLine?, TypeTable.map, Field.ofColumn, hp, ht]

/-- The reading of a line by its place: which of these it is follows from the nearest mark. -/
inductive Says (types : TypeTable) (tagged : Bool) (lines : List Text) (i : Nat) (line : Text) :
    Reading → Prop
  | opens {table} (header : isHeader line = true) (named : headerTable? line = some table) :
    Says types tagged lines i line (.opens table)
  | nameless (header : isHeader line = true) (unnamed : headerTable? line = none) :
    Says types tagged lines i line (.nameless (.malformed (Text.trim line) none))
  | outside (header : isHeader line = false) (outside : openHeader? lines i = none) :
    Says types tagged lines i line .nothing
  | closes (header : isHeader line = false) (inside : (openHeader? lines i).isSome = true)
    (terminator : isTerminator line = true) : Says types tagged lines i line .closes
  | adds {f} (column : isColumn lines i = true) (field : field? types tagged line = some f) :
    Says types tagged lines i line (.adds f)
  | short (column : isColumn lines i = true)
    (pieces : (Text.split ' ' (Text.trim line)).length < 2) :
    Says types tagged lines i line (.faulty (.malformed (Text.trim line) none))
  | unmapped {name sqlType others} (column : isColumn lines i = true)
    (pieces : Text.split ' ' (Text.trim line) = name :: sqlType :: others)
    (unruled : types.goType? (Text.dropEnd ',' sqlType) = none) :
    Says types tagged lines i line (.faulty (.unmapped (Text.dropEnd ',' sqlType) none))
  | passed {r} (header : isHeader line = false) (terminator : isTerminator line = false)
    (column : isColumn lines i = false) (reading : r = .constraint ∨ r = .nothing) :
    Says types tagged lines i line r

/-- A column line gives a field or has one of two faults. -/
theorem says_of_column (types : TypeTable) (tagged : Bool) (h : lines[i]? = some line)
    (hc : isColumn lines i = true) :
    Says types tagged lines i line (Reading.ofLine types tagged line true) := by
  rw [Reading.ofLine, ofLine_of_column h hc]
  by_cases hshort : (Text.split ' ' (Text.trim line)).length < 2
  · rw [field_of_short types tagged hshort]
    exact .short hc hshort
  · obtain ⟨name, sqlType, others, hp⟩ : ∃ name sqlType others,
        Text.split ' ' (Text.trim line) = name :: sqlType :: others := by
      rcases hp : Text.split ' ' (Text.trim line) with _ | ⟨name, _ | ⟨sqlType, others⟩⟩
      · simp [hp] at hshort
      · simp [hp] at hshort
      · exact ⟨name, sqlType, others, rfl⟩
    cases ht : types.goType? (Text.dropEnd ',' sqlType) with
    | none =>
      rw [field_of_unmapped tagged hp ht]
      exact .unmapped hc hp ht
    | some goType =>
      obtain ⟨f, hf, hread⟩ := field_of_mapped tagged hp ht
      rw [hread]
      exact .adds hc hf

theorem says_ofLine (types : TypeTable) (tagged : Bool) (h : lines[i]? = some line) :
    Says types tagged lines i line
      (Reading.ofLine types tagged line (openHeader? lines i).isSome) := by
  cases hh : isHeader line with
  | true =>
    rw [Reading.ofLine_of_header hh, headerTable]
    cases ht : headerTable? line with
    | none => exact .nameless hh ht
    | some table => exact .opens hh ht
  | false =>
    have hmark : Text.has headerMark line = false := hh
    cases ho : openHeader? lines i with
    | none =>
      have : Reading.ofLine types tagged line false = .nothing := by
        simp [Reading.ofLine, LineKind.ofLine, hmark]
      rw [Option.isSome_none, this]
      exact .outside hh ho
    | some j =>
      have hopen : (openHeader? lines i).isSome = true := by rw [ho, Option.isSome_some]
      rw [Option.isSome_some]
      cases ht : isTerminator line with
      | true =>
        have htrim : Text.trim line = terminatorMark := of_decide_eq_true ht
        have : Reading.ofLine types tagged line true = .closes := by
          simp [Reading.ofLine, LineKind.ofLine, hmark, htrim]
        rw [this]
        exact .closes hh hopen ht
      | false =>
        cases hc : isColumn lines i with
        | true => exact says_of_column types tagged h hc
        | false =>
          rw [Reading.ofLine, ofLine_of_not_column h hopen hh ht hc]
          apply Says.passed hh ht hc
          cases (Text.trim line).isEmpty <;> simp

/-- The faults of a line are the errors of its reading. -/
theorem fault_iff (tagged : Bool) (h : lines[i]? = some line) {e : LineError} :
    Fault types lines i e ↔
      ∃ e', (Reading.ofLine types tagged line (openHeader? lines i).isSome).error? = some e' ∧
        e = e'.onLine (i + 1) := by
  constructor
  · intro hf
    cases hf with
    | nameless here hh hu =>
      cases here.symm.trans h
      rw [Reading.ofLine_of_header hh, headerTable, hu]
      exact ⟨_, rfl, rfl⟩
    | short here hc hp =>
      cases here.symm.trans h
      rw [((isColumn_iff h).1 hc).1, Reading.ofLine, ofLine_of_column h hc]
      simp only [field_of_short types tagged hp]
      exact ⟨_, rfl, rfl⟩
    | unmapped here hc hp hu =>
      cases here.symm.trans h
      rw [((isColumn_iff h).1 hc).1, Reading.ofLine, ofLine_of_column h hc]
      simp only [field_of_unmapped tagged hp hu]
      exact ⟨_, rfl, rfl⟩
  · rintro ⟨e', he', rfl⟩
    have hsays := says_ofLine types tagged h
    generalize Reading.ofLine types tagged line (openHeader? lines i).isSome = r at hsays he'
    cases hsays with
    | nameless hh hu => cases he'; exact .nameless h hh hu
    | short hc hp => cases he'; exact .short h hc hp
    | unmapped hc hp hu => cases he'; exact .unmapped h hc hp hu
    | passed _ _ _ hr => rcases hr with rfl | rfl <;> cases he'
    | _ => cases he'

theorem fault_append {a : List Text} (h : i < a.length) (b : List Text) {e : LineError} :
    Fault types (a ++ b) i e ↔ Fault types a i e := by
  have hline : a[i]? = some a[i] := List.getElem?_eq_getElem h
  have happ : (a ++ b)[i]? = some a[i] := (List.getElem?_append_left h).trans hline
  rw [fault_iff false hline, fault_iff false happ, openHeader?_append (Nat.le_of_lt h)]

theorem Fault.lt {e : LineError} (h : Fault types lines i e) : i < lines.length := by
  cases h with
  | nameless here | short here | unmapped here => exact (List.getElem?_eq_some_iff.1 here).1

/-- A line has one fault at most. -/
theorem Fault.unique {e e' : LineError} (h : Fault types lines i e) (h' : Fault types lines i e') :
    e = e' := by
  obtain ⟨line, hline⟩ : ∃ line, lines[i]? = some line := ⟨_, List.getElem?_eq_getElem h.lt⟩
  obtain ⟨d, hd, rfl⟩ := (fault_iff false hline).1 h
  obtain ⟨d', hd', rfl⟩ := (fault_iff false hline).1 h'
  cases hd.symm.trans hd'
  rfl

end Places

/-! ### The structs of blocks -/

section Blocks
variable {types : TypeTable} {tagged : Bool} {lines : List Text}

theorem Declares.append {j i : Nat} {t : Struct} (h : Declares types tagged lines (j, i) t)
    (hj : j < i) (hi : i ≤ lines.length) (more : List Text) :
    Declares types tagged (lines ++ more) (j, i) t where
  table := by
    rw [List.getElem?_append_left (Nat.lt_of_lt_of_le hj hi)]
    exact h.table
  name := h.name
  fields := by
    rw [h.fields, columnsBetween_append hi]
    apply List.map_congr_left
    intro k hk
    have hk' : k < i := List.mem_range.1 (List.mem_filter.1 hk).1
    rw [List.getElem?_append_left (Nat.lt_of_lt_of_le hk' hi)]

/-- A line that is no column adds nothing to what the lines from a header stand for. -/
theorem Declares.skip {j i : Nat} {t : Struct} (h : Declares types tagged lines (j, i) t) (hj : j < i)
    (hc : isColumn lines i = false) : Declares types tagged lines (j, i + 1) t where
  table := h.table
  name := h.name
  fields := by simp [columnsBetween_succ hj, hc, h.fields]

theorem Declares.add {j i : Nat} {t : Struct} {f : Field} {line : Text}
    (h : Declares types tagged lines (j, i) t) (hj : j < i) (hline : lines[i]? = some line)
    (hc : isColumn lines i = true) (hf : field? types tagged line = some f) :
    Declares types tagged lines (j, i + 1) (t.add f) where
  table := h.table
  name := h.name
  fields := by simp [columnsBetween_succ hj, hc, h.fields, Struct.add, hline, hf]

end Blocks

/-! ### The state after some lines -/

section Run
open Conversion
variable {types : TypeTable} {tagged : Bool} {lines : List Text}

/-- What the state of a conversion owes to the lines it has read. -/
structure Reached (types : TypeTable) (tagged : Bool) (lines : List Text) (s : State) : Prop where
  faultless : ∀ i e, ¬ Fault types lines i e
  current : Option.Rel (fun j t => Declares types tagged lines (j, lines.length) t)
    (openHeader? lines lines.length) s.current
  finished : List.Forall₂ (Declares types tagged lines) (blocks lines) s.finished

theorem Reached.isSome {s : State} (h : Reached types tagged lines s) :
    s.current.isSome = (openHeader? lines lines.length).isSome := by
  have := h.current
  cases ho : openHeader? lines lines.length <;> cases hc : s.current <;> simp_all

theorem Reached.initial : Reached types tagged [] {} where
  faultless i _ h := absurd h.lt (Nat.not_lt_zero i)
  current := .none
  finished := .nil

theorem faultless_concat {line : Text} (h : ∀ i e, ¬ Fault types lines i e)
    (hr : (Reading.ofLine types tagged line (openHeader? lines lines.length).isSome).error? = none) :
    ∀ i e, ¬ Fault types (lines ++ [line]) i e := by
  intro i e hf
  have hi : i < lines.length + 1 := by simpa using hf.lt
  rcases Nat.lt_succ_iff_lt_or_eq.1 hi with hi | rfl
  · exact h i e ((fault_append hi [line]).1 hf)
  · obtain ⟨e', he', -⟩ := (fault_iff tagged List.getElem?_concat_length).1 hf
    rw [openHeader?_append (Nat.le_refl _), hr] at he'
    cases he'

/-- While no mark is read, the open table stays the same. -/
theorem rel_map {R R' : Nat → Struct → Prop} {header : Option Nat} {current : Option Struct}
    (h : Option.Rel R header current) (g : Struct → Struct)
    (hstep : ∀ j t, header = some j → R j t → R' j (g t)) :
    Option.Rel R' header (current.map g) := by
  cases h with
  | none => exact .none
  | some hR => exact .some (hstep _ _ rfl hR)

/-- The open struct is that of the nearest header, with a field for each column line since. -/
theorem current_concat {s : State} {line : Text} {r : Reading}
    (h : Option.Rel (fun j t => Declares types tagged lines (j, lines.length) t)
      (openHeader? lines lines.length) s.current)
    (hs : Says types tagged (lines ++ [line]) lines.length line r) (hr : r.error? = none) :
    Option.Rel (fun j t => Declares types tagged (lines ++ [line]) (j, (lines ++ [line]).length) t)
      (openHeader? (lines ++ [line]) (lines ++ [line]).length) (s.follow r).current := by
  have hline : (lines ++ [line])[lines.length]? = some line := List.getElem?_concat_length
  rw [openHeader?_concat, List.length_append, List.length_singleton]
  cases hs with
  | @opens table hh hn =>
    rw [State.current_follow, if_pos hh]
    refine .some ⟨?_, rfl, ?_⟩
    · simp [hn, Struct.ofTable]
    · rw [columnsBetween_self]
      rfl
  | nameless => cases hr
  | outside hh ho =>
    rw [openHeader?_append (Nat.le_refl _)] at ho
    rw [ho] at h ⊢
    rw [State.current_follow, hh, ite_self]
    cases hc : s.current with
    | none => exact .none
    | some t =>
      rw [hc] at h
      cases h
  | closes hh ho ht =>
    rw [State.current_follow, hh, if_pos ht]
    exact .none
  | @adds f hc hf =>
    obtain ⟨-, hh, ht, -, -⟩ := (isColumn_iff hline).1 hc
    rw [State.current_follow, hh, ht]
    apply rel_map h
    intro j t ho hd
    have hj : j < lines.length := openHeader?_lt ho
    exact (hd.append hj (Nat.le_refl _) [line]).add hj hline hc hf
  | short => cases hr
  | unmapped => cases hr
  | passed hh ht hc hp =>
    have hcurrent : (s.follow r).current = s.current.map id := by
      rw [Option.map_id, id]
      rcases hp with rfl | rfl <;> rfl
    rw [hcurrent, hh, ht]
    apply rel_map h
    intro j t ho hd
    have hj : j < lines.length := openHeader?_lt ho
    exact (hd.append hj (Nat.le_refl _) [line]).skip hj hc

/-- A line ends a block if and only if its reading is a terminator. -/
theorem new_block {line : Text} {r : Reading}
    (hs : Says types tagged (lines ++ [line]) lines.length line r) :
    (if isTerminator line then ((openHeader? lines lines.length).map (·, lines.length)).toList
      else []) =
    if r = .closes then ((openHeader? lines lines.length).map (·, lines.length)).toList else [] := by
  have hline : (lines ++ [line])[lines.length]? = some line := List.getElem?_concat_length
  have hcolumn (hc : isColumn (lines ++ [line]) lines.length = true) : isTerminator line = false :=
    ((isColumn_iff hline).1 hc).2.2.1
  cases hs with
  | opens hh | nameless hh => simp [isTerminator_of_header hh]
  | outside hh ho =>
    rw [openHeader?_append (Nat.le_refl _)] at ho
    simp [ho]
  | closes hh ho ht => simp [ht]
  | adds hc | short hc | unmapped hc => simp [hcolumn hc]
  | passed hh ht hc hp => rcases hp with rfl | rfl <;> simp [ht]

/-- The structs finished are those of the blocks. -/
theorem finished_concat {s : State} {line : Text} {r : Reading}
    (hcurrent : Option.Rel (fun j t => Declares types tagged lines (j, lines.length) t)
      (openHeader? lines lines.length) s.current)
    (h : List.Forall₂ (Declares types tagged lines) (blocks lines) s.finished)
    (hs : Says types tagged (lines ++ [line]) lines.length line r) :
    List.Forall₂ (Declares types tagged (lines ++ [line])) (blocks (lines ++ [line]))
      (s.follow r).finished := by
  have hold : List.Forall₂ (Declares types tagged (lines ++ [line])) (blocks lines) s.finished := by
    have hboth := (List.forall₂_and_left _ _).2 ⟨fun block hb => bounds_of_mem_blocks hb, h⟩
    refine hboth.imp ?_
    rintro ⟨j, i⟩ t ⟨⟨hj, hi⟩, hd⟩
    exact hd.append hj (Nat.le_of_lt hi) [line]
  rw [blocks_concat, State.finished_follow, new_block hs]
  by_cases hclose : r = .closes
  · rw [if_pos hclose, if_pos hclose]
    refine List.rel_append hold ?_
    generalize hj : openHeader? lines lines.length = header at hcurrent ⊢
    generalize s.current = current at hcurrent ⊢
    cases hcurrent with
    | none => exact .nil
    | some hd => exact .cons (hd.append (openHeader?_lt hj) (Nat.le_refl _) [line]) .nil
  · rw [if_neg hclose, if_neg hclose, List.append_nil]
    exact hold

/-- **One more line** that can be used. -/
theorem Reached.concat {s : State} {line : Text} (h : Reached types tagged lines s)
    (hr : (Reading.ofLine types tagged line s.current.isSome).error? = none) :
    Reached types tagged (lines ++ [line])
      (s.follow (Reading.ofLine types tagged line s.current.isSome)) := by
  have hlast : (lines ++ [line])[lines.length]? = some line := List.getElem?_concat_length
  have hs := says_ofLine types tagged hlast
  rw [openHeader?_append (Nat.le_refl _)] at hs
  rw [h.isSome] at hr ⊢
  exact ⟨faultless_concat h.faultless hr, current_concat h.current hs hr,
    finished_concat h.current h.finished hs⟩

/-- **A conversion that has read some lines has reached what they stand for.** -/
theorem reached_run {s : State} (h : ({} : State).run types tagged lines = (s, none)) :
    Reached types tagged lines s := by
  induction lines using List.reverseRecOn generalizing s with
  | nil =>
    cases h
    exact .initial
  | append_singleton before line ih =>
    obtain ⟨t, ht, hlast⟩ := State.pass_of_run_append h
    obtain ⟨hpass, hs⟩ := State.pass_of_run_cons hlast
    cases hs
    exact (ih ht).concat hpass

/-- A line that stops a conversion is the first with a fault. -/
theorem fault_of_stopsAt {before rest : List Text} {line : Text} {e : LineError}
    (h : StopsAt types tagged before line e) :
    Fault types (before ++ line :: rest) before.length e ∧
      ∀ j < before.length, ∀ e', ¬ Fault types (before ++ line :: rest) j e' := by
  obtain ⟨t, e', ht, he, rfl⟩ := stopsAt_iff.1 h
  have hreached := reached_run ht
  have hline : (before ++ line :: rest)[before.length]? = some line := by simp
  rw [hreached.isSome] at he
  constructor
  · rw [fault_iff tagged hline, openHeader?_append (Nat.le_refl _)]
    exact ⟨e', he, rfl⟩
  · intro j hj d hd
    exact hreached.faultless j d ((fault_append hj (line :: rest)).1 hd)

theorem faultless_of_ok {structs : List Struct}
    (h : (convert types tagged lines).result = .ok structs) : ∀ i e, ¬ Fault types lines i e := by
  obtain ⟨t, ht, -⟩ := convert_ok_iff.1 h
  exact (reached_run ht).faultless

theorem first_fault_of_error {e : LineError} (h : (convert types tagged lines).result = .error e) :
    ∃ i, Fault types lines i e ∧ ∀ j < i, ∀ e', ¬ Fault types lines j e' := by
  obtain ⟨before, line, rest, rfl, hstop⟩ := convert_stop h
  exact ⟨before.length, fault_of_stopsAt hstop⟩

/-- **Conversion by blocks.** A conversion fails if and only if some line has a fault, and then with
the fault of the first such line. Otherwise it gives a struct for each block, in order. -/
theorem convert_by_blocks (types : TypeTable) (tagged : Bool) (lines : List Text) :
    ((∃ e, (convert types tagged lines).result = .error e) ↔ ∃ i e, Fault types lines i e) ∧
    (∀ e, (convert types tagged lines).result = .error e ↔
      ∃ i, Fault types lines i e ∧ ∀ j < i, ∀ e', ¬ Fault types lines j e') ∧
    ((∀ i e, ¬ Fault types lines i e) →
      ∃ structs, (convert types tagged lines).result = .ok structs ∧
        List.Forall₂ (Declares types tagged lines) (blocks lines) structs) := by
  have hfail (i : Nat) (e : LineError) (hf : Fault types lines i e) :
      ∃ d, (convert types tagged lines).result = .error d := by
    cases hr : (convert types tagged lines).result with
    | ok structs => exact absurd hf (faultless_of_ok hr i e)
    | error d => exact ⟨d, rfl⟩
  refine ⟨⟨?_, ?_⟩, fun e => ⟨first_fault_of_error, ?_⟩, fun hnone => ?_⟩
  · rintro ⟨e, he⟩
    obtain ⟨i, hf, -⟩ := first_fault_of_error he
    exact ⟨i, e, hf⟩
  · rintro ⟨i, e, hf⟩
    exact hfail i e hf
  · rintro ⟨i, hf, hfirst⟩
    obtain ⟨d, hd⟩ := hfail i e hf
    obtain ⟨k, hk, hkfirst⟩ := first_fault_of_error hd
    rcases Nat.lt_trichotomy i k with hlt | rfl | hgt
    · exact absurd hf (hkfirst i hlt e)
    · rw [hd, hf.unique hk]
    · exact absurd hk (hfirst k hgt d)
  · cases hr : (convert types tagged lines).result with
    | error d =>
      obtain ⟨k, hk, -⟩ := first_fault_of_error hr
      exact absurd hk (hnone k d)
    | ok structs =>
      obtain ⟨t, ht, rfl⟩ := convert_ok_iff.1 hr
      exact ⟨t.finished, rfl, (reached_run ht).finished⟩

end Run

end TableStructs.Blocks
