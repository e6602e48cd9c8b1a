import TableStructs.Proofs.Layout
import TableStructs.Proofs.LostTables

/-!
Clashes of struct names. Two tables may give structs of one name, and a check warns of the later one when
it is closed. What it warns of is said here by the list of the tables closed, without a pass over the
lines: a table has a clash if one before it has given its struct name, and the warning is about the last
such one (`Report.clash?_eq_some_iff`).

The check itself keeps no such list. It has an entry for each name, which a later table of that name
replaces; `Recorded` relates these entries to the list, and every reading preserves it
(`Recorded.follow`). So each table closed either makes an entry or has a clash, and clashes and entries
together are as many as the tables (`length_clashes`).
-/
namespace TableStructs

open Blocks

/-! ### Tables closed -/

namespace Blocks

/-- The table, if it has been closed. -/
def Account.closed? (a : Account) : Option Text := a.block?.map fun _ => a.table

/-- The tables that are closed in some lines, in order. -/
def closedTables (lines : List Text) : List Text := (accounts lines).filterMap Account.closed?

theorem closedTables_eq_settled (lines : List Text) :
    closedTables lines = (settled lines).filterMap Account.closed? := by
  rw [closedTables, filterMap_accounts, List.append_right_eq_self]
  exact List.filterMap_eq_nil_iff.2 fun a _ => rfl

end Blocks

/-- Whether the warning is about a struct name that an earlier table has as well. -/
def Warning.isNameClash : Warning → Bool
  | nameClash .. => true
  | _ => false

namespace Report

/-! ### Clashes in a list of tables -/

/-- The warning about a table closed behind others: it tells of the last one with the same struct name. -/
def clash? (earlier : List Text) (table : Text) : Option Warning :=
  (earlier.reverse.find? fun t => structName t = structName table).map
    (.nameClash table (structName table) ·)

/-- The warnings about tables that are closed one after the other. -/
def clashes (tables : List Text) : List Warning :=
  (List.range tables.length).filterMap fun k => tables[k]?.bind (clash? (tables.take k))

/-- Three tables for one struct: the warning about the third tells of the second. -/
example :
    clashes (["as", "a", "b", "A"].map String.toText) =
      [.nameClash "a".toText "A".toText "as".toText, .nameClash "A".toText "A".toText "a".toText] := by
  decide +kernel

section
variable {earlier tables : List Text} {table : Text}

/-- A table has a clash with the last table before it that has given its struct name. -/
theorem clash?_eq_some_iff {w : Warning} :
    clash? earlier table = some w ↔
      ∃ before last behind, earlier = before ++ last :: behind ∧ structName last = structName table ∧
        (∀ t ∈ behind, structName t ≠ structName table) ∧
        w = .nameClash table (structName table) last := by
  rw [clash?, Option.map_eq_some_iff]
  constructor
  · rintro ⟨last, hfind, rfl⟩
    obtain ⟨hsame, behind, before, hsplit, hbetween⟩ := List.find?_eq_some_iff_append.1 hfind
    refine ⟨before.reverse, last, behind.reverse, ?_, of_decide_eq_true hsame, fun t ht => ?_, rfl⟩
    · rw [← List.reverse_reverse earlier, hsplit]
      simp
    · simpa using hbetween t (List.mem_reverse.1 ht)
  · rintro ⟨before, last, behind, rfl, hsame, hbetween, rfl⟩
    refine ⟨last, List.find?_eq_some_iff_append.2 ⟨decide_eq_true hsame, behind.reverse, before.reverse, ?_,
      fun t ht => ?_⟩, rfl⟩
    · simp
    · simpa using hbetween t (List.mem_reverse.1 ht)

theorem isSome_clash? (earlier : List Text) (table : Text) :
    (clash? earlier table).isSome = true ↔ structName table ∈ earlier.map structName := by
  simp [clash?, List.find?_isSome]

theorem clashes_concat (tables : List Text) (table : Text) :
    clashes (tables ++ [table]) = clashes tables ++ (clash? tables table).toList := by
  have hbefore : ∀ k ∈ List.range tables.length,
      (tables ++ [table])[k]?.bind (clash? ((tables ++ [table]).take k)) =
        tables[k]?.bind (clash? (tables.take k)) := by
    intro k hk
    have hk' : k < tables.length := List.mem_range.1 hk
    rw [List.getElem?_append_left hk', List.take_append_of_le_length (Nat.le_of_lt hk')]
  rw [clashes, List.length_append, List.length_singleton, List.range_succ, List.filterMap_append,
    List.filterMap_congr hbefore, ← clashes]
  congr 1
  rw [List.filterMap_cons, List.filterMap_nil, List.getElem?_concat_length, Option.bind_some,
    List.take_left]
  cases clash? tables table <;> rfl

/-- Each table has a new struct name or a clash. -/
theorem length_clashes (tables : List Text) :
    (clashes tables).length + (tables.map structName).eraseDups.length = tables.length := by
  induction tables using List.reverseRecOn with
  | nil => rfl
  | append_singleton tables table ih =>
    have hclash := isSome_clash? tables table
    rw [clashes_concat, List.length_append, List.map_append, List.map_singleton, eraseDups_concat,
      List.length_append, List.length_singleton]
    split
    · next hmem =>
      obtain ⟨w, hw⟩ := Option.isSome_iff_exists.1 (hclash.2 hmem)
      rw [hw, Option.toList_some, List.length_singleton]
      omega
    · next hmem =>
      rw [Option.not_isSome_iff_eq_none.1 (mt hclash.1 hmem), Option.toList_none, List.length_append,
        List.length_nil, List.length_singleton]
      omega

theorem clashes_eq_nil_iff (tables : List Text) :
    clashes tables = [] ↔ (tables.map structName).Nodup := by
  induction tables using List.reverseRecOn with
  | nil => simp [clashes]
  | append_singleton tables table ih =>
    have hclash := isSome_clash? tables table
    rw [clashes_concat, List.append_eq_nil_iff, ih, Option.toList_eq_nil_iff,
      ← Option.not_isSome_iff_eq_none, hclash, List.map_append, List.map_singleton, List.nodup_append]
    simp

end

/-! ### Clashes in a check -/

/-- The entry that a table makes when it is closed. -/
def OpenTable.entry (t : OpenTable) : Entry := ⟨structName t.table, t.columns, t.table⟩

namespace State
variable {types : TypeTable} {lines : List Text} {closed : List OpenTable} {s : State}

/-- What a reading closes. -/
def closedBy (s : State) : Reading → List OpenTable
  | .closes => s.current.toList
  | _ => []

/-- The warnings of a check that are about struct names, at a table closed. -/
theorem filter_isNameClash_closingWarnings (closed : List OpenTable) (t : OpenTable) :
    (closingWarnings (recorded (closed.map OpenTable.entry)) t).filter (·.isNameClash) =
      (clash? (closed.map (·.table)) t.table).toList := by
  have hfind : (recorded (closed.map OpenTable.entry)).find? (·.struct = structName t.table) =
      (closed.reverse.find? fun u => structName u.table = structName t.table).map OpenTable.entry := by
    rw [find?_recorded, ← List.map_reverse, List.find?_map]
    rfl
  have hlast : (closed.map (·.table)).reverse.find? (fun u => structName u = structName t.table) =
      (closed.reverse.find? fun u => structName u.table = structName t.table).map (·.table) := by
    rw [← List.map_reverse, List.find?_map]
    rfl
  have hcolumns : (if t.columns = 0 then [Warning.noColumns t.table] else []).filter (·.isNameClash) = [] := by
    split <;> rfl
  rw [closingWarnings, hfind, clash?, hlast, List.filter_append, hcolumns, List.nil_append]
  cases closed.reverse.find? fun u => structName u.table = structName t.table <;> rfl

/-- No other reading brings up a struct name. -/
theorem filter_isNameClash_warningsAt (s : State) (r : Reading) :
    (s.warningsAt r).filter (·.isNameClash) =
      (s.closedBy r).flatMap fun t => (closingWarnings s.entries t).filter (·.isNameClash) := by
  have hleave : (s.leaveWarnings (s.line + 1)).filter (·.isNameClash) = [] := by
    unfold leaveWarnings
    cases s.current <;> rfl
  cases r with
  | opens table =>
    have hname : (nameWarnings table).filter (·.isNameClash) = [] := by
      unfold nameWarnings
      split <;> rfl
    rw [warningsAt, List.filter_append, hleave, hname]
    rfl
  | nameless e => exact hleave
  | closes => rw [warningsAt, closedBy, List.filter_flatMap]
  | _ => rfl

/-- A check has recorded the tables closed in some lines. -/
structure Recorded (lines : List Text) (closed : List OpenTable) (s : State) : Prop where
  tables : closed.map (·.table) = closedTables lines
  counted : s.counted =
    (recorded (closed.map OpenTable.entry), closed.length, (closed.map (·.columns)).sum)
  clashes : s.warnings.filter (·.isNameClash) = clashes (closed.map (·.table))

namespace Recorded

theorem initial : Recorded [] [] {} := ⟨rfl, rfl, rfl⟩

theorem tables_follow (h : Recorded lines closed s) (hbooked : Booked lines s) (types : TypeTable)
    (line : Text) :
    (closed ++ s.closedBy (Reading.ofLine types false line s.current.isSome)).map (·.table) =
      closedTables (lines ++ [line]) := by
  have hcurrent := hbooked.map_current id
  rw [closedTables_eq_settled, filterMap_settled_follow Account.closed? types false, ← closedTables_eq_settled,
    List.map_append, h.tables, hbooked.isSome]
  congr 1
  cases Reading.ofLine types false line (openAccount? lines).isSome with
  | closes =>
    rw [closedBy]
    refine hcurrent.trans ?_
    cases openAccount? lines <;> rfl
  | opens | nameless => exact (List.filterMap_eq_nil_iff.2 fun a _ => rfl).symm
  | _ => rfl

theorem counted_follow (h : Recorded lines closed s) (r : Reading) :
    (s.follow r).counted =
      (recorded ((closed ++ s.closedBy r).map OpenTable.entry), (closed ++ s.closedBy r).length,
        ((closed ++ s.closedBy r).map (·.columns)).sum) := by
  have hcounted := h.counted
  rw [State.counted_follow]
  cases r with
  | closes =>
    cases hc : s.current with
    | none => simpa [closedBy, hc] using hcounted
    | some t =>
      simp only [State.counted, Prod.mk.injEq] at hcounted
      simp [closedBy, hc, hcounted, recorded_concat, OpenTable.entry]
  | _ => simpa [closedBy] using hcounted

/-- **A reading preserves what a check has recorded**, also one in error. -/
theorem follow (h : Recorded lines closed s) (hbooked : Booked lines s) (types : TypeTable) (line : Text) :
    Recorded (lines ++ [line])
      (closed ++ s.closedBy (Reading.ofLine types false line s.current.isSome))
      (s.follow (Reading.ofLine types false line s.current.isSome)) where
  tables := h.tables_follow hbooked types line
  counted := h.counted_follow _
  clashes := by
    have hentries : s.entries = recorded (closed.map OpenTable.entry) := congrArg Prod.fst h.counted
    rw [warnings_follow, List.filter_append, h.clashes, filter_isNameClash_warningsAt, hentries,
      List.map_append]
    cases Reading.ofLine types false line s.current.isSome with
    | closes =>
      cases hc : s.current with
      | none => simp [closedBy, hc]
      | some t => simp [closedBy, hc, clashes_concat, filter_isNameClash_closingWarnings]
    | _ => simp [closedBy]

theorem run (types : TypeTable) (lines : List Text) :
    ∃ closed, Recorded lines closed (({} : State).run types lines) := by
  induction lines using List.reverseRecOn with
  | nil => exact ⟨[], initial⟩
  | append_singleton before line ih =>
    obtain ⟨closed, hrecorded⟩ := ih
    have hnext := hrecorded.follow (Booked.run types before) types line
    rw [← next_eq types false] at hnext
    rw [run_append_cons]
    exact ⟨_, hnext⟩

end Recorded
end State

/-- **What a report counts** are the tables closed. -/
theorem check_recorded (types : TypeTable) (lines : List Text) :
    ∃ closed : List OpenTable, closed.map (·.table) = closedTables lines ∧
      (check types lines).entries = recorded (closed.map OpenTable.entry) ∧
      (check types lines).tableCount = closed.length ∧
      (check types lines).columnCount = (closed.map (·.columns)).sum ∧
      (check types lines).warnings.filter (·.isNameClash) = clashes (closedTables lines) := by
  obtain ⟨closed, h⟩ := State.Recorded.run types lines
  have hcounted := h.counted
  simp only [State.counted, Prod.mk.injEq] at hcounted
  obtain ⟨hentries, htables, hcolumns⟩ := hcounted
  have hend : (({} : State).run types lines).endWarnings.filter (·.isNameClash) = [] := by
    unfold State.endWarnings
    cases (({} : State).run types lines).current <;> rfl
  rw [check_eq]
  refine ⟨closed, h.tables, hentries, htables, hcolumns, ?_⟩
  rw [List.filter_append, h.clashes, hend, List.append_nil, h.tables]

/-- The struct names in a report, each of them once. -/
theorem names_of_check (types : TypeTable) (lines : List Text) :
    (check types lines).structs.map (·.1) = ((closedTables lines).map structName).eraseDups := by
  obtain ⟨closed, htables, hentries, -⟩ := check_recorded types lines
  have hnames : (check types lines).structs.map (·.1) = (check types lines).entries.map (·.struct) := by
    rw [structs, List.map_map]
    rfl
  rw [hnames, hentries, map_struct_recorded, List.map_map, ← htables, List.map_map]
  rfl

/-- Without clashes every table keeps its entry, so that the entries have all columns. -/
theorem sum_columns_of_no_clash {types : TypeTable} {lines : List Text}
    (h : (check types lines).warnings.filter (·.isNameClash) = []) :
    ((check types lines).structs.map (·.2)).sum = (check types lines).columnCount := by
  obtain ⟨closed, htables, hentries, -, hcolumns, hclashes⟩ := check_recorded types lines
  have hnames : (closed.map fun t => structName t.table).Nodup := by
    rw [hclashes, clashes_eq_nil_iff, ← htables, List.map_map] at h
    exact h
  have hkept : recorded (closed.map OpenTable.entry) = closed.map OpenTable.entry := by
    refine recorded_of_nodup ?_
    rw [List.map_map]
    exact hnames
  rw [structs, hentries, hkept, hcolumns, List.map_map, List.map_map]
  rfl

end Report

/-! ### Clashes on valid dumps -/

/-- The structs of a dump are those of the tables closed. -/
theorem tables_of_convert {types : TypeTable} {tagged : Bool} {lines : List Text} {structs : List Struct}
    (h : (convert types tagged lines).result = .ok structs) :
    structs.map (·.table) = closedTables lines ∧
      structs.map (·.name) = (closedTables lines).map structName := by
  have hblocks := convert_blocks h
  -- A block is known by its places only; the account that it comes from has the table's name as well.
  have hheaders : ((accounts lines).filterMap Account.block?).map (fun b => lines[b.1]?.bind headerTable?) =
      (closedTables lines).map some := by
    rw [closedTables, List.map_filterMap, List.map_filterMap]
    refine List.filterMap_congr fun a ha => ?_
    rcases hf : a.fate with _ | i | i <;>
      simp [Account.closed?, Account.block?, hf, table_of_mem_accounts ha]
  have htables : structs.map (·.table) = closedTables lines := by
    have heach : List.Forall₂ (· = ·)
        (((accounts lines).filterMap Account.block?).map fun b => lines[b.1]?.bind headerTable?)
        (structs.map fun t => some t.table) := by
      rw [List.forall₂_map_left_iff, List.forall₂_map_right_iff]
      exact hblocks.imp fun _ _ hdeclares => hdeclares.table
    rw [List.forall₂_eq_eq_eq, hheaders] at heach
    refine List.map_injective_iff.2 (fun _ _ => Option.some.inj) ?_
    rw [heach, List.map_map]
    rfl
  have hname : ∀ t ∈ structs, t.name = structName t.table :=
    forall_of_convert (P := fun t => t.name = structName t.table) (fun _ _ _ _ => rfl)
      (fun _ _ _ _ _ ht => ht) h
  refine ⟨htables, ?_⟩
  rw [← htables, List.map_map]
  exact List.map_congr_left hname

/-- **Clashes of struct names.** A check warns of a table closed if and only if a table closed before it has
given the same struct name, and it tells of the last such one. On every dump there are as many of these
warnings as there are tables closed without an entry of their own, and if there are none, the entries have
all columns that are counted. A dump that converts has none if and only if its structs have different
names. -/
theorem name_clash_warnings (types : TypeTable) (tagged : Bool) (lines : List Text) :
    let report := check types lines
    let closed := closedTables lines
    let warned := report.warnings.filter (·.isNameClash)
    warned = (List.range closed.length).filterMap
      (fun k => closed[k]?.bind (Report.clash? (closed.take k))) ∧
    (∀ earlier table w, Report.clash? earlier table = some w ↔
      ∃ before last behind, earlier = before ++ last :: behind ∧ structName last = structName table ∧
        (∀ t ∈ behind, structName t ≠ structName table) ∧
        w = .nameClash table (structName table) last) ∧
    (∀ earlier table, (Report.clash? earlier table).isSome = true ↔
      ∃ t ∈ earlier, structName t = structName table) ∧
    report.tableCount = closed.length ∧
    report.structs.length ≤ report.tableCount ∧
    warned.length = report.tableCount - report.structs.length ∧
    (warned = [] → (report.structs.map (·.2)).sum = report.columnCount) ∧
    (report.isValid = true →
      ∃ structs, (convert types tagged lines).result = .ok structs ∧ structs.map (·.table) = closed ∧
        (warned = [] ↔ (structs.map (·.name)).Nodup)) := by
  intro report closed warned
  obtain ⟨counted, htables, -, hcount, -, hclashes⟩ := Report.check_recorded types lines
  have hwarned : warned = Report.clashes closed := hclashes
  have hcount' : report.tableCount = closed.length := by
    rw [hcount, ← List.length_map (·.table), htables]
  have hlength : warned.length + report.structs.length = report.tableCount := by
    have hentries := congrArg List.length (Report.names_of_check types lines)
    rw [List.length_map] at hentries
    rw [hcount', hwarned, hentries]
    exact Report.length_clashes closed
  refine ⟨hwarned, fun _ _ _ => Report.clash?_eq_some_iff, fun earlier table => ?_, hcount', by omega,
    by omega, Report.sum_columns_of_no_clash, fun hvalid => ?_⟩
  · rw [Report.isSome_clash?, List.mem_map]
  · cases h : (convert types tagged lines).result with
    | ok structs =>
      obtain ⟨hclosed, hnames⟩ := tables_of_convert h
      refine ⟨structs, rfl, hclosed, ?_⟩
      rw [hwarned, Report.clashes_eq_nil_iff, hnames]
    | error e =>
      have hinvalid := (first_error_of_convert h).1
      exact absurd hvalid (by rw [hinvalid]; decide)

end TableStructs
