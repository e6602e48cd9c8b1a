import TableStructs.Proofs.Accounts
import TableStructs.Proofs.BlockSemantics
import TableStructs.Proofs.Source
import TableStructs.Proofs.TwoTools
import TableStructs.Proofs.Warnings

/-!
No table is lost in silence. Both passes keep books on the accounts of a dump (`Blocks.accounts`). A
conversion notes each table that it opens and each that it gives up, and has a struct for each other
one; a check counts the tables closed and warns of all others. Every reading keeps the books
(`Booked.follow`), so in the end both passes say what has become of every table, and they say the same.
-/
namespace TableStructs

open Blocks

/-! ### What is said of an account -/

namespace Blocks.Account

/-- What a conversion logs when it opens the table. -/
def opening (a : Account) : Log.Record := .notice (.named a.table (structName a.table))

/-- What a conversion logs if the table gives no struct. -/
def loss? (a : Account) : Option Log.Record :=
  match a.fate with
  | some (.closed _) => none
  | some (.discarded i) => some (.notice (.discarded (structName a.table) (i + 1)))
  | none => some (.notice (.dropped a.table))

/-- A table gives a struct, or its loss is logged. -/
theorem length_eq_blocks_losses (accounts : List Account) :
    accounts.length = (accounts.filterMap block?).length + (accounts.filterMap loss?).length := by
  induction accounts with
  | nil => rfl
  | cons a accounts ih =>
    rcases hf : a.fate with _ | i | i <;> simp [block?, loss?, hf, ih] <;> omega

/-- What a check warns of if another header has come before the table's terminator. -/
def unterminated? (a : Account) : Option Warning :=
  match a.fate with
  | some (.discarded i) => some (.unterminated (i + 1) a.table)
  | _ => none

/-- What a check warns of if the dump has ended before the table's terminator. -/
def missingEnd? (a : Account) : Option Warning :=
  match a.fate with
  | none => some (.missingEnd a.table)
  | _ => none

/-- A table is counted, or there is a warning about it. -/
theorem length_eq_blocks_warnings (accounts : List Account) :
    accounts.length = (accounts.filterMap block?).length + (accounts.filterMap unterminated?).length +
      (accounts.filterMap missingEnd?).length := by
  induction accounts with
  | nil => rfl
  | cons a accounts ih =>
    rcases hf : a.fate with _ | i | i <;> simp [block?, unterminated?, missingEnd?, hf, ih] <;> omega

end Blocks.Account

/-- Whether the warning is about a header before the terminator of a table. -/
def Warning.isUnterminated : Warning → Bool
  | unterminated .. => true
  | _ => false

/-- Whether the warning is about a dump that ends before the terminator of a table. -/
def Warning.isMissingEnd : Warning → Bool
  | missingEnd _ => true
  | _ => false

/-- The line of the header that came too early. -/
def Warning.unterminatedLine? : Warning → Option Nat
  | unterminated line _ => some line
  | _ => none

/-- The line of the header at which a table was given up. -/
def Log.Record.discardLine? : Log.Record → Option Nat
  | .notice (.discarded _ line) => some line
  | _ => none

/-! ### The books of a conversion -/

namespace Conversion.State
variable {types : TypeTable} {tagged : Bool} {lines : List Text} {s : State}

/-- The notice about an open struct at a header on line `n`. -/
def discardNotices (s : State) (n : Nat) : List Notice := s.current.toList.map fun t => .discarded t.name n

/-- What a conversion notes at a reading. -/
def noticesAt (s : State) : Reading → List Notice
  | .opens table => s.discardNotices (s.line + 1) ++ [.named table (structName table)]
  | .nameless _ => s.discardNotices (s.line + 1)
  | .closes | .adds _ | .faulty _ | .constraint | .nothing => []

theorem notices_discard (s : State) : s.discard.notices = s.notices ++ s.discardNotices s.line := by
  unfold discard discardNotices
  cases s.current <;> simp

theorem endNotices_eq (s : State) : s.endNotices = s.current.toList.map fun t => .dropped t.table := by
  unfold endNotices
  cases s.current <;> rfl

theorem notices_follow (s : State) (r : Reading) : (s.follow r).notices = s.notices ++ s.noticesAt r := by
  have hdiscard : s.advance.discard.notices = s.notices ++ s.discardNotices (s.line + 1) :=
    s.advance.notices_discard
  cases r with
  | opens table => simp [follow, start, hdiscard, noticesAt]
  | nameless e => simp [follow, hdiscard, noticesAt]
  | _ => simp [follow, advance, close, add, noticesAt]

/-- What has been logged about the tables of some lines. -/
structure Booked (lines : List Text) (s : State) : Prop where
  line : s.line = lines.length
  current : s.current.map (fun t => (t.table, t.name)) =
    (openAccount? lines).map fun a => (a.table, structName a.table)
  opened : (s.notices.map Log.Record.notice).filter (·.level = .debug) =
    (accounts lines).map Account.opening
  lost : (s.notices.map Log.Record.notice).filter (·.level = .warning) =
    (settled lines).filterMap Account.loss?

namespace Booked

theorem initial : Booked [] {} := ⟨rfl, rfl, rfl, rfl⟩

theorem isSome (h : Booked lines s) : s.current.isSome = (openAccount? lines).isSome := by
  simpa using congrArg Option.isSome h.current

/-- What is said of an open struct is said of the open account. -/
theorem map_current {β : Type} (h : Booked lines s) (g : Text → Text → β) :
    s.current.toList.map (fun t => g t.table t.name) =
      (openAccount? lines).toList.map fun a => g a.table (structName a.table) := by
  have hcurrent := congrArg (fun o => o.toList.map fun p => g p.1 p.2) h.current
  simpa only [Option.toList_map, List.map_map, Function.comp_def] using hcurrent

theorem loss_of_discard (h : Booked lines s) :
    ((s.discardNotices (s.line + 1)).map Log.Record.notice).filter (·.level = .warning) =
      (openAccount? lines).toList.filterMap fun a =>
        Account.loss? { a with fate := some (.discarded lines.length) } := by
  have hcurrent := h.map_current fun _ name => Notice.discarded name (s.line + 1)
  rw [discardNotices, hcurrent, h.line]
  cases openAccount? lines <;> rfl

theorem loss_of_end (h : Booked lines s) :
    (s.endNotices.map Log.Record.notice).filter (·.level = .warning) =
      (openAccount? lines).toList.filterMap fun a => Account.loss? { a with fate := none } := by
  have hcurrent := h.map_current fun table _ => Notice.dropped table
  rw [endNotices_eq, hcurrent]
  cases openAccount? lines <;> rfl

/-- **A reading keeps the books** of a conversion. -/
theorem follow (h : Booked lines s) (types : TypeTable) (tagged : Bool) (line : Text) :
    Booked (lines ++ [line]) (s.follow (Reading.ofLine types tagged line s.current.isSome)) where
  line := by rw [line_follow, h.line, List.length_append, List.length_singleton]
  current := by
    rw [current_follow, openAccount?_follow types tagged, h.isSome]
    cases Reading.ofLine types tagged line (openAccount? lines).isSome with
    | opens | nameless | closes => rfl
    | adds f => simpa [Struct.add, Function.comp_def] using h.current
    | _ => exact h.current
  opened := by
    rw [notices_follow, List.map_append, List.filter_append, h.opened, accounts_concat, List.map_append,
      List.map_map, table_of_ofLine types tagged line s.current.isSome]
    congr 1
    cases Reading.ofLine types tagged line s.current.isSome <;> cases s.current <;>
      simp [noticesAt, discardNotices, Log.Record.level, Account.opening]
  lost := by
    rw [notices_follow, List.map_append, List.filter_append, h.lost,
      filterMap_settled_follow Account.loss? types tagged, h.isSome]
    congr 1
    -- A header is the only reading by which a table is lost.
    cases Reading.ofLine types tagged line (openAccount? lines).isSome with
    | opens table =>
      rw [noticesAt, List.map_append, List.filter_append, h.loss_of_discard]
      exact List.append_nil _
    | nameless e => exact h.loss_of_discard
    | closes => exact (List.filterMap_eq_nil_iff.2 fun a _ => rfl).symm
    | _ => rfl

theorem run {t : State} (hrun : ({} : State).run types tagged lines = (t, none)) : Booked lines t := by
  induction lines using List.reverseRecOn generalizing t with
  | nil =>
    cases hrun
    exact initial
  | append_singleton before line ih =>
    obtain ⟨u, hu, hline⟩ := pass_of_run_append hrun
    obtain ⟨-, hnext⟩ := pass_of_run_cons hline
    have hbooked := (ih hu).follow types tagged line
    rwa [show u.follow _ = t from congrArg Prod.fst hnext] at hbooked

end Booked
end Conversion.State

/-! ### The books of a check -/

namespace Report.State
variable {types : TypeTable} {lines : List Text} {s : State}

theorem tableCount_follow (s : State) (r : Reading) :
    (s.follow r).tableCount = s.tableCount + if r = .closes then s.current.toList.length else 0 := by
  have hcounted := congrArg (fun c : List Entry × Nat × Nat => c.2.1) (s.counted_follow r)
  rw [show (s.follow r).tableCount = (s.follow r).counted.2.1 from rfl, hcounted]
  cases r <;> cases s.current <;> rfl

/-- Of the warnings before the end of a dump, all are about a table's name or its columns but those at
headers. -/
theorem filter_warningsAt {p : Warning → Bool} (hname : ∀ table struct, p (.singularName table struct) = false)
    (hcolumns : ∀ table, p (.noColumns table) = false)
    (hclash : ∀ table struct earlier, p (.nameClash table struct earlier) = false) (s : State) (r : Reading) :
    (s.warningsAt r).filter p =
      match r with
      | .opens _ | .nameless _ => (s.leaveWarnings (s.line + 1)).filter p
      | .closes | .adds _ | .faulty _ | .constraint | .nothing => [] := by
  cases r with
  | opens table =>
    have hnames : (nameWarnings table).filter p = [] := by
      unfold nameWarnings
      split <;> simp [hname]
    rw [warningsAt, List.filter_append, hnames, List.append_nil]
  | closes =>
    have hclosing (t : OpenTable) : (closingWarnings s.entries t).filter p = [] := by
      unfold closingWarnings
      rw [List.filter_append, List.append_eq_nil_iff]
      constructor
      · split <;> simp [hcolumns]
      · split <;> simp [hclash]
    rw [warningsAt]
    cases s.current <;> simp [hclosing]
  | _ => rfl

/-- What has been counted and warned of about the tables of some lines. -/
structure Booked (lines : List Text) (s : State) : Prop where
  line : s.line = lines.length
  current : s.table? = (openAccount? lines).map (·.table)
  closed : s.tableCount = ((settled lines).filterMap Account.block?).length
  unterminated : s.warnings.filter (·.isUnterminated) = (settled lines).filterMap Account.unterminated?
  unended : s.warnings.filter (·.isMissingEnd) = []

namespace Booked

theorem initial : Booked [] {} := ⟨rfl, rfl, rfl, rfl, rfl⟩

theorem isSome (h : Booked lines s) : s.current.isSome = (openAccount? lines).isSome := by
  rw [← isSome_table?, h.current, Option.isSome_map]

/-- What is said of an open table is said of the open account. -/
theorem map_current {β : Type} (h : Booked lines s) (g : Text → β) :
    s.current.toList.map (fun t => g t.table) = (openAccount? lines).toList.map fun a => g a.table := by
  have hcurrent := congrArg (fun o => o.toList.map g) h.current
  simpa only [table?, Option.toList_map, List.map_map, Function.comp_def] using hcurrent

theorem unterminated_of_leave (h : Booked lines s) :
    (s.leaveWarnings (s.line + 1)).filter (·.isUnterminated) =
      (openAccount? lines).toList.filterMap fun a =>
        Account.unterminated? { a with fate := some (.discarded lines.length) } := by
  have hcurrent := h.map_current (Warning.unterminated (s.line + 1))
  rw [leaveWarnings, hcurrent, h.line]
  cases openAccount? lines <;> rfl

/-- **A reading keeps the books** of a check, also one in error. -/
theorem follow (h : Booked lines s) (types : TypeTable) (line : Text) :
    Booked (lines ++ [line]) (s.follow (Reading.ofLine types false line s.current.isSome)) where
  line := by rw [line_follow, h.line, List.length_append, List.length_singleton]
  current := by
    rw [table?_follow, openAccount?_follow types false, h.isSome]
    cases Reading.ofLine types false line (openAccount? lines).isSome with
    | opens | nameless | closes => rfl
    | _ => exact h.current
  closed := by
    have hclosed : s.current.toList.length =
        ((openAccount? lines).toList.filterMap fun a =>
          Account.block? { a with fate := some (.closed lines.length) }).length := by
      have hlength := congrArg List.length (h.map_current fun _ => ())
      rw [List.length_map, List.length_map] at hlength
      rw [hlength]
      cases openAccount? lines <;> rfl
    rw [tableCount_follow, h.closed, filterMap_settled_follow Account.block? types false, List.length_append,
      h.isSome]
    congr 1
    cases Reading.ofLine types false line (openAccount? lines).isSome with
    | closes => exact hclosed
    | opens | nameless =>
      exact congrArg List.length (List.filterMap_eq_nil_iff.2 fun a _ => rfl).symm
    | _ => rfl
  unterminated := by
    rw [warnings_follow, List.filter_append, h.unterminated,
      filterMap_settled_follow Account.unterminated? types false, h.isSome,
      filter_warningsAt (fun _ _ => rfl) (fun _ => rfl) (fun _ _ _ => rfl)]
    congr 1
    cases Reading.ofLine types false line (openAccount? lines).isSome with
    | opens | nameless => exact h.unterminated_of_leave
    | closes => exact (List.filterMap_eq_nil_iff.2 fun a _ => rfl).symm
    | _ => rfl
  unended := by
    have hleave : (s.leaveWarnings (s.line + 1)).filter (·.isMissingEnd) = [] := by
      unfold leaveWarnings
      cases s.current <;> rfl
    rw [warnings_follow, List.filter_append, h.unended,
      filter_warningsAt (fun _ _ => rfl) (fun _ => rfl) (fun _ _ _ => rfl), List.nil_append]
    cases Reading.ofLine types false line s.current.isSome with
    | opens | nameless => exact hleave
    | _ => rfl

theorem run (types : TypeTable) (lines : List Text) : Booked lines (({} : State).run types lines) := by
  induction lines using List.reverseRecOn with
  | nil => exact initial
  | append_singleton before line ih =>
    have hbooked := ih.follow types line
    rw [← next_eq types false] at hbooked
    rw [run_append_cons]
    exact hbooked

end Booked
end Report.State

/-! ### The books at the end -/

section
open Conversion
variable {types : TypeTable} {tagged : Bool} {lines : List Text} {structs : List Struct}

/-- What a conversion that reads all lines logs. -/
def Conversion.records (c : Conversion) : List Log.Record := (c.notices ++ c.endNotices).map .notice

theorem convert_records (h : (convert types tagged lines).result = .ok structs) :
    (convert types tagged lines).records.filter (·.level = .debug) = (accounts lines).map Account.opening ∧
      (convert types tagged lines).records.filter (·.level = .warning) =
        (accounts lines).filterMap Account.loss? := by
  obtain ⟨t, ht, -⟩ := convert_ok_iff.1 h
  have hbooked := State.Booked.run ht
  have hrecords : (convert types tagged lines).records = (t.notices ++ t.endNotices).map .notice := by
    rw [records, convert, ht]
  rw [hrecords, List.map_append, List.filter_append, List.filter_append, hbooked.opened, hbooked.lost]
  constructor
  · rw [State.endNotices_eq]
    cases t.current <;> exact List.append_nil _
  · rw [hbooked.loss_of_end, ← filterMap_accounts]

/-- The structs of a dump are those of the tables closed. -/
theorem convert_blocks (h : (convert types tagged lines).result = .ok structs) :
    List.Forall₂ (Declares types tagged lines) ((accounts lines).filterMap Account.block?) structs := by
  obtain ⟨t, ht, rfl⟩ := convert_ok_iff.1 h
  have hreached : Reached types tagged lines t := reached_run ht
  rw [blocks_eq]
  · exact hreached.finished
  · intro line hline hheader
    obtain ⟨i, hi⟩ := List.mem_iff_getElem?.1 hline
    cases htable : headerTable? line with
    | some table => rfl
    | none => exact absurd (.nameless hi hheader htable) (hreached.faultless i _)

theorem check_warnings (types : TypeTable) (lines : List Text) :
    (check types lines).tableCount = ((accounts lines).filterMap Account.block?).length ∧
      (check types lines).warnings.filter (·.isUnterminated) =
        (accounts lines).filterMap Account.unterminated? ∧
      (check types lines).warnings.filter (·.isMissingEnd) =
        (accounts lines).filterMap Account.missingEnd? := by
  have hbooked := Report.State.Booked.run types lines
  have hend := hbooked.map_current Warning.missingEnd
  have hsettled : (settled lines).filterMap Account.missingEnd? = [] := by
    refine List.filterMap_eq_nil_iff.2 fun a ha => ?_
    obtain ⟨f, hf⟩ := Option.isSome_iff_exists.1 (List.mem_filter.1 ha).2
    rw [Account.missingEnd?, hf]
  rw [Report.check_eq, filterMap_block?_accounts, filterMap_accounts, filterMap_accounts, hsettled]
  simp only [List.filter_append, hbooked.closed, hbooked.unterminated, hbooked.unended,
    Report.State.endWarnings, hend]
  refine ⟨trivial, ?_, ?_⟩
  · congr 1
    cases openAccount? lines <;> rfl
  · cases openAccount? lines <;> rfl

/-- The conversion gives up tables at the headers at which the check warns. -/
theorem discardLines_eq (h : (convert types tagged lines).result = .ok structs) :
    (convert types tagged lines).records.filterMap Log.Record.discardLine? =
      (check types lines).warnings.filterMap Warning.unterminatedLine? := by
  have hrecords : (convert types tagged lines).records.filterMap Log.Record.discardLine? =
      ((convert types tagged lines).records.filter (·.level = .warning)).filterMap
        Log.Record.discardLine? := by
    rw [List.filterMap_filter]
    refine List.filterMap_congr fun r _ => ?_
    rcases r with n | _ | _
    · cases n <;> rfl
    · rfl
    · rfl
  have hwarnings : (check types lines).warnings.filterMap Warning.unterminatedLine? =
      ((check types lines).warnings.filter (·.isUnterminated)).filterMap Warning.unterminatedLine? := by
    rw [List.filterMap_filter]
    refine List.filterMap_congr fun w _ => ?_
    cases w <;> rfl
  rw [hrecords, hwarnings, (convert_records h).2, (check_warnings types lines).2.1, List.filterMap_filterMap,
    List.filterMap_filterMap]
  refine List.filterMap_congr fun a _ => ?_
  rcases hf : a.fate with _ | i | i <;>
    simp [Account.loss?, Account.unterminated?, hf, Log.Record.discardLine?, Warning.unterminatedLine?]

/-- Both passes find the dump to end in the same table, or neither does. -/
theorem dropped_iff (h : (convert types tagged lines).result = .ok structs) (table : Text) :
    .notice (.dropped table) ∈ (convert types tagged lines).records ↔
      .missingEnd table ∈ (check types lines).warnings := by
  have hrecord : .notice (.dropped table) ∈ (convert types tagged lines).records ↔
      .notice (.dropped table) ∈ (accounts lines).filterMap Account.loss? := by
    rw [← (convert_records h).2, List.mem_filter]
    simp [Log.Record.level]
  have hwarning : .missingEnd table ∈ (check types lines).warnings ↔
      .missingEnd table ∈ (accounts lines).filterMap Account.missingEnd? := by
    rw [← (check_warnings types lines).2.2, List.mem_filter]
    simp [Warning.isMissingEnd]
  rw [hrecord, hwarning, List.mem_filterMap, List.mem_filterMap]
  refine exists_congr fun a => and_congr_right fun _ => ?_
  rcases hf : a.fate with _ | i | i <;> simp [Account.loss?, Account.missingEnd?, hf]

end

/-- **No table is lost in silence.** There is one account for each header with a name. If a dump converts,
the conversion logs the opening of each of their tables, gives the structs of those closed, and warns of
each other one: of a table given up, with the line of the next header, and of the last one, if the dump
ends in it. On every dump, also on one with errors, a check counts the tables closed and warns of all
others. On a valid dump the warnings of both are about the same lines and the same end. -/
theorem no_table_is_lost (c : Converter) (tagged : Bool) (lines : List Text) :
    let records := (convert c.types tagged lines).records
    let report := check c.types lines
    (accounts lines).map (·.table) = lines.filterMap headerTable? ∧
    (∀ a ∈ accounts lines,
      (a.fate = none → (accounts lines).getLast? = some a) ∧
      ∀ i, a.fate = some (.discarded i) →
        a.place < i ∧ lines[i]?.any isHeader = true ∧
          ∀ k, a.place < k → k < i → lines[k]?.any isMark = false) ∧
    (∀ structs, (convert c.types tagged lines).result = .ok structs →
      (∀ w, (c.structs tagged { lines }).run w = .ok structs { w with log := w.log ++ records }) ∧
      List.Forall₂ (Declares c.types tagged lines) ((accounts lines).filterMap Account.block?) structs ∧
      records.filter (·.level = .debug) = (accounts lines).map Account.opening ∧
      records.filter (·.level = .warning) = (accounts lines).filterMap Account.loss? ∧
      (records.filter (·.level = .debug)).length =
        structs.length + (records.filter (·.level = .warning)).length) ∧
    (report.warnings.filter (·.isUnterminated) = (accounts lines).filterMap Account.unterminated? ∧
      report.warnings.filter (·.isMissingEnd) = (accounts lines).filterMap Account.missingEnd? ∧
      (lines.filterMap headerTable?).length =
        report.tableCount + (report.warnings.filter (·.isUnterminated)).length +
          (report.warnings.filter (·.isMissingEnd)).length) ∧
    (report.isValid = true →
      records.filterMap Log.Record.discardLine? = report.warnings.filterMap Warning.unterminatedLine? ∧
      ∀ table, .notice (.dropped table) ∈ records ↔ .missingEnd table ∈ report.warnings) := by
  intro records report
  obtain ⟨hcount, hunterminated, hmissing⟩ := check_warnings c.types lines
  refine ⟨map_table_accounts lines, fun a ha => ⟨getLast?_accounts ha, fun i hi => ?_⟩,
    fun structs h => ?_, ⟨hunterminated, hmissing, ?_⟩, fun hvalid => ?_⟩
  · rw [fate_of_mem_accounts ha] at hi
    exact next_header_of_discarded hi
  · obtain ⟨hopened, hlost⟩ := convert_records h
    have hblocks := convert_blocks h
    refine ⟨fun w => ?_, hblocks, hopened, hlost, ?_⟩
    · rw [Converter.structs_run h, List.append_assoc, ← List.map_append]
      rfl
    · rw [hopened, hlost, ← hblocks.length_eq, List.length_map]
      exact Account.length_eq_blocks_losses _
  · rw [hcount, hunterminated, hmissing, ← map_table_accounts, List.length_map]
    exact Account.length_eq_blocks_warnings _
  · cases h : (convert c.types tagged lines).result with
    | ok structs => exact ⟨discardLines_eq h, dropped_iff h⟩
    | error e =>
      have hinvalid := (first_error_of_convert h).1
      exact absurd hvalid (by rw [hinvalid]; decide)

end TableStructs
