import Mathlib.Data.List.Induction
import TableStructs.Proofs.Blocks
import TableStructs.Proofs.NamelessHeader

/-!
What becomes of every table, said without a pass over the lines. A header with a name opens a table. The
first header or terminator behind it settles what becomes of the table; if there is none, the table is
still open at the end of the dump. An account keeps this for one header (`Account`), and a dump has one
account for each of its headers with a name, in their order (`accounts`).

One more line settles at most one account, the last one (`settled_concat`), so that the accounts of some
lines are the settled ones and that of the open table, if there is one (`accounts_eq`).
-/
namespace TableStructs.Blocks

/-! ### Fates -/

/-- What becomes of a table before the dump ends. -/
inductive Fate
  /-- The terminator at place `i` closes it. -/
  | closed (i : Nat)
  /-- The header at place `i` comes before its terminator. -/
  | discarded (i : Nat)
deriving DecidableEq

/-- What a line at place `i` makes of a table that is open there. -/
def Fate.ofLine? (line : Text) (i : Nat) : Option Fate :=
  if isHeader line then some (.discarded i) else if isTerminator line then some (.closed i) else none

/-- The place of the first header or terminator behind place `j`. -/
def nextMark? (lines : List Text) (j : Nat) : Option Nat :=
  (List.range lines.length).find? fun i => j < i && lines[i]?.any isMark

/-- What becomes of a table whose header is at place `j`: what the first mark behind it makes of it. -/
def fate? (lines : List Text) (j : Nat) : Option Fate :=
  (nextMark? lines j).bind fun i => lines[i]?.bind (Fate.ofLine? · i)

/-- A table by its header, with what has become of it. -/
structure Account where
  /-- The place of the header. -/
  place : Nat
  table : Text
  /-- None if the dump ends first. -/
  fate : Option Fate := none
deriving DecidableEq

namespace Account

/-- The account when one more line, at place `i`, has been read. -/
def read (line : Text) (i : Nat) (a : Account) : Account := { a with fate := a.fate.or (Fate.ofLine? line i) }

/-- The places of header and terminator, if the table has been closed. -/
def block? (a : Account) : Option (Nat × Nat) :=
  match a.fate with
  | some (.closed i) => some (a.place, i)
  | _ => none

end Account

/-- The account of the header at a place, if it has a name. -/
def accountAt? (lines : List Text) (j : Nat) : Option Account :=
  (lines[j]?.bind headerTable?).map fun table => { place := j, table, fate := fate? lines j }

/-- The accounts of all headers with a name, in their order. -/
def accounts (lines : List Text) : List Account :=
  (List.range lines.length).filterMap (accountAt? lines)

/-- The accounts of the tables that are open no longer. -/
def settled (lines : List Text) : List Account := (accounts lines).filter (·.fate.isSome)

/-- The account of the table that is open at the end. -/
def openAccount? (lines : List Text) : Option Account :=
  (openHeader? lines lines.length).bind fun j =>
    (lines[j]?.bind headerTable?).map fun table => { place := j, table }

/-- A table closed, one given up at the next header, and one that the dump ends in. -/
example :
    accounts (["CREATE TABLE a (", ");", "CREATE TABLE b (", "CREATE TABLE c ("].map String.toText) =
      [⟨0, "a".toText, some (.closed 1)⟩, ⟨2, "b".toText, some (.discarded 3)⟩, ⟨3, "c".toText, none⟩] := by
  decide +kernel

section
variable {lines : List Text} {line : Text} {j : Nat} {a : Account}

/-! ### One more line -/

theorem headerTable?_eq_none (h : isHeader line = false) : headerTable? line = none :=
  Option.eq_none_iff_forall_ne_some.2 fun _ htable =>
    Bool.false_ne_true (h.symm.trans (hasMark_of_headerTable? htable))

/-- Marks are the lines that make something of an open table. -/
theorem Fate.isSome_ofLine? (line : Text) (i : Nat) : (Fate.ofLine? line i).isSome = isMark line := by
  unfold Fate.ofLine? isMark
  cases isHeader line <;> cases isTerminator line <;> rfl

theorem nextMark?_concat (h : j < lines.length) :
    nextMark? (lines ++ [line]) j =
      (nextMark? lines j).or (if isMark line then some lines.length else none) := by
  have hbefore : ∀ i ∈ List.range lines.length,
      (decide (j < i) && (lines ++ [line])[i]?.any isMark) = (decide (j < i) && lines[i]?.any isMark) := by
    intro i hi
    rw [List.getElem?_append_left (List.mem_range.1 hi)]
  rw [nextMark?, List.length_append, List.length_singleton, List.range_succ, List.find?_append,
    ← List.head?_filter, List.filter_congr hbefore, List.head?_filter, ← nextMark?]
  congr 1
  cases hmark : isMark line <;> simp [h, hmark]

/-- A mark that has been read makes the same of a table, whatever is read behind it. -/
theorem fate?_concat (h : j < lines.length) :
    fate? (lines ++ [line]) j = (fate? lines j).or (Fate.ofLine? line lines.length) := by
  rw [fate?, fate?, nextMark?_concat h]
  cases hnext : nextMark? lines j with
  | none =>
    have hsome := Fate.isSome_ofLine? line lines.length
    cases hmark : isMark line with
    | true => simp
    | false =>
      rw [hmark, Option.isSome_eq_false_iff, Option.isNone_iff_eq_none] at hsome
      simp [hsome]
  | some i =>
    obtain ⟨hmark, hi, -⟩ := List.find?_range_eq_some.1 hnext
    have hi' : i < lines.length := List.mem_range.1 hi
    have hline : lines[i]? = some lines[i] := List.getElem?_eq_getElem hi'
    have hsome : (Fate.ofLine? lines[i] i).isSome = true := by
      rw [Fate.isSome_ofLine?]
      simpa [hline] using (Bool.and_eq_true_iff.1 hmark).2
    obtain ⟨f, hf⟩ := Option.isSome_iff_exists.1 hsome
    rw [Option.some_or, Option.bind_some, Option.bind_some, List.getElem?_append_left hi', hline,
      Option.bind_some, hf, Option.some_or]

/-- Nothing has become yet of the table of a header on the last line. -/
theorem fate?_length (lines : List Text) (line : Text) : fate? (lines ++ [line]) lines.length = none := by
  have hnone : nextMark? (lines ++ [line]) lines.length = none := by
    refine List.find?_eq_none.2 fun i hi => ?_
    have : ¬ lines.length < i := by simpa [Nat.lt_succ_iff] using hi
    simp [this]
  rw [fate?, hnone, Option.bind_none]

/-- A table is given up at the next header, and there is no terminator before that. -/
theorem next_header_of_discarded {i : Nat} (h : fate? lines j = some (.discarded i)) :
    j < i ∧ lines[i]?.any isHeader = true ∧ ∀ k, j < k → k < i → lines[k]?.any isMark = false := by
  obtain ⟨k, hnext, hk⟩ := Option.bind_eq_some_iff.1 h
  obtain ⟨line, hline, hfate⟩ := Option.bind_eq_some_iff.1 hk
  obtain ⟨hmark, -, hbefore⟩ := List.find?_range_eq_some.1 hnext
  have hheader : isHeader line = true ∧ k = i := by
    unfold Fate.ofLine? at hfate
    split at hfate
    · next hheader =>
      cases hfate
      exact ⟨hheader, rfl⟩
    · split at hfate <;> cases hfate
  obtain ⟨hheader, rfl⟩ := hheader
  refine ⟨of_decide_eq_true (Bool.and_eq_true_iff.1 hmark).1, by rw [hline, Option.any_some, hheader], ?_⟩
  intro k' hj hk'
  simpa [hj] using hbefore k' hk'

theorem accounts_concat (lines : List Text) (line : Text) :
    accounts (lines ++ [line]) =
      (accounts lines).map (·.read line lines.length) ++
        ((headerTable? line).map fun table => { place := lines.length, table : Account }).toList := by
  have hbefore : ∀ j ∈ List.range lines.length,
      accountAt? (lines ++ [line]) j = (accountAt? lines j).map (·.read line lines.length) := by
    intro j hj
    have hj' : j < lines.length := List.mem_range.1 hj
    rw [accountAt?, accountAt?, List.getElem?_append_left hj', fate?_concat hj', Option.map_map]
    rfl
  rw [accounts, List.length_append, List.length_singleton, List.range_succ, List.filterMap_append,
    List.filterMap_congr hbefore, accounts, List.map_filterMap]
  congr 1
  rw [List.filterMap_cons, List.filterMap_nil, accountAt?, List.getElem?_concat_length, Option.bind_some,
    fate?_length]
  cases headerTable? line <;> rfl

theorem openAccount?_concat (lines : List Text) (line : Text) :
    openAccount? (lines ++ [line]) =
      if isHeader line then (headerTable? line).map fun table => { place := lines.length, table }
      else if isTerminator line then none else openAccount? lines := by
  rw [openAccount?, openHeader?_concat]
  split
  · rw [Option.bind_some, List.getElem?_concat_length, Option.bind_some]
  split
  · rfl
  · refine Option.bind_congr fun j hj => ?_
    rw [List.getElem?_append_left (openHeader?_lt hj)]

theorem Account.read_of_settled (h : a.fate.isSome = true) (line : Text) (i : Nat) :
    a.read line i = a := by
  obtain ⟨f, hf⟩ := Option.isSome_iff_exists.1 h
  rw [read, hf, Option.some_or, ← hf]

/-- Nothing has become yet of an open table. -/
theorem fate_of_openAccount? (h : openAccount? lines = some a) : a.fate = none := by
  obtain ⟨j, -, hj⟩ := Option.bind_eq_some_iff.1 h
  obtain ⟨table, -, rfl⟩ := Option.map_eq_some_iff.1 hj
  rfl

/-- One more line settles the account of the open table, if any, and may open another one. -/
theorem accounts_concat_of_split (h : accounts lines = settled lines ++ (openAccount? lines).toList)
    (line : Text) :
    accounts (lines ++ [line]) =
      settled lines ++ ((openAccount? lines).map (·.read line lines.length)).toList ++
        ((headerTable? line).map fun table => { place := lines.length, table : Account }).toList := by
  have hsettled : (settled lines).map (·.read line lines.length) = settled lines := by
    refine (List.map_congr_left fun a ha => ?_).trans (List.map_id _)
    exact a.read_of_settled (List.mem_filter.1 ha).2 line lines.length
  rw [accounts_concat, h, List.map_append, hsettled, ← Option.toList_map]

theorem settled_concat_of_split (h : accounts lines = settled lines ++ (openAccount? lines).toList)
    (line : Text) :
    settled (lines ++ [line]) =
      settled lines ++ ((openAccount? lines).bind fun a =>
        (Fate.ofLine? line lines.length).map fun f => { a with fate := some f }).toList := by
  have hsettled : (settled lines).filter (·.fate.isSome) = settled lines :=
    List.filter_eq_self.2 fun a ha => (List.mem_filter.1 ha).2
  have hopened : ((headerTable? line).map fun table => { place := lines.length, table : Account }).toList.filter
      (·.fate.isSome) = [] := by
    cases headerTable? line <;> rfl
  rw [settled, accounts_concat_of_split h, List.filter_append, List.filter_append, hsettled, hopened,
    List.append_nil]
  congr 1
  cases ho : openAccount? lines with
  | none => rfl
  | some a =>
    cases hf : Fate.ofLine? line lines.length <;> simp [Account.read, fate_of_openAccount? ho, hf]

/-- **The accounts** of some lines are the settled ones and that of the open table. -/
theorem accounts_eq (lines : List Text) : accounts lines = settled lines ++ (openAccount? lines).toList := by
  induction lines using List.reverseRecOn with
  | nil => rfl
  | append_singleton lines line ih =>
    rw [accounts_concat_of_split ih, settled_concat_of_split ih, openAccount?_concat, List.append_assoc,
      List.append_assoc]
    congr 1
    -- A mark settles the last account, so it stays in its place; a header puts a new one behind it.
    cases hheader : isHeader line with
    | true =>
      congr 1
      cases ho : openAccount? lines with
      | none => rfl
      | some a => simp [Account.read, fate_of_openAccount? ho, Fate.ofLine?, hheader]
    | false =>
      rw [headerTable?_eq_none hheader]
      cases hterminator : isTerminator line with
      | true =>
        cases ho : openAccount? lines with
        | none => simp
        | some a => simp [Account.read, fate_of_openAccount? ho, Fate.ofLine?, hheader, hterminator]
      | false =>
        have hnone : Fate.ofLine? line lines.length = none := by simp [Fate.ofLine?, hheader, hterminator]
        cases openAccount? lines <;> simp [Account.read, hnone]

/-- What one more line settles: the account of the table that is open there. -/
theorem settled_concat (lines : List Text) (line : Text) :
    settled (lines ++ [line]) =
      settled lines ++ ((openAccount? lines).bind fun a =>
        (Fate.ofLine? line lines.length).map fun f => { a with fate := some f }).toList :=
  settled_concat_of_split (accounts_eq lines) line

/-! ### All headers and all blocks -/

/-- The fate in an account is that of its header. -/
theorem fate_of_mem_accounts (h : a ∈ accounts lines) : a.fate = fate? lines a.place := by
  obtain ⟨j, -, hj⟩ := List.mem_filterMap.1 h
  obtain ⟨table, -, rfl⟩ := Option.map_eq_some_iff.1 hj
  rfl

/-- The table in an account is that of its header. -/
theorem table_of_mem_accounts (h : a ∈ accounts lines) :
    lines[a.place]?.bind headerTable? = some a.table := by
  obtain ⟨j, -, hj⟩ := List.mem_filterMap.1 h
  obtain ⟨table, htable, rfl⟩ := Option.map_eq_some_iff.1 hj
  exact htable

/-- Only the last table of a dump can be open at its end. -/
theorem getLast?_accounts (h : a ∈ accounts lines) (hfate : a.fate = none) :
    (accounts lines).getLast? = some a := by
  rw [accounts_eq] at h ⊢
  rcases List.mem_append.1 h with hsettled | hopen
  · have := (List.mem_filter.1 hsettled).2
    rw [hfate] at this
    cases this
  · rw [Option.mem_toList.1 hopen]
    exact List.getLast?_concat

/-- There is one account for each header with a name. -/
theorem map_table_accounts (lines : List Text) :
    (accounts lines).map (·.table) = lines.filterMap headerTable? := by
  induction lines using List.reverseRecOn with
  | nil => rfl
  | append_singleton lines line ih =>
    rw [accounts_concat, List.map_append, List.map_map, List.filterMap_append, ← ih]
    congr 1
    cases htable : headerTable? line <;> simp [htable]

/-- What is said of all accounts is said of the settled ones, and of the open table. -/
theorem filterMap_accounts {β : Type} (g : Account → Option β) (lines : List Text) :
    (accounts lines).filterMap g =
      (settled lines).filterMap g ++
        (openAccount? lines).toList.filterMap fun a => g { a with fate := none } := by
  have hopen : ∀ a ∈ (openAccount? lines).toList, g a = g { a with fate := none } := fun a ha => by
    rw [← fate_of_openAccount? (Option.mem_toList.1 ha)]
  rw [accounts_eq, List.filterMap_append, List.filterMap_congr hopen]

theorem filterMap_block?_accounts (lines : List Text) :
    (accounts lines).filterMap Account.block? = (settled lines).filterMap Account.block? := by
  rw [filterMap_accounts, List.append_right_eq_self]
  exact List.filterMap_eq_nil_iff.2 fun a _ => rfl

/-- If all headers have names, a table is open at the end if its header is the last mark. -/
theorem place_openAccount? (h : ∀ line ∈ lines, isHeader line = true → (headerTable? line).isSome = true) :
    (openAccount? lines).map (·.place) = openHeader? lines lines.length := by
  rw [openAccount?]
  cases hj : openHeader? lines lines.length with
  | none => rfl
  | some j =>
    obtain ⟨line, hline, hheader⟩ : ∃ line, lines[j]? = some line ∧ isHeader line = true :=
      (Option.any_eq_true _ _).1 (Option.filter_eq_some_iff.1 hj).2
    obtain ⟨table, htable⟩ := Option.isSome_iff_exists.1 (h line (List.mem_of_getElem? hline) hheader)
    simp [hline, htable]

/-- **The tables closed** are those of the blocks, if all headers have names. -/
theorem blocks_eq (h : ∀ line ∈ lines, isHeader line = true → (headerTable? line).isSome = true) :
    (accounts lines).filterMap Account.block? = blocks lines := by
  rw [filterMap_block?_accounts]
  induction lines using List.reverseRecOn with
  | nil => rfl
  | append_singleton lines line ih =>
    have hlines := fun l hl => h l (List.mem_append_left [line] hl)
    rw [settled_concat, blocks_concat, List.filterMap_append, ih hlines, ← place_openAccount? hlines]
    congr 1
    cases openAccount? lines with
    | none => simp
    | some a =>
      cases hterminator : isTerminator line with
      | true =>
        have hheader : isHeader line = false :=
          Bool.eq_false_iff.2 fun hh => by simp [isTerminator_of_header hh] at hterminator
        simp [Fate.ofLine?, hheader, hterminator, Account.block?]
      | false => cases hheader : isHeader line <;> simp [Fate.ofLine?, hheader, hterminator, Account.block?]

end

/-! ### Readings -/

/-- What a reading at place `i` makes of a table that is open there. -/
def Fate.ofReading? (i : Nat) : Reading → Option Fate
  | .opens _ | .nameless _ => some (.discarded i)
  | .closes => some (.closed i)
  | .adds _ | .faulty _ | .constraint | .nothing => none

section
variable {types : TypeTable} {tagged inTable : Bool} {lines : List Text} {line : Text}

/-- A line that is no mark neither opens a table nor closes one. -/
theorem Fate.ofReading?_of_not_mark (hheader : isHeader line = false) (hterminator : isTerminator line = false)
    (types : TypeTable) (tagged : Bool) (i : Nat) :
    Fate.ofReading? i (Reading.ofLine types tagged line true) = none := by
  have hmark : Text.has headerMark line = false := hheader
  have htrim : Text.trim line ≠ terminatorMark := of_decide_eq_false hterminator
  unfold Reading.ofLine
  cases hkind : LineKind.ofLine line true with
  | header => exact absurd hkind (LineKind.ofLine_ne_header hmark true)
  | terminator =>
    simp only [LineKind.ofLine, hmark, htrim, Bool.false_eq_true, if_false, Bool.not_true] at hkind
    split at hkind <;> cases hkind
  | column => cases Field.ofLine types tagged line none <;> rfl
  | ignorable => cases hblank : (Text.trim line).isEmpty <;> simp [Fate.ofReading?]

/-- The reading of a line inside a table tells what the line makes of that table. -/
theorem Fate.ofReading?_ofLine (i : Nat) :
    Fate.ofReading? i (Reading.ofLine types tagged line true) = Fate.ofLine? line i := by
  unfold Fate.ofLine?
  cases hheader : isHeader line with
  | true =>
    have hread : (∃ table, Reading.ofLine types tagged line true = .opens table) ∨
        ∃ e, Reading.ofLine types tagged line true = .nameless e := Reading.of_header hheader
    obtain ⟨table, hr⟩ | ⟨e, hr⟩ := hread <;> rw [hr] <;> rfl
  | false =>
    cases hterminator : isTerminator line with
    | true => rw [Reading.ofLine_terminator hheader hterminator]; rfl
    | false => exact Fate.ofReading?_of_not_mark hheader hterminator types tagged i

/-- A line opens the table that it names. -/
theorem table_of_ofLine (types : TypeTable) (tagged : Bool) (line : Text) (inTable : Bool) :
    headerTable? line =
      match Reading.ofLine types tagged line inTable with
      | .opens table => some table
      | _ => none := by
  cases hheader : isHeader line with
  | true =>
    rw [Reading.ofLine_of_header hheader, headerTable]
    cases headerTable? line <;> rfl
  | false =>
    rw [headerTable?_eq_none hheader]
    cases hr : Reading.ofLine types tagged line inTable with
    | opens table =>
      have htable := Reading.headerTable?_of_opens hr
      rw [headerTable?_eq_none hheader] at htable
      cases htable
    | _ => rfl

/-- What a reading settles. -/
theorem settled_follow (types : TypeTable) (tagged : Bool) (lines : List Text) (line : Text) :
    settled (lines ++ [line]) =
      settled lines ++ ((openAccount? lines).bind fun a =>
        (Fate.ofReading? lines.length
          (Reading.ofLine types tagged line (openAccount? lines).isSome)).map fun f =>
            { a with fate := some f }).toList := by
  rw [settled_concat]
  cases openAccount? lines with
  | none => rfl
  | some a => rw [Option.isSome_some, Option.bind_some, Option.bind_some, Fate.ofReading?_ofLine]

/-- What a reading adds to anything said of settled accounts. -/
theorem filterMap_settled_follow {β : Type} (g : Account → Option β) (types : TypeTable) (tagged : Bool)
    (lines : List Text) (line : Text) :
    (settled (lines ++ [line])).filterMap g =
      (settled lines).filterMap g ++
        match Reading.ofLine types tagged line (openAccount? lines).isSome with
        | .opens _ | .nameless _ =>
          (openAccount? lines).toList.filterMap fun a => g { a with fate := some (.discarded lines.length) }
        | .closes =>
          (openAccount? lines).toList.filterMap fun a => g { a with fate := some (.closed lines.length) }
        | .adds _ | .faulty _ | .constraint | .nothing => [] := by
  rw [settled_follow types tagged, List.filterMap_append]
  congr 1
  generalize Reading.ofLine types tagged line (openAccount? lines).isSome = r
  cases openAccount? lines <;> cases r <;> rfl

/-- The open table after a reading. -/
theorem openAccount?_follow (types : TypeTable) (tagged : Bool) (lines : List Text) (line : Text) :
    openAccount? (lines ++ [line]) =
      match Reading.ofLine types tagged line (openAccount? lines).isSome with
      | .opens table => some { place := lines.length, table }
      | .nameless _ | .closes => none
      | .adds _ | .faulty _ | .constraint | .nothing => openAccount? lines := by
  rw [openAccount?_concat]
  cases hheader : isHeader line with
  | true =>
    rw [Reading.ofLine_of_header hheader, headerTable]
    cases headerTable? line <;> rfl
  | false =>
    cases ho : openAccount? lines with
    | none =>
      rw [Option.isSome_none, Reading.ofLine_outside hheader]
      simp
    | some a =>
      rw [Option.isSome_some]
      cases hterminator : isTerminator line with
      | true => rw [Reading.ofLine_terminator hheader hterminator]; rfl
      | false =>
        have hfate := Fate.ofReading?_of_not_mark hheader hterminator types tagged 0
        generalize Reading.ofLine types tagged line true = r at hfate ⊢
        cases r with
        | opens | nameless | closes => cases hfate
        | _ => rfl

end
end TableStructs.Blocks
