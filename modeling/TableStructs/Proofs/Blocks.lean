import Mathlib.Data.List.Forall2
import TableStructs.Proofs.Reading

/-!
The blocks of a dump, said without a pass over it. Headers and terminators are marks. What another
line is depends on the nearest mark before it: if that is a header the line is inside a table, and
a column or a constraint or blank. A block is a terminator with the header that is the nearest mark
before it.

All of this is said of places in the whole list of lines. What is said of a place needs the lines
before it and, in part, its own, but none behind it (the lemmas on `++`), which is how a pass can
know it in time.
-/
namespace TableStructs.Blocks

/-! ### Marks -/

/-- Whether a line is a header. -/
def isHeader (line : Text) : Bool := Text.has headerMark line

/-- Whether a line is a terminator, wherever it stands. -/
def isTerminator (line : Text) : Bool := Text.trim line = terminatorMark

/-- Whether a line is a header or a terminator. -/
def isMark (line : Text) : Bool := isHeader line || isTerminator line

/-- No line is both: a header has a letter in it. -/
theorem isTerminator_of_header {line : Text} (h : isHeader line = true) :
    isTerminator line = false := by
  have hmark : headerMark <:+: line := Text.has_iff_infix.1 h
  have hletter : .char 'C' ∈ Text.trim line :=
    Text.mem_trim (by decide) (hmark.subset (by decide))
  apply decide_eq_false
  intro htrim
  rw [htrim] at hletter
  exact absurd hletter (by decide)

/-- The place of the nearest header or terminator before place `i`. -/
def nearestMark? (lines : List Text) (i : Nat) : Option Nat :=
  (List.range i).reverse.find? fun j => lines[j]?.any isMark

/-- The place of the header whose table is open at place `i`: the nearest mark, if it is a header. -/
def openHeader? (lines : List Text) (i : Nat) : Option Nat :=
  (nearestMark? lines i).filter fun j => lines[j]?.any isHeader

theorem nearestMark?_succ (lines : List Text) (i : Nat) :
    nearestMark? lines (i + 1) =
      if lines[i]?.any isMark then some i else nearestMark? lines i := by
  rw [nearestMark?, List.range_succ, List.reverse_append, List.reverse_singleton,
    List.singleton_append, List.find?_cons]
  cases lines[i]?.any isMark <;> rfl

theorem openHeader?_succ {lines : List Text} {i : Nat} {line : Text} (h : lines[i]? = some line) :
    openHeader? lines (i + 1) =
      if isHeader line then some i else if isTerminator line then none
      else openHeader? lines i := by
  rw [openHeader?, nearestMark?_succ, h]
  cases hh : isHeader line with
  | true => simp [isMark, hh, h]
  | false =>
    cases ht : isTerminator line with
    | true => simp [isMark, hh, ht, h]
    | false => simp [isMark, hh, ht, openHeader?]

theorem openHeader?_append {a : List Text} {i : Nat} (h : i ≤ a.length) (b : List Text) :
    openHeader? (a ++ b) i = openHeader? a i := by
  induction i with
  | zero => rfl
  | succ i ih =>
    have hi : i < a.length := h
    have hline : a[i]? = some a[i] := List.getElem?_eq_getElem hi
    have happ : (a ++ b)[i]? = some a[i] := (List.getElem?_append_left hi).trans hline
    rw [openHeader?_succ hline, openHeader?_succ happ, ih (Nat.le_of_lt hi)]

/-- What one more line does to the open table. -/
theorem openHeader?_concat (lines : List Text) (line : Text) :
    openHeader? (lines ++ [line]) (lines ++ [line]).length =
      if isHeader line then some lines.length else if isTerminator line then none
      else openHeader? lines lines.length := by
  rw [List.length_append, List.length_singleton, openHeader?_succ List.getElem?_concat_length,
    openHeader?_append (Nat.le_refl _)]

theorem openHeader?_lt {lines : List Text} {i j : Nat} (h : openHeader? lines i = some j) : j < i := by
  obtain ⟨hj, -⟩ := Option.filter_eq_some_iff.1 h
  have := List.mem_of_find?_eq_some hj
  simpa using this

/-! ### Columns -/

/-- Whether place `i` is inside a table: no mark, behind a header as the nearest mark. -/
def isInside (lines : List Text) (i : Nat) : Bool :=
  (openHeader? lines i).isSome && lines[i]?.any (!isMark ·)

/-- Whether place `i` is a column line: inside a table, not blank, and no constraint. -/
def isColumn (lines : List Text) (i : Nat) : Bool :=
  isInside lines i &&
    lines[i]?.any fun line => !(Text.trim line).isEmpty && Text.firstWord line ≠ constraintWord

/-- The places of the column lines between two places. -/
def columnsBetween (lines : List Text) (j i : Nat) : List Nat :=
  (List.range i).filter fun k => j < k && isColumn lines k

theorem isColumn_append {a : List Text} {i : Nat} (h : i < a.length) (b : List Text) :
    isColumn (a ++ b) i = isColumn a i := by
  rw [isColumn, isInside, openHeader?_append (Nat.le_of_lt h), List.getElem?_append_left h]
  rfl

theorem columnsBetween_append {a : List Text} {i : Nat} (h : i ≤ a.length) (b : List Text) (j : Nat) :
    columnsBetween (a ++ b) j i = columnsBetween a j i := by
  apply List.filter_congr
  intro k hk
  have hk' : k < a.length := Nat.lt_of_lt_of_le (List.mem_range.1 hk) h
  rw [isColumn_append hk']

theorem columnsBetween_succ {lines : List Text} {j i : Nat} (h : j < i) :
    columnsBetween lines j (i + 1) =
      columnsBetween lines j i ++ if isColumn lines i then [i] else [] := by
  rw [columnsBetween, List.range_succ, List.filter_append]
  cases hc : isColumn lines i <;> simp [columnsBetween, h, hc]

/-- There is nothing between a header and the place behind it. -/
theorem columnsBetween_self (lines : List Text) (j : Nat) : columnsBetween lines j (j + 1) = [] := by
  apply List.filter_eq_nil_iff.2
  intro k hk
  have : ¬ j < k := by
    have := List.mem_range.1 hk
    omega
  simp [this]

/-! ### Blocks -/

/-- The blocks by the places of their headers and terminators, in the order of the terminators. -/
def blocks (lines : List Text) : List (Nat × Nat) :=
  (List.range lines.length).filterMap fun i =>
    if lines[i]?.any isTerminator then (openHeader? lines i).map (·, i) else none

/-- A block lies in the dump, its header before its terminator. -/
theorem bounds_of_mem_blocks {lines : List Text} {block : Nat × Nat} (h : block ∈ blocks lines) :
    block.1 < block.2 ∧ block.2 < lines.length := by
  obtain ⟨i, hi, hblock⟩ := List.mem_filterMap.1 h
  split at hblock
  · obtain ⟨j, hj, rfl⟩ := Option.map_eq_some_iff.1 hblock
    exact ⟨openHeader?_lt hj, List.mem_range.1 hi⟩
  · cases hblock

/-- A header inside an open table gives it up, and a terminator outside every table ends none. -/
example :
    blocks (["CREATE TABLE a (", "x int", "CREATE TABLE b (", ");", ");"].map String.toText) =
      [(2, 3)] := by
  decide +kernel

theorem blocks_concat (lines : List Text) (line : Text) :
    blocks (lines ++ [line]) =
      blocks lines ++
        if isTerminator line then
          ((openHeader? lines lines.length).map (·, lines.length)).toList
        else [] := by
  have hbefore : ∀ i ∈ List.range lines.length,
      (if (lines ++ [line])[i]?.any isTerminator then (openHeader? (lines ++ [line]) i).map (·, i)
        else none) =
      if lines[i]?.any isTerminator then (openHeader? lines i).map (·, i) else none := by
    intro i hi
    have hi' : i < lines.length := List.mem_range.1 hi
    rw [List.getElem?_append_left hi', openHeader?_append (Nat.le_of_lt hi')]
  rw [blocks, List.length_append, List.length_singleton, List.range_succ, List.filterMap_append,
    List.filterMap_congr hbefore, blocks]
  congr 1
  rw [List.filterMap_cons, List.filterMap_nil, List.getElem?_concat_length, Option.any_some,
    openHeader?_append (Nat.le_refl _)]
  cases isTerminator line with
  | false => rfl
  | true => cases openHeader? lines lines.length <;> rfl

end TableStructs.Blocks
