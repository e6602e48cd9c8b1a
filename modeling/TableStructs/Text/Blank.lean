import TableStructs.Text.Basic

/-!
White space, and trimming it off the ends of a text. Line ends, the separators U+001C to U+001F
and the spaces of Unicode are all white space here.
-/
namespace TableStructs.Text

/-- Whether a code point is white space. -/
def isBlank (c : CodePoint) : Bool :=
  let n := c.toNat
  (0x09 ≤ n && n ≤ 0x0D) || (0x1C ≤ n && n ≤ 0x20) || n == 0x85 || n == 0xA0 || n == 0x1680 ||
    (0x2000 ≤ n && n ≤ 0x200A) || n == 0x2028 || n == 0x2029 || n == 0x202F || n == 0x205F ||
    n == 0x3000

/-! ### Trimming -/

/-- The text without the white space at its start. -/
def trimLeft (s : Text) : Text := s.dropWhile isBlank

/-- The text without the white space at its end. -/
def trimRight (s : Text) : Text := (s.reverse.dropWhile isBlank).reverse

/-- The text without the white space at its ends. -/
def trim (s : Text) : Text := trimRight (trimLeft s)

/-- The text up to its first white space, behind white space at its start. -/
def firstWord (s : Text) : Text := (trimLeft s).takeWhile fun c => !isBlank c

theorem trimLeft_append_of_blank {a : Text} (ha : a.all isBlank = true) (s : Text) :
    trimLeft (a ++ s) = trimLeft s := by
  induction a with
  | nil => rfl
  | cons c a ih =>
    simp only [List.all_cons, Bool.and_eq_true] at ha
    simpa [trimLeft, List.dropWhile_cons, ha.1] using ih ha.2

theorem trimRight_append_of_blank (s : Text) {a : Text} (ha : a.all isBlank = true) :
    trimRight (s ++ a) = trimRight s := by
  have : a.reverse.all isBlank = true := by simpa using ha
  have h := trimLeft_append_of_blank this s.reverse
  simpa [trimRight, trimLeft] using h

theorem trimLeft_subset (s : Text) : trimLeft s ⊆ s := (List.dropWhile_sublist _).subset

theorem trimRight_subset (s : Text) : trimRight s ⊆ s := fun _ h =>
  List.mem_reverse.1 (trimLeft_subset s.reverse (List.mem_reverse.1 h))

theorem trim_subset (s : Text) : trim s ⊆ s := List.Subset.trans (trimRight_subset _) (trimLeft_subset s)

theorem mem_trimLeft {c : CodePoint} {s : Text} (hc : isBlank c = false) (h : c ∈ s) : c ∈ trimLeft s := by
  induction s with
  | nil => cases h
  | cons d s ih =>
    rw [trimLeft, List.dropWhile_cons]
    split
    · next hd =>
      rcases List.mem_cons.1 h with rfl | h
      · rw [hc] at hd
        cases hd
      · exact ih h
    · exact h

/-- Trimming takes nothing but white space. -/
theorem mem_trim {c : CodePoint} {s : Text} (hc : isBlank c = false) (h : c ∈ s) : c ∈ trim s := by
  have hleft : c ∈ (trimLeft s).reverse := List.mem_reverse.2 (mem_trimLeft hc h)
  exact List.mem_reverse.2 (mem_trimLeft hc hleft)

end TableStructs.Text
