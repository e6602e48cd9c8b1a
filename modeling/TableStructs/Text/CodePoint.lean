/-!
Code points. All but the surrogates are characters; a surrogate is half of a pair in UTF-16, and in
a text it stands for no character. Texts may hold surrogates all the same: JSON can name one by
itself, and a byte of a path or of an environment variable that is no UTF-8 is kept as one.
-/
namespace TableStructs

/-- A code point. -/
inductive CodePoint
  | char (c : Char)
  /-- The surrogate with this place among the surrogates. -/
  | surrogate (n : Fin 0x800)
deriving DecidableEq, Repr, Inhabited

namespace CodePoint

instance : Coe Char CodePoint := ⟨char⟩

/-! ### Numbers -/

/-- The number of a code point. -/
def toNat : CodePoint → Nat
  | char c => c.toNat
  | surrogate n => 0xD800 + n

/-- The code point with a number below `0x110000`. -/
def ofNat (n : Nat) : CodePoint :=
  if h : 0xD800 ≤ n ∧ n < 0xE000 then surrogate ⟨n - 0xD800, by omega⟩ else char (Char.ofNat n)

@[simp] theorem toNat_char (c : Char) : (char c).toNat = c.toNat := rfl

@[simp] theorem toNat_surrogate (n : Fin 0x800) : (surrogate n).toNat = 0xD800 + n := rfl

theorem ofNat_toNat (c : CodePoint) : ofNat c.toNat = c := by
  cases c with
  | char c =>
    have hvalid : ¬ (0xD800 ≤ c.toNat ∧ c.toNat < 0xE000) := by
      have := c.valid
      simp only [UInt32.isValidChar, Nat.isValidChar] at this
      simp only [Char.toNat]
      omega
    rw [toNat_char, ofNat, dif_neg hvalid, Char.ofNat_toNat]
  | surrogate n =>
    have hn : 0xD800 ≤ 0xD800 + n.val ∧ 0xD800 + n.val < 0xE000 := by omega
    rw [toNat_surrogate, ofNat, dif_pos hn]
    simp

theorem toNat_ofNat {n : Nat} (h : n < 0x110000) : (ofNat n).toNat = n := by
  unfold ofNat
  split
  · next hn => simp; omega
  · next hn =>
    have hvalid : n.isValidChar := by
      simp only [Nat.isValidChar]
      omega
    have hchar : Char.ofNat n = Char.ofNatAux n hvalid := dif_pos hvalid
    rw [toNat_char, hchar]
    rfl

theorem toNat_lt (c : CodePoint) : c.toNat < 0x110000 := by
  cases c with
  | char c =>
    have := c.valid
    simp only [UInt32.isValidChar, Nat.isValidChar] at this
    simp only [toNat_char, Char.toNat]
    omega
  | surrogate n =>
    rw [toNat_surrogate]
    omega

/-- Whether a code point is a surrogate. -/
def isSurrogate : CodePoint → Bool
  | char _ => false
  | surrogate _ => true

theorem isSurrogate_iff (c : CodePoint) : c.isSurrogate = true ↔ 0xD800 ≤ c.toNat ∧ c.toNat < 0xE000 := by
  cases c with
  | char c =>
    have := c.valid
    simp only [UInt32.isValidChar, Nat.isValidChar] at this
    simp only [isSurrogate, toNat_char, Char.toNat, Bool.false_eq_true, false_iff]
    omega
  | surrogate n =>
    simp only [isSurrogate, toNat_surrogate, true_iff]
    omega

/-- Whether a code point is a surrogate that begins a pair. -/
def isHigh (c : CodePoint) : Bool := 0xD800 ≤ c.toNat && c.toNat < 0xDC00

/-- Whether a code point is a surrogate that ends a pair. -/
def isLow (c : CodePoint) : Bool := 0xDC00 ≤ c.toNat && c.toNat < 0xE000

theorem isHigh_iff (c : CodePoint) : c.isHigh = true ↔ 0xD800 ≤ c.toNat ∧ c.toNat < 0xDC00 := by
  simp [isHigh]

theorem isLow_iff (c : CodePoint) : c.isLow = true ↔ 0xDC00 ≤ c.toNat ∧ c.toNat < 0xE000 := by
  simp [isLow]

theorem isLow_of_isHigh {c : CodePoint} (h : c.isHigh = true) : c.isLow = false := by
  rw [isHigh_iff] at h
  rw [← Bool.not_eq_true, isLow_iff]
  omega

/-- The character that a pair of surrogates stands for. -/
def ofPair (high low : CodePoint) : CodePoint :=
  ofNat (0x10000 + (high.toNat - 0xD800) * 0x400 + (low.toNat - 0xDC00))

/-! ### Letters and digits of ASCII -/

/-- Whether a code point is one of the digits from 0 to 9. -/
def isDigit (c : CodePoint) : Bool := 0x30 ≤ c.toNat && c.toNat ≤ 0x39

/-- Whether a code point is a capital of ASCII. -/
def isUpper (c : CodePoint) : Bool := 0x41 ≤ c.toNat && c.toNat ≤ 0x5A

/-- Whether a code point is a small letter of ASCII. -/
def isLower (c : CodePoint) : Bool := 0x61 ≤ c.toNat && c.toNat ≤ 0x7A

/-- Whether a code point is a letter or a digit of ASCII. -/
def isAlphanum (c : CodePoint) : Bool := c.isUpper || c.isLower || c.isDigit

/-- A code point with a small letter for a capital of ASCII. -/
def toLower (c : CodePoint) : CodePoint := if c.isUpper then ofNat (c.toNat + 0x20) else c

theorem isDigit_iff {c : CodePoint} : c.isDigit = true ↔ 0x30 ≤ c.toNat ∧ c.toNat ≤ 0x39 := by
  simp [isDigit]

end CodePoint

/-- A text, one element for each code point. -/
abbrev Text := List CodePoint

end TableStructs

/-- The text of a string, which holds no surrogates. -/
def String.toText (s : String) : TableStructs.Text := s.toList.map .char
