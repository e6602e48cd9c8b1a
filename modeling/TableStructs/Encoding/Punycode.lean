import TableStructs.Encoding.Basic
import TableStructs.Text.Upper

/-!
Punycode (RFC 3492), which writes every text in ASCII: first its code points below 0x80, with a hyphen
behind them if there are any, then the others in the order of their numbers, each by the number of
steps that lead to it from the one before. A step goes to the next place in the text, and from the
last place to the first place of the next code point. A number has digits to the base 36, of which
the lowest come first and one below its `threshold` is the last.

A reader takes each part of a file for a whole text, so that only a file of one part is read as it
was written.
-/
namespace TableStructs.Encoding.Punycode

/-! ### Numbers -/

/-- The digit at place `place` below which a number ends. -/
def threshold (place bias : Nat) : Nat := min 26 (max 1 (36 * (place + 1) - bias))

theorem threshold_pos (place bias : Nat) : 0 < threshold place bias := by
  unfold threshold
  omega

/-- The steps divided until few are left, with the bias that this takes. -/
def shrink (steps bias : Nat) : Nat × Nat :=
  if 455 < steps then shrink (steps / 35) (bias + 36) else (steps, bias)
termination_by steps
decreasing_by exact Nat.div_lt_self (by omega) (by decide)

/-- The bias for the next number, behind `steps` steps that led to one of `count` code points. -/
def adapt (steps : Nat) (first : Bool) (count : Nat) : Nat :=
  let steps := if first then steps / 700 else steps / 2
  let (steps, bias) := shrink (steps + steps / count) 0
  bias + 36 * steps / (steps + 38)

/-! ### Writing -/

/-- The letter or the decimal digit for a digit. -/
def digit (d : Nat) : UInt8 := UInt8.ofNat (if d < 26 then 0x61 + d else 0x30 + (d - 26))

/-- The digits of a number from place `place` on. -/
def number (bias place n : Nat) : List UInt8 :=
  let t := threshold place bias
  if n < t then [digit n]
  else digit (t + (n - t) % (36 - t)) :: number bias (place + 1) ((n - t) / (36 - t))
termination_by n
decreasing_by
  have hpos := threshold_pos place bias
  have hle := Nat.div_le_self (n - threshold place bias) (36 - threshold place bias)
  omega

/-- What has been written, with the steps since the last code point. -/
structure Writer where
  bytes : List UInt8 := []
  steps : Nat := 0
  bias : Nat := 72
  /-- How many code points have been written. -/
  count : Nat

namespace Writer

/-- Goes past a code point of the text on the way to those with the number `n`. -/
def pass (base n : Nat) (w : Writer) (c : CodePoint) : Writer :=
  if c.toNat < n then { w with steps := w.steps + 1 }
  else if c.toNat = n then
    { bytes := w.bytes ++ number w.bias 0 w.steps
      steps := 0
      bias := adapt w.steps (w.count == base) (w.count + 1)
      count := w.count + 1 }
  else w

/-- Writes the code points of `s` with the given numbers, which are in increasing order and not
below `least`. -/
def points (base : Nat) (s : Text) (least : Nat) (w : Writer) : List Nat → Writer
  | [] => w
  | n :: rest =>
    let w := { w with steps := w.steps + (n - least) * (w.count + 1) }
    let w := s.foldl (pass base n) w
    points base s (n + 1) { w with steps := w.steps + 1 } rest

end Writer

/-- A text in Punycode. -/
def encode (s : Text) : List UInt8 :=
  let base := s.filter (·.toNat < 0x80)
  let others := ((s.map (·.toNat)).filter (0x80 ≤ ·)).eraseDups.mergeSort
  let hyphen := if base.isEmpty then [] else [0x2D]
  base.map (fun c => UInt8.ofNat c.toNat) ++ hyphen ++
    (Writer.points base.length s 0x80 { count := base.length } others).bytes

/-! ### Reading -/

/-- The digit for a capital letter or a decimal digit. -/
def digit? (c : CodePoint) : Option Nat :=
  let n := c.toNat
  if 0x41 ≤ n ∧ n ≤ 0x5A then some (n - 0x41)
  else if 0x30 ≤ n ∧ n ≤ 0x39 then some (n - 0x30 + 26)
  else none

/-- Reads a number from place `place` on, where digits have the given weight. -/
def readNumber (bias place weight read : Nat) : Text → Except DecodeError (Nat × Text)
  | [] => .error (.rule "incomplete punicode string".toText)
  | c :: rest =>
    match digit? c with
    | none => .error (.rule ("Invalid extended code point '".toText ++ [c] ++ "'".toText))
    | some d =>
      let t := threshold place bias
      if d < t then .ok (read + d * weight, rest)
      else readNumber bias (place + 1) (weight * (36 - t)) (read + d * weight) rest

theorem length_of_readNumber {bias place weight read n : Nat} {s rest : Text}
    (h : readNumber bias place weight read s = .ok (n, rest)) : rest.length < s.length := by
  induction s generalizing place weight read with
  | nil => cases h
  | cons c s ih =>
    rw [readNumber] at h
    split at h
    · cases h
    · simp only at h
      split at h
      · cases h
        exact Nat.lt_succ_self _
      · exact Nat.lt_succ_of_lt (ih h)

/-- Puts the code points that `s` tells of into `text`; the first of them is reached from code point
`least` before the place `place`. -/
def insertAll (text : Text) (least place bias : Nat) (first : Bool) (s : Text) :
    Except DecodeError Text :=
  match s with
  | [] => .ok text
  | c :: rest =>
    match h : readNumber bias 0 1 0 (c :: rest) with
    | .error e => .error e
    | .ok (steps, rest) =>
      let n := least + (place + steps) / (text.length + 1)
      if 0x10FFFF < n then .error (.rule ("Invalid character U+".toText ++ Text.hex 0 n))
      else
        let place := (place + steps) % (text.length + 1)
        let text := text.insertIdx place (.ofNat n)
        insertAll text n (place + 1) (adapt steps first text.length) false rest
termination_by s.length
decreasing_by exact length_of_readNumber h

/-- The bytes before and behind the last hyphen; all are behind it where there is none. -/
def cut (bytes : List UInt8) : List UInt8 × List UInt8 :=
  match bytes.reverse.span (· != 0x2D) with
  | (behind, []) => ([], behind.reverse)
  | (behind, _ :: before) => (before.reverse, behind.reverse)

/-- The text that bytes hold. -/
def decode (bytes : List UInt8) : Except DecodeError Text :=
  match decodeBytes "ascii".toText 128 (cut bytes).1, decodeBytes "ascii".toText 128 (cut bytes).2 with
  | .error e, _ => .error e
  | .ok _, .error e => .error e
  | .ok text, .ok others => insertAll text 0x80 0 72 true (Text.upperAll others)

end Punycode

/-- Punycode. -/
def punycode : Encoding where
  encode s := .ok (Punycode.encode s)
  decode _ bytes := (Punycode.decode bytes).map (·, {})
  finish _ := {}

end TableStructs.Encoding
