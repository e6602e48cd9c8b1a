import TableStructs.Encoding.Basic

/-!
UTF-8, which can write every text without surrogates. It is read byte by byte: a first byte fixes
how many bytes follow and between which bounds the next one lies, so that no code point has two
forms and none is a surrogate. A part may end inside the bytes of a code point; they are carried
over, and places in errors count from the first byte carried over.
-/
namespace TableStructs.Encoding

/-- The name of UTF-8 in messages. -/
def utf8Name : Text := "utf-8".toText

/-! ### Writing -/

/-- The bytes of a code point. A surrogate has none. -/
def utf8Bytes? : CodePoint → Option (List UInt8)
  | .char c => some (String.utf8EncodeChar c)
  | .surrogate _ => none

/-- The bytes of a code point where surrogates stand for the bytes from 0x80 on that are no UTF-8. -/
def keptBytes? : CodePoint → Option (List UInt8)
  | .char c => some (String.utf8EncodeChar c)
  | .surrogate n => if 0x480 ≤ n.val ∧ n.val < 0x500 then some [UInt8.ofNat (n - 0x400)] else none

/-- A text as the bytes of its code points, if all have some. -/
def encodeBy (bytes? : CodePoint → Option (List UInt8)) (s : Text) : Except EncodeError (List UInt8) :=
  match s.dropWhile fun c => (bytes? c).isSome with
  | [] => .ok (s.flatMap fun c => (bytes? c).getD [])
  | c :: rest =>
    .error <| .text
      { encoding := utf8Name
        first := c
        start := (s.takeWhile fun c => (bytes? c).isSome).length
        count := 1 + (rest.takeWhile (·.isSurrogate)).length
        reason := "surrogates not allowed".toText }

/-! ### The bytes of one code point -/

/-- The bytes of a code point that have been read, at least one. -/
structure Sequence where
  first : UInt8
  /-- How many bytes have been read. -/
  length : Nat
  /-- The bits of the code point that they hold. -/
  bits : Nat
  /-- How many bytes follow, at least one. -/
  owed : Nat
  /-- The least and the greatest value of the next one. -/
  low : Nat := 0x80
  high : Nat := 0xBF
deriving DecidableEq

/-- What a part of the bytes may end in. -/
inductive Pending
  /-- All bytes have been used. -/
  | nothing
  /-- The bytes of a code point have begun. -/
  | sequence (s : Sequence)
  /-- Two bytes begin a surrogate, which is no text, but is refused only with what follows. -/
  | surrogate
deriving DecidableEq

namespace Pending

/-- The number of bytes begun. -/
def length : Pending → Nat
  | nothing => 0
  | sequence s => s.length
  | surrogate => 2

/-- What one more byte makes of the bytes begun. -/
inductive Step
  | char (c : Char)
  | more (p : Pending)
  /-- The bytes begun, of which `byte` is the first, are wrong up to `count` of them. -/
  | wrong (byte : UInt8) (count : Nat) (reason : String)
deriving DecidableEq

/-- A first byte. -/
def first (b : UInt8) : Step :=
  let n := b.toNat
  if n ≤ 0x7F then .char (Char.ofNat n)
  else if 0xC2 ≤ n ∧ n ≤ 0xDF then
    .more (.sequence { first := b, length := 1, bits := n - 0xC0, owed := 1 })
  else if n = 0xE0 then
    .more (.sequence { first := b, length := 1, bits := 0, owed := 2, low := 0xA0 })
  else if n = 0xED then
    .more (.sequence { first := b, length := 1, bits := 0xD, owed := 2, high := 0x9F })
  else if 0xE1 ≤ n ∧ n ≤ 0xEF then
    .more (.sequence { first := b, length := 1, bits := n - 0xE0, owed := 2 })
  else if n = 0xF0 then
    .more (.sequence { first := b, length := 1, bits := 0, owed := 3, low := 0x90 })
  else if 0xF1 ≤ n ∧ n ≤ 0xF3 then
    .more (.sequence { first := b, length := 1, bits := n - 0xF0, owed := 3 })
  else if n = 0xF4 then
    .more (.sequence { first := b, length := 1, bits := 4, owed := 3, high := 0x8F })
  else .wrong b 1 "invalid start byte"

/-- A byte behind others of its code point. -/
def proceed (s : Sequence) (b : UInt8) : Step :=
  let n := b.toNat
  if s.low ≤ n ∧ n ≤ s.high then
    let bits := s.bits * 0x40 + (n - 0x80)
    if s.owed ≤ 1 then .char (Char.ofNat bits)
    else .more (.sequence { first := s.first, length := s.length + 1, bits, owed := s.owed - 1 })
  else if s.first = 0xED ∧ s.length = 1 ∧ 0xA0 ≤ n ∧ n ≤ 0xBF then .more .surrogate
  else .wrong s.first s.length "invalid continuation byte"

/-- One more byte. -/
def next (p : Pending) (b : UInt8) : Step :=
  match p with
  | nothing => first b
  | sequence s => proceed s b
  | surrogate => .wrong 0xED 1 "invalid continuation byte"

/-- What is wrong if no more bytes come. -/
def atEnd : Pending → Option DecodeError
  | nothing => none
  | sequence s => some (.bytes ⟨utf8Name, s.first, 0, s.length, "unexpected end of data".toText⟩)
  | surrogate => some (.bytes ⟨utf8Name, 0xED, 0, 1, "invalid continuation byte".toText⟩)

end Pending

/-! ### Reading -/

/-- Reads UTF-8 from place `place` on; `read` is the text so far, its last code point first. -/
def decodeUtf8 (place : Nat) (read : Text) (p : Pending) :
    List UInt8 → Except DecodeError (Text × Pending)
  | [] => .ok (read.reverse, p)
  | b :: rest =>
    match p.next b with
    | .char c => decodeUtf8 (place + 1) (.char c :: read) .nothing rest
    | .more p => decodeUtf8 (place + 1) read p rest
    | .wrong byte count reason =>
      .error (.bytes ⟨utf8Name, byte, place - p.length, count, reason.toText⟩)

/-- Reads as many whole code points as there are, and gives the bytes begun behind them. -/
def scanUtf8 (bytes : List UInt8) : Except DecodeError (Text × List UInt8) :=
  (decodeUtf8 0 [] .nothing bytes).map fun (text, p) => (text, bytes.drop (bytes.length - p.length))

/-- What is read of the bytes begun when no more come. -/
def finishUtf8 (bytes : List UInt8) : Decoded :=
  match decodeUtf8 0 [] .nothing bytes with
  | .ok (text, p) => { text, failure := p.atEnd }
  | .error e => { failure := some e }

/-- UTF-8. -/
def utf8 : Encoding := buffered (encodeBy utf8Bytes?) (encodeBy utf8Bytes?) scanUtf8 finishUtf8

end TableStructs.Encoding
