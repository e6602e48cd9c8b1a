import TableStructs.Text.Quoted

/-!
Character encodings of files, as what they do to texts and bytes. An encoding is data: nothing is
asked of it, not even that it reads back what it has written, since there are encodings that do not.
What a statement needs of an encoding it says itself.

Bytes are read part by part. What a reader keeps between two parts is `Carried`; the encodings that
keep bytes only, and read each part behind them, are made by `Encoding.buffered`.
-/
namespace TableStructs

namespace Encoding

/-! ### Errors -/

/-- The first code points of a text that an encoding cannot write. -/
structure BadText where
  /-- The name of the encoding in messages. -/
  encoding : Text
  /-- The first of them. -/
  first : CodePoint
  /-- Its place in the text. -/
  start : Nat
  /-- How many follow each other there. -/
  count : Nat
  reason : Text
deriving DecidableEq

/-- The first bytes that an encoding cannot read. -/
structure BadBytes where
  /-- The name of the encoding in messages. -/
  encoding : Text
  /-- The first of them. -/
  first : UInt8
  /-- Its place among the bytes read at once. -/
  start : Nat
  /-- How many they are. -/
  count : Nat
  reason : Text
deriving DecidableEq

/-- Places in a message: one of them with what stands there, or the first and the last of several. -/
def placesMessage (shown : Text) (start count : Nat) : Text :=
  if count = 1 then " ".toText ++ shown ++ " in position ".toText ++ Text.decimal start
  else
    "s in position ".toText ++ Text.decimal start ++ "-".toText ++ Text.decimal (start + count - 1)

/-- Why a text cannot be written. -/
inductive EncodeError
  | text (e : BadText)
  /-- The text breaks a rule that is about more than its code points. -/
  | rule (reason : Text)
deriving DecidableEq

/-- What is said about it. -/
def EncodeError.message : EncodeError → Text
  | text e =>
    "'".toText ++ e.encoding ++ "' codec can't encode character".toText ++
      placesMessage ("'".toText ++ Text.escaped e.first ++ "'".toText) e.start e.count ++
      ": ".toText ++ e.reason
  | rule reason => reason

/-- Why bytes cannot be read. -/
inductive DecodeError
  | bytes (e : BadBytes)
  /-- The bytes break a rule that is about more than single places. -/
  | rule (reason : Text)
deriving DecidableEq

/-- What is said about it. -/
def DecodeError.message : DecodeError → Text
  | bytes e =>
    "'".toText ++ e.encoding ++ "' codec can't decode byte".toText ++
      placesMessage ("0x".toText ++ Text.hex 2 e.first.toNat) e.start e.count ++
      ": ".toText ++ e.reason
  | rule reason => reason

/-! ### Encodings -/

/-- What a reader keeps between two parts: the bytes it has not used yet, and a number for all else,
such as the set of characters or the order of bytes that a file has switched to. -/
structure Carried where
  bytes : List UInt8 := []
  mode : Nat := 0
deriving DecidableEq

/-- What has been read: a text, and why there is no more of it, if not for the end of the bytes. -/
structure Decoded where
  text : Text := []
  failure : Option DecodeError := none
deriving DecidableEq

/-- The same behind a text read before. -/
def Decoded.behind (before : Text) (d : Decoded) : Decoded := { d with text := before ++ d.text }

end Encoding

/-- An encoding of texts as bytes. -/
structure Encoding where
  /-- A text as bytes. -/
  encode : Text → Except Encoding.EncodeError (List UInt8)
  /-- The bytes of a file to which a text is written at once. -/
  write : Text → Except Encoding.EncodeError (List UInt8) := encode
  /-- Reads a part of the bytes. -/
  decode : Encoding.Carried → List UInt8 → Except Encoding.DecodeError (Text × Encoding.Carried)
  /-- What is read when no more bytes come. -/
  finish : Encoding.Carried → Encoding.Decoded

namespace Encoding

/-- The encoding whose reader keeps bytes only: `scan` reads as much as it can of the bytes kept and
a part, and gives what it read with the bytes it did not use. -/
def buffered (encode write : Text → Except EncodeError (List UInt8))
    (scan : List UInt8 → Except DecodeError (Text × List UInt8)) (finish : List UInt8 → Decoded) :
    Encoding where
  encode := encode
  write := write
  decode c part := (scan (c.bytes ++ part)).map fun (text, rest) => (text, { bytes := rest })
  finish c := finish c.bytes

/-! ### One byte for each code point -/

/-- One byte for each code point, all of which have to be below `limit`. -/
def encodeBytes (name : Text) (limit : Nat) (s : Text) : Except EncodeError (List UInt8) :=
  match s.dropWhile (·.toNat < limit) with
  | [] => .ok (s.map fun c => UInt8.ofNat c.toNat)
  | c :: rest =>
    .error <| .text
      { encoding := name
        first := c
        start := (s.takeWhile (·.toNat < limit)).length
        count := 1 + (rest.takeWhile (limit ≤ ·.toNat)).length
        reason := "ordinal not in range(".toText ++ Text.decimal limit ++ ")".toText }

/-- One code point for each byte, all of which have to be below `limit`. -/
def decodeBytes (name : Text) (limit : Nat) (bytes : List UInt8) : Except DecodeError Text :=
  match bytes.dropWhile (·.toNat < limit) with
  | [] => .ok (bytes.map fun b => .ofNat b.toNat)
  | b :: _ =>
    .error <| .bytes
      { encoding := name
        first := b
        start := (bytes.takeWhile (·.toNat < limit)).length
        count := 1
        reason := "ordinal not in range(".toText ++ Text.decimal limit ++ ")".toText }

/-- The encoding with one byte for each of the first `limit` code points. -/
def singleByte (name : Text) (limit : Nat) : Encoding where
  encode := encodeBytes name limit
  decode _ bytes := (decodeBytes name limit bytes).map (·, {})
  finish _ := {}

/-- ASCII. -/
def ascii : Encoding := singleByte "ascii".toText 128

/-- Latin-1. -/
def latin1 : Encoding := singleByte "latin-1".toText 256

end Encoding
end TableStructs
