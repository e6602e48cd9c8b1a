import TableStructs.Encoding.Basic
import TableStructs.Text.Lines

/-!
The lines of a file. Its bytes are read and decoded in parts of `partSize`, so that the lines
completed before a part that cannot be decoded are known, and used, before the failure is.
-/
namespace TableStructs

/-- The lines of an input, as far as it can be read. -/
structure Lines where
  /-- The lines completed. -/
  lines : List Text
  /-- Why there are no more, if not for the end of the input. -/
  failure : Option Encoding.DecodeError := none
deriving DecidableEq

namespace Encoding

/-! ### Parts -/

/-- The number of bytes that are read at once. -/
def partSize : Nat := 8192

/-- The bytes in parts of `partSize`, behind a part begun that has room for `room` more; `begun` is
in reverse order. -/
def partsFrom (begun : List UInt8) (room : Nat) : List UInt8 → List (List UInt8)
  | [] => if begun.isEmpty then [] else [begun.reverse]
  | b :: rest =>
    match room with
    | 0 => begun.reverse :: partsFrom [b] (partSize - 1) rest
    | room + 1 => partsFrom (b :: begun) room rest

/-- The bytes in parts of `partSize`, the last one maybe shorter. -/
def parts (bytes : List UInt8) : List (List UInt8) := partsFrom [] partSize bytes

theorem flatten_partsFrom (begun : List UInt8) (room : Nat) (bytes : List UInt8) :
    (partsFrom begun room bytes).flatten = begun.reverse ++ bytes := by
  induction bytes generalizing begun room with
  | nil => cases begun <;> simp [partsFrom]
  | cons b rest ih => cases room <;> simp [partsFrom, ih]

/-- The parts together are the bytes. -/
theorem flatten_parts (bytes : List UInt8) : (parts bytes).flatten = bytes := by
  simp [parts, flatten_partsFrom]

/-! ### Files -/

/-- Reads parts, up to one that cannot be decoded. -/
def readParts (e : Encoding) (c : Carried) : List (List UInt8) → Decoded
  | [] => e.finish c
  | part :: rest =>
    match e.decode c part with
    | .error failure => { failure := some failure }
    | .ok (text, c) => (e.readParts c rest).behind text

/-- The text that bytes hold if they are read at once, if they hold one. -/
def text? (e : Encoding) (bytes : List UInt8) : Option Text :=
  match e.readParts {} [bytes] with
  | { text, failure := none } => some text
  | _ => none

/-- What is read of a file with the given bytes. -/
def read (e : Encoding) (bytes : List UInt8) : Decoded := e.readParts {} (parts bytes)

/-- The lines of what has been read. A line that a failure cuts off is none. -/
def Decoded.lines (d : Decoded) : Lines :=
  let cut := ({} : Text.Cut).feed .ofFile d.text
  { lines := if d.failure.isSome then cut.lines else (cut.finish .ofFile).lines
    failure := d.failure }

/-- The lines of a file with the given bytes. -/
def fileLines (e : Encoding) (bytes : List UInt8) : Lines := (e.read bytes).lines

end Encoding
end TableStructs
