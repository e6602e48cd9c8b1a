import TableStructs.Json.Value

/-!
Reading JSON. `parse?` takes a whole text; each reader below it takes what it needs from the front
of a text and gives the rest. Where an object names a member twice, the later value stands in the
earlier place.
-/
namespace TableStructs.Json

/-! ### Texts -/

/-- The value of a hexadecimal digit. -/
def hexDigit? (c : CodePoint) : Option Nat :=
  let n := c.toNat
  if 0x30 ≤ n ∧ n ≤ 0x39 then some (n - 0x30)
  else if 0x61 ≤ n ∧ n ≤ 0x66 then some (n - 0x61 + 10)
  else if 0x41 ≤ n ∧ n ≤ 0x46 then some (n - 0x41 + 10)
  else none

/-- The UTF-16 unit with four given digits. -/
def unit? (a b c d : CodePoint) : Option Nat := do
  let a ← hexDigit? a
  let b ← hexDigit? b
  let c ← hexDigit? c
  let d ← hexDigit? d
  return ((a * 16 + b) * 16 + c) * 16 + d

/-- What a backslash and a letter stand for. -/
def simpleEscape? : CodePoint → Option CodePoint
  | .char '"' => some (.char '"')
  | .char '\\' => some (.char '\\')
  | .char '/' => some (.char '/')
  | .char 'b' => some (.char '\x08')
  | .char 'f' => some (.char '\x0c')
  | .char 'n' => some (.char '\n')
  | .char 'r' => some (.char '\r')
  | .char 't' => some (.char '\t')
  | _ => none

/-- Adds the first unit of a pair whose second one does not follow: a surrogate on its own. -/
def settle (read : Text) (high : Option Nat) : Text :=
  match high with
  | some h => .ofNat h :: read
  | none => read

/-- Adds a unit behind `high`, the first unit of a pair that is open. -/
def addUnit (read : Text) (high : Option Nat) (n : Nat) : Text × Option Nat :=
  if 0xDC00 ≤ n && n < 0xE000 then
    match high with
    | some h => (.ofNat (0x10000 + (h - 0xD800) * 0x400 + (n - 0xDC00)) :: read, none)
    | none => (.ofNat n :: read, none)
  else if 0xD800 ≤ n && n < 0xDC00 then (settle read high, some n)
  else (.ofNat n :: settle read high, none)

/-- Reads a text behind its first quote; `read` holds what has been read, its end first. -/
def readString (read : Text) (high : Option Nat) : Text → Option (Text × Text)
  | [] => none
  | .char '"' :: rest => some ((settle read high).reverse, rest)
  | .char '\\' :: .char 'u' :: a :: b :: c :: d :: rest =>
    match unit? a b c d with
    | none => none
    | some n =>
      let (read, high) := addUnit read high n
      readString read high rest
  | .char '\\' :: c :: rest =>
    match simpleEscape? c with
    | none => none
    | some c => readString (c :: settle read high) none rest
  | c :: rest => readString (c :: settle read high) none rest

/-! ### Numbers -/

/-- Digits as a number. -/
def digitsValue (digits : Text) : Nat := digits.foldl (fun n c => n * 10 + (c.toNat - 48)) 0

/-- Reads the digits at the front. -/
def readDigits (s : Text) : Text × Text := (s.takeWhile CodePoint.isDigit, s.dropWhile CodePoint.isDigit)

/-- Reads the exponent at the front, zero if there is none. -/
def readExponent (s : Text) : Option (Option Int × Text) :=
  match s with
  | c :: rest =>
    if c = .char 'e' || c = .char 'E' then
      let (negative, rest) :=
        match rest with
        | .char '-' :: rest => (true, rest)
        | .char '+' :: rest => (false, rest)
        | rest => (false, rest)
      match readDigits rest with
      | ([], _) => none
      | (digits, rest) =>
        let n : Int := digitsValue digits
        some (some (if negative then -n else n), rest)
    else some (none, s)
  | [] => some (none, [])

/-- Reads a number without its sign. -/
def readNumber (negative : Bool) (s : Text) : Option (Value × Text) :=
  match readDigits s with
  | ([], _) => none
  | (whole, rest) =>
    let (fraction, pointed, rest) :=
      match rest with
      | .char '.' :: rest' =>
        match readDigits rest' with
        | ([], _) => ([], false, rest)
        | (fraction, rest') => (fraction, true, rest')
      | _ => ([], false, rest)
    match readExponent rest with
    | none => none
    | some (exponent, rest) =>
      if !pointed && exponent.isNone then
        let n : Int := digitsValue whole
        some (.int (if negative then -n else n), rest)
      else
        let digits := digitsValue (whole ++ fraction)
        some (.real (.ofDecimal negative digits (exponent.getD 0 - fraction.length)), rest)

/-! ### Values -/

/-- The text behind white space. -/
def skip (s : Text) : Text :=
  s.dropWhile fun c => c == .char ' ' || c == .char '\n' || c == .char '\r' || c == .char '\t'

/-- Reads a word that stands for a value. -/
def readWord (s : Text) : Option (Value × Text) :=
  let words : List (Text × Value) :=
    [("null".toText, .null), ("true".toText, .bool true), ("false".toText, .bool false),
      ("NaN".toText, .real .notANumber), ("Infinity".toText, .real (.infinite false)),
      ("-Infinity".toText, .real (.infinite true))]
  match words.find? fun w => w.1.isPrefixOf s with
  | some (word, v) => some (v, s.drop word.length)
  | none => none

mutual

/-- Reads a value. `fuel` bounds how deep values lie in each other and how many follow. -/
def readValue : (fuel : Nat) → Text → Option (Value × Text)
  | 0, _ => none
  | fuel + 1, s =>
    match skip s with
    | .char '"' :: rest => (readString [] none rest).map fun (s, rest) => (.str s, rest)
    | .char '[' :: rest =>
      match skip rest with
      | .char ']' :: rest => some (.arr [], rest)
      | rest => (readItems fuel rest).map fun (items, rest) => (.arr items, rest)
    | .char '\x7b' :: rest =>
      match skip rest with
      | .char '\x7d' :: rest => some (.obj [], rest)
      | rest => (readMembers fuel [] rest).map fun (members, rest) => (.obj members, rest)
    | .char '-' :: .char 'I' :: rest => readWord (.char '-' :: .char 'I' :: rest)
    | .char '-' :: rest => readNumber true rest
    | c :: rest => if c.isDigit then readNumber false (c :: rest) else readWord (c :: rest)
    | [] => none

/-- Reads the items of an array up to its closing bracket. -/
def readItems : (fuel : Nat) → Text → Option (List Value × Text)
  | 0, _ => none
  | fuel + 1, s =>
    match readValue fuel s with
    | none => none
    | some (v, rest) =>
      match skip rest with
      | .char ',' :: rest => (readItems fuel rest).map fun (items, rest) => (v :: items, rest)
      | .char ']' :: rest => some ([v], rest)
      | _ => none

/-- Reads the members of an object up to its closing brace, behind those already read. -/
def readMembers : (fuel : Nat) → Members → Text → Option (Members × Text)
  | 0, _, _ => none
  | fuel + 1, members, s =>
    match skip s with
    | .char '"' :: rest =>
      match readString [] none rest with
      | none => none
      | some (name, rest) =>
        match skip rest with
        | .char ':' :: rest =>
          match readValue fuel rest with
          | none => none
          | some (v, rest) =>
            match skip rest with
            | .char ',' :: rest => readMembers fuel (put name v members) rest
            | .char '\x7d' :: rest => some (put name v members, rest)
            | _ => none
        | _ => none
    | _ => none

end

/-- The value that a text holds, with nothing but white space around it. -/
def parse? (s : Text) : Option Value :=
  match readValue (s.length + 1) s with
  | some (v, rest) => if (skip rest).isEmpty then some v else none
  | none => none

end TableStructs.Json
