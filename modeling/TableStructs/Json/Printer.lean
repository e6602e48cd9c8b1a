import TableStructs.Json.Value

/-!
JSON values as text in ASCII. What is not printable ASCII is written by its UTF-16 units.
-/
namespace TableStructs.Json

/-! ### Texts -/

/-- A UTF-16 unit with four hexadecimal digits. -/
def unit (n : Nat) : Text := .char '\\' :: .char 'u' :: Text.hex 4 n

/-- A code point by its UTF-16 units, of which those past the first plane have two. -/
def units (c : CodePoint) : Text :=
  let n := c.toNat
  if n < 0x10000 then unit n
  else unit (0xD800 + (n - 0x10000) / 0x400) ++ unit (0xDC00 + (n - 0x10000) % 0x400)

/-- One code point of a text. -/
def escape (c : CodePoint) : Text :=
  if c = .char '"' || c = .char '\\' then [.char '\\', c]
  else if c = .char '\n' then [.char '\\', .char 'n']
  else if c = .char '\r' then [.char '\\', .char 'r']
  else if c = .char '\t' then [.char '\\', .char 't']
  else if c = .char '\x08' then [.char '\\', .char 'b']
  else if c = .char '\x0c' then [.char '\\', .char 'f']
  else if 0x20 ≤ c.toNat && c.toNat ≤ 0x7E then [c]
  else units c

/-- A text between double quotes. -/
def string (s : Text) : Text := .char '"' :: (s.flatMap escape ++ [.char '"'])

/-! ### Values -/

/-- A number with a point or an exponent; the three that are no numbers have names. -/
def number : Double → Text
  | .notANumber => "NaN".toText
  | .infinite negative => if negative then "-Infinity".toText else "Infinity".toText
  | x => x.text

mutual

/-- A value on one line, without spaces between its parts. -/
def print : Value → Text
  | .null => "null".toText
  | .bool b => if b then "true".toText else "false".toText
  | .int n => Text.signed n
  | .real x => number x
  | .str s => string s
  | .arr items => .char '[' :: ([.char ','].intercalate (printItems items) ++ [.char ']'])
  | .obj members => .char '\x7b' :: ([.char ','].intercalate (printMembers members) ++ [.char '\x7d'])

def printItems : List Value → List Text
  | [] => []
  | v :: rest => print v :: printItems rest

def printMembers : Members → List Text
  | [] => []
  | (name, v) :: rest => (string name ++ .char ':' :: print v) :: printMembers rest

end

/-- Counts by name as an object with one member on each line, two spaces before it. -/
def countsBlock (counts : List (Text × Nat)) : Text :=
  if counts.isEmpty then "\x7b\x7d".toText
  else
    "\x7b\n".toText ++
      ",\n".toText.intercalate (counts.map fun (name, n) =>
        [.char ' ', .char ' '] ++ string name ++ [.char ':', .char ' '] ++ Text.decimal n) ++
      "\n\x7d".toText

end TableStructs.Json
