import TableStructs.Text.Printable

/-!
A text between quotes, as messages show it. Single quotes stand around it, double ones where it
holds a single quote and no double one. A backslash stands before the quote and before itself;
what cannot be shown is escaped, with two, four or eight hexadecimal digits for its code point.
-/
namespace TableStructs.Text

/-- The quote to stand around `s`. -/
def quoteFor (s : Text) : CodePoint := if s.contains '\'' && !s.contains '"' then '"' else '\''

/-- A code point by its number, behind a backslash. -/
def escaped (c : CodePoint) : Text :=
  let n := c.toNat
  if n < 0x100 then .char '\\' :: .char 'x' :: hex 2 n
  else if n < 0x10000 then .char '\\' :: .char 'u' :: hex 4 n
  else .char '\\' :: .char 'U' :: hex 8 n

/-- One code point inside the quotes `quote`. -/
def quotedChar (quote c : CodePoint) : Text :=
  if c = quote || c = .char '\\' then [.char '\\', c]
  else if c = .char '\n' then [.char '\\', .char 'n']
  else if c = .char '\r' then [.char '\\', .char 'r']
  else if c = .char '\t' then [.char '\\', .char 't']
  else if isPrintable c then [c]
  else escaped c

/-- The text between quotes. -/
def quoted (s : Text) : Text :=
  let quote := quoteFor s
  quote :: (s.flatMap (quotedChar quote) ++ [quote])

/-- A text as a string, which cannot hold surrogates: they are escaped. -/
def display (s : Text) : String :=
  String.ofList <| s.flatMap fun
    | .char c => [c]
    | .surrogate n => '\\' :: 'u' :: Nat.toDigits 16 (0xD800 + n)

end TableStructs.Text
