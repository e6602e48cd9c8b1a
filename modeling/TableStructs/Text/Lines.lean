import TableStructs.Text.Basic

/-!
Cutting a text into lines, one code point at a time. A carriage return is held back until the next
code point shows whether a line feed belongs to it. What else breaks a line, and what is left of
the break at the end of the line, is the `Breaks` of the place: a given text breaks at every line
and paragraph separator and keeps none (`inline`), a file only at line feeds and carriage returns,
each kept as a line feed (`ofFile`).

`feed_append` says that it does not matter in how many parts the text arrives.
-/
namespace TableStructs.Text

/-- Where lines end besides carriage returns, and what a line keeps of its end. -/
structure Breaks where
  breaks : CodePoint → Bool
  kept : Text

namespace Breaks

/-- The line ends of a given text. -/
def inline : Breaks where
  breaks c :=
    let n := c.toNat
    (0x0A ≤ n && n ≤ 0x0C) || (0x1C ≤ n && n ≤ 0x1E) || n == 0x85 || n == 0x2028 || n == 0x2029
  kept := []

/-- The line ends of a file. -/
def ofFile : Breaks where
  breaks c := c == .char '\n'
  kept := [.char '\n']

end Breaks

/-- A text cut as far as it has been read. -/
structure Cut where
  /-- The lines completed, the last one first. -/
  completed : List Text := []
  /-- The line begun, its last code point first. -/
  begun : Text := []
  /-- A carriage return has been read and its line not yet completed. -/
  held : Bool := false
deriving DecidableEq

namespace Cut

/-- Completes the line begun. -/
def complete (b : Breaks) (s : Cut) : Cut :=
  { completed := (s.begun.reverse ++ b.kept) :: s.completed }

/-- Reads a code point where no carriage return is held. -/
def read (b : Breaks) (s : Cut) (c : CodePoint) : Cut :=
  if c = .char '\r' then { s with held := true }
  else if b.breaks c then s.complete b
  else { s with begun := c :: s.begun }

/-- Reads a code point. -/
def next (b : Breaks) (s : Cut) (c : CodePoint) : Cut :=
  if s.held then
    if c = .char '\n' then s.complete b else (s.complete b).read b c
  else s.read b c

/-- Reads a text. -/
def feed (b : Breaks) (s : Cut) (text : Text) : Cut := text.foldl (next b) s

theorem feed_append (b : Breaks) (s : Cut) (x y : Text) :
    s.feed b (x ++ y) = (s.feed b x).feed b y := by
  simp [feed]

/-- Completes what is left at the end: a held break, or a last line without one. -/
def finish (b : Breaks) (s : Cut) : Cut :=
  if s.held then s.complete b
  else if s.begun.isEmpty then s
  else { completed := s.begun.reverse :: s.completed }

/-- The lines completed, in order. -/
def lines (s : Cut) : List Text := s.completed.reverse

end Cut

/-- The lines of a whole text. -/
def lines (b : Breaks) (s : Text) : List Text := ((({} : Cut).feed b s).finish b).lines

end TableStructs.Text
