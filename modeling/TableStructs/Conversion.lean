import TableStructs.Struct

/-!
Converting a dump: one pass over its lines that stops at the first line it cannot use.

A header opens a struct, a terminator closes it, a column line adds a field. A header while a
struct is open discards that struct, and one still open at the end of the input is dropped; both
are noted. The pass is a machine on `State`, so that it can be taken up after any lines: `run_append`.
-/
namespace TableStructs.Conversion

/-- What a conversion notes on its way. -/
inductive Notice
  /-- A header opened a struct. -/
  | named (table struct : Text)
  /-- The header on line `line` came before the terminator of an open struct. -/
  | discarded (struct : Text) (line : Nat)
  /-- The input ended before the terminator of an open struct. -/
  | dropped (table : Text)
deriving DecidableEq

/-- A conversion after some lines. -/
structure State where
  /-- The number of lines read. -/
  line : Nat := 0
  /-- The struct whose table is open. -/
  current : Option Struct := none
  /-- The structs closed, in order. -/
  finished : List Struct := []
  /-- What has been noted, in order. -/
  notices : List Notice := []
deriving DecidableEq

namespace State

/-! ### One line -/

/-- Gives up the open struct, if any, at a header. -/
def discard (s : State) : State :=
  match s.current with
  | none => s
  | some struct =>
    { s with current := none, notices := s.notices ++ [.discarded struct.name s.line] }

/-- Opens the struct of a table. -/
def start (s : State) (table : Text) : State :=
  { s with
    current := some (Struct.ofTable table)
    notices := s.notices ++ [.named table (structName table)] }

/-- Closes the open struct. -/
def close (s : State) : State :=
  { s with current := none, finished := s.finished ++ s.current.toList }

/-- Adds a field to the open struct. -/
def add (s : State) (f : Field) : State := { s with current := s.current.map (·.add f) }

/-- Reads a line. On an error the state shows what was noted before it. -/
def next (types : TypeTable) (tagged : Bool) (line : Text) (s : State) :
    State × Option LineError :=
  let s := { s with line := s.line + 1 }
  match LineKind.ofLine line s.current.isSome with
  | .header =>
    match headerTable line (some s.line) with
    | .ok table => (s.discard.start table, none)
    | .error e => (s.discard, some e)
  | .terminator => (s.close, none)
  | .column =>
    match Field.ofLine types tagged line (some s.line) with
    | .ok f => (s.add f, none)
    | .error e => (s, some e)
  | .ignorable => (s, none)

/-! ### All lines -/

/-- Reads lines up to the first error. -/
def run (types : TypeTable) (tagged : Bool) (s : State) : List Text → State × Option LineError
  | [] => (s, none)
  | line :: rest =>
    match s.next types tagged line with
    | (t, none) => t.run types tagged rest
    | (t, some e) => (t, some e)

/-- Lines behind an error are not read; else they are read from the state reached. -/
theorem run_append (types : TypeTable) (tagged : Bool) (s : State) (a b : List Text) :
    s.run types tagged (a ++ b) =
      match s.run types tagged a with
      | (t, none) => t.run types tagged b
      | (t, some e) => (t, some e) := by
  induction a generalizing s with
  | nil => rfl
  | cons line rest ih =>
    simp only [List.cons_append, run]
    rcases s.next types tagged line with ⟨t, _ | e⟩
    · exact ih t
    · rfl

/-- What the end of the input adds: a notice for a struct still open. -/
def endNotices (s : State) : List Notice :=
  match s.current with
  | none => []
  | some struct => [.dropped struct.table]

end State
end Conversion

/-- What became of a conversion. -/
structure Conversion where
  result : Except LineError (List Struct)
  /-- What was noted up to the last line read. -/
  notices : List Conversion.Notice
  /-- What is noted if the input ends there. -/
  endNotices : List Conversion.Notice

/-- Converts the lines of a dump. Fields carry tags if `tagged`. -/
def convert (types : TypeTable) (tagged : Bool) (lines : List Text) : Conversion :=
  match ({} : Conversion.State).run types tagged lines with
  | (s, none) => { result := .ok s.finished, notices := s.notices, endNotices := s.endNotices }
  | (s, some e) => { result := .error e, notices := s.notices, endNotices := [] }

end TableStructs
