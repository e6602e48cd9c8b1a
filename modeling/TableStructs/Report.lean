import TableStructs.Struct

/-!
Checking a dump: one pass over its lines that reports every line a conversion could not use, where
a conversion stops at the first, and warns of what it would pass over in silence.

A line in error leaves the open table as it is, but a header without a name closes it, and the
lines up to the next header then belong to no table.
-/
namespace TableStructs

/-- A line that a conversion cannot use. -/
inductive Problem
  /-- A header without a table's name. -/
  | header (error : LineError)
  /-- A column line of a table. -/
  | column (table : Text) (error : LineError)
deriving DecidableEq

namespace Problem

/-- What is said about it. -/
def message : Problem → Text
  | header e => e.message
  | column table e => "Table '".toText ++ table ++ "': ".toText ++ e.message

end Problem

/-- What a conversion accepts, though it may not be meant. -/
inductive Warning
  /-- A header on line `line`, before the terminator of an open table. -/
  | unterminated (line : Nat) (table : Text)
  /-- A table name that looks like a singular noun. -/
  | singularName (table struct : Text)
  /-- A table without usable columns. -/
  | noColumns (table : Text)
  /-- A struct name that an earlier table has as well. -/
  | nameClash (table struct earlier : Text)
  /-- The input ended before the terminator of an open table. -/
  | missingEnd (table : Text)
deriving DecidableEq

namespace Warning

/-- What is said about it. -/
def message : Warning → Text
  | unterminated line table =>
    "Line ".toText ++ Text.decimal line ++ ": CREATE TABLE inside unterminated table '".toText ++
      table ++ "'".toText
  | singularName table struct =>
    "Table '".toText ++ table ++
      "': name looks singular but struct will be named '".toText ++ struct ++ "'".toText
  | noColumns table => "Table '".toText ++ table ++ "': No columns defined".toText
  | nameClash table struct earlier =>
    "Table '".toText ++ table ++ "': struct name '".toText ++ struct ++
      "' already generated for table '".toText ++ earlier ++ "'".toText
  | missingEnd table =>
    "Table '".toText ++ table ++ "': missing closing ');' at end of input".toText

end Warning

namespace Report

/-! ### The structs that a dump would give -/

/-- A struct by its name, with what the last table of that name says of it. -/
structure Entry where
  struct : Text
  columns : Nat
  table : Text
deriving DecidableEq

/-- Puts an entry in the place of one for the same struct, or at the end. -/
def record (e : Entry) : List Entry → List Entry
  | [] => [e]
  | d :: rest => if d.struct = e.struct then e :: rest else d :: record e rest

/-! ### The pass -/

/-- An open table. -/
structure OpenTable where
  table : Text
  /-- Its usable columns so far. -/
  columns : Nat := 0
deriving DecidableEq

/-- A check after some lines. -/
structure State where
  /-- The number of lines read. -/
  line : Nat := 0
  current : Option OpenTable := none
  problems : List Problem := []
  warnings : List Warning := []
  entries : List Entry := []
  /-- The number of tables closed. -/
  tableCount : Nat := 0
  /-- The number of usable columns of the tables closed. -/
  columnCount : Nat := 0
  /-- The number of constraint lines inside tables. -/
  skipped : Nat := 0
deriving DecidableEq

namespace State

/-- One more problem. -/
def report (s : State) (p : Problem) : State := { s with problems := s.problems ++ [p] }

/-- More warnings. -/
def warn (s : State) (ws : List Warning) : State := { s with warnings := s.warnings ++ ws }

/-- Leaves the open table, if any, at a header. -/
def leave (s : State) : State :=
  match s.current with
  | none => s
  | some t => { s.warn [.unterminated s.line t.table] with current := none }

/-- Opens a table. -/
def start (s : State) (table : Text) : State :=
  { s.warn (if looksSingular table then [.singularName table (structName table)] else []) with
    current := some { table } }

/-- The warnings about a table at its terminator. -/
def closingWarnings (entries : List Entry) (t : OpenTable) : List Warning :=
  (if t.columns = 0 then [.noColumns t.table] else []) ++
    match entries.find? (·.struct = structName t.table) with
    | some e => [.nameClash t.table (structName t.table) e.table]
    | none => []

/-- Closes the open table. -/
def close (s : State) (t : OpenTable) : State :=
  { s.warn (closingWarnings s.entries t) with
    current := none
    entries := record ⟨structName t.table, t.columns, t.table⟩ s.entries
    tableCount := s.tableCount + 1
    columnCount := s.columnCount + t.columns }

/-- Reads a column line of the open table. -/
def column (types : TypeTable) (line : Text) (s : State) (t : OpenTable) : State :=
  match Column.ofLine line (some s.line) with
  | .error e => s.report (.column t.table e)
  | .ok column =>
    match types.map column.sqlType (some s.line) with
    | .error e => s.report (.column t.table e)
    | .ok _ => { s with current := some { t with columns := t.columns + 1 } }

/-- Reads a line that is no part of a table or a constraint. -/
def ignore (line : Text) (s : State) : State :=
  if s.current.isSome && !(Text.trim line).isEmpty then { s with skipped := s.skipped + 1 } else s

/-- Reads a line. -/
def next (types : TypeTable) (line : Text) (s : State) : State :=
  let s := { s with line := s.line + 1 }
  match LineKind.ofLine line s.current.isSome, s.current with
  | .header, _ =>
    match headerTable line (some s.line) with
    | .ok table => s.leave.start table
    | .error e => s.leave.report (.header e)
  | .terminator, some t => s.close t
  | .column, some t => s.column types line t
  | _, _ => s.ignore line

/-- Reads lines. -/
def run (types : TypeTable) (s : State) (lines : List Text) : State :=
  lines.foldl (fun s line => s.next types line) s

theorem run_append (types : TypeTable) (s : State) (a b : List Text) :
    s.run types (a ++ b) = (s.run types a).run types b := by
  simp [run]

/-- What the end of the input adds: a warning for a table still open. -/
def finish (s : State) : State :=
  match s.current with
  | none => s
  | some t => { s.warn [.missingEnd t.table] with current := none }

end State
end Report

/-! ### The report -/

/-- What a check found. -/
structure Report where
  problems : List Problem
  warnings : List Warning
  tableCount : Nat
  columnCount : Nat
  skipped : Nat
  entries : List Report.Entry
deriving DecidableEq

namespace Report

/-- Whether a conversion would succeed. -/
def isValid (r : Report) : Bool := r.problems.isEmpty

/-- The struct names in order of first appearance, each with its number of columns. -/
def structs (r : Report) : List (Text × Nat) := r.entries.map fun e => (e.struct, e.columns)

/-- The report of a finished check. -/
def ofState (s : State) : Report where
  problems := s.problems
  warnings := s.warnings
  tableCount := s.tableCount
  columnCount := s.columnCount
  skipped := s.skipped
  entries := s.entries

end Report

/-- Checks the lines of a dump. -/
def check (types : TypeTable) (lines : List Text) : Report :=
  Report.ofState ((({} : Report.State).run types lines).finish)

end TableStructs
