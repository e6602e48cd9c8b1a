import TableStructs.Conversion
import TableStructs.Report

/-!
What a line says to a pass. Converting a dump and checking it read each line alike and differ in
what they do about it: a `Reading` is the part they share. It follows from the line and from
whether a table is open, so that a pass is a machine over readings (`follow`), and `next_eq` says
this of both passes. An error in a reading has no line number; the pass that meets it puts in its
own (`LineError.onLine`).
-/
namespace TableStructs

/-! ### Line numbers in errors -/

namespace LineError

/-- The number of the line in error, where it is known. -/
def number? : LineError → Option Int
  | malformed _ number | unmapped _ number => number

/-- The error on line `n`. -/
def onLine (n : Nat) : LineError → LineError
  | malformed line _ => malformed line (some n)
  | unmapped sqlType _ => unmapped sqlType (some n)

/-- The error with its line number increased by `n`. -/
def shift (n : Nat) : LineError → LineError
  | malformed line number => malformed line (number.map (· + n))
  | unmapped sqlType number => unmapped sqlType (number.map (· + n))

@[simp] theorem number?_onLine (e : LineError) (n : Nat) : (e.onLine n).number? = some (n : Int) := by
  cases e <;> rfl

theorem shift_onLine (e : LineError) (k n : Nat) : (e.onLine n).shift k = e.onLine (k + n) := by
  cases e <;> simp [onLine, shift, Int.add_comm]

end LineError

theorem headerTable_number (line : Text) (n : Nat) :
    headerTable line (some n) = (headerTable line none).mapError (·.onLine n) := by
  unfold headerTable
  cases headerTable? line <;> rfl

theorem Column.ofLine_number (line : Text) (n : Nat) :
    Column.ofLine line (some n) = (Column.ofLine line none).mapError (·.onLine n) := by
  unfold Column.ofLine
  cases Column.ofLine? line <;> rfl

theorem TypeTable.map_number (types : TypeTable) (sqlType : Text) (n : Nat) :
    types.map sqlType (some n) = (types.map sqlType none).mapError (·.onLine n) := by
  unfold TypeTable.map
  cases types.goType? sqlType <;> rfl

theorem Field.ofLine_number (types : TypeTable) (tagged : Bool) (line : Text) (n : Nat) :
    Field.ofLine types tagged line (some n) =
      (Field.ofLine types tagged line none).mapError (·.onLine n) := by
  unfold Field.ofLine
  rw [Column.ofLine_number]
  cases Column.ofLine line none with
  | error e => rfl
  | ok column =>
    have hok : (Except.ok column : Except LineError Column).mapError (·.onLine n) = .ok column := rfl
    rw [hok]
    simp only
    rw [TypeTable.map_number]
    cases types.map column.sqlType none <;> rfl

namespace LineKind

theorem ofLine_of_header {line : Text} (h : Text.has headerMark line = true) (inTable : Bool) :
    ofLine line inTable = .header := by
  rw [ofLine, if_pos h]

theorem ofLine_ne_header {line : Text} (h : Text.has headerMark line = false) (inTable : Bool) :
    ofLine line inTable ≠ .header := by
  unfold ofLine
  rw [h]
  cases inTable with
  | false => simp
  | true =>
    simp only [Bool.false_eq_true, if_false, Bool.not_true]
    split
    · simp
    · split <;> simp

end LineKind

/-! ### Readings -/

/-- What a line says, given whether a table is open. -/
inductive Reading
  /-- A header with its table's name. -/
  | opens (table : Text)
  /-- A header without a name. -/
  | nameless (e : LineError)
  /-- The terminator of the open table. -/
  | closes
  /-- A column of the open table. -/
  | adds (f : Field)
  /-- A column line that gives no field. -/
  | faulty (e : LineError)
  /-- A constraint of the open table. -/
  | constraint
  /-- A blank line, or one outside every table. -/
  | nothing
deriving DecidableEq

namespace Reading

/-- The reading of a line. -/
def ofLine (types : TypeTable) (tagged : Bool) (line : Text) (inTable : Bool) : Reading :=
  match LineKind.ofLine line inTable with
  | .header =>
    match headerTable line none with
    | .ok table => opens table
    | .error e => nameless e
  | .terminator => closes
  | .column =>
    match Field.ofLine types tagged line none with
    | .ok f => adds f
    | .error e => faulty e
  | .ignorable => if inTable && !(Text.trim line).isEmpty then constraint else nothing

/-- The error of a line that no conversion can use. -/
def error? : Reading → Option LineError
  | nameless e | faulty e => some e
  | _ => none

/-- A line without any text says nothing. -/
theorem ofLine_blank (types : TypeTable) (tagged inTable : Bool) :
    ofLine types tagged [] inTable = nothing := by
  cases inTable <;> rfl

variable {types : TypeTable} {tagged : Bool} {line : Text} {inTable : Bool}

theorem ofLine_of_header (h : Text.has headerMark line = true) :
    ofLine types tagged line inTable =
      match headerTable line none with
      | .ok table => opens table
      | .error e => nameless e := by
  rw [ofLine, LineKind.ofLine_of_header h]

/-- A header opens a table, or has no name. -/
theorem of_header (h : Text.has headerMark line = true) :
    (∃ table, ofLine types tagged line inTable = opens table) ∨
      ∃ e, ofLine types tagged line inTable = nameless e := by
  rw [ofLine_of_header h]
  cases headerTable line none with
  | ok table => exact .inl ⟨table, rfl⟩
  | error e => exact .inr ⟨e, rfl⟩

/-- A header with a name can be used. -/
theorem error?_of_named (h : Text.has headerMark line = true)
    (hnamed : (headerTable? line).isSome = true) :
    (ofLine types tagged line inTable).error? = none := by
  obtain ⟨table, htable⟩ := Option.isSome_iff_exists.1 hnamed
  rw [ofLine_of_header h, headerTable, htable]
  rfl

/-- A line that opens a table holds the table's name. -/
theorem headerTable?_of_opens {table : Text} (h : ofLine types tagged line inTable = opens table) :
    headerTable? line = some table := by
  unfold ofLine headerTable at h
  split at h
  · cases hname : headerTable? line with
    | none => simp [hname] at h
    | some name => simpa [hname] using h
  · cases h
  · split at h <;> cases h
  · split at h <;> cases h

/-- A line that adds a field is the line of that field. -/
theorem field_of_adds {f : Field} (h : ofLine types tagged line inTable = adds f) :
    Field.ofLine types tagged line none = .ok f := by
  unfold ofLine at h
  split at h
  · split at h <;> cases h
  · cases h
  · split at h
    · next hfield =>
      cases h
      exact hfield
    · cases h
  · split at h <;> cases h

/-- An error comes from a header, or from a column line of an open table. -/
theorem error?_cases {e : LineError} (h : (ofLine types tagged line inTable).error? = some e) :
    Text.has headerMark line = true ∧ ofLine types tagged line inTable = nameless e ∨
      Text.has headerMark line = false ∧ inTable = true ∧
        ofLine types tagged line inTable = faulty e := by
  cases hh : Text.has headerMark line with
  | true =>
    rw [ofLine_of_header hh] at h ⊢
    cases ht : headerTable line none with
    | ok table => simp [ht, error?] at h
    | error e' => simpa [ht, error?] using h
  | false =>
    have hk := LineKind.ofLine_ne_header hh inTable
    unfold ofLine at h ⊢
    cases hkind : LineKind.ofLine line inTable with
    | header => exact absurd hkind hk
    | terminator => simp [hkind, error?] at h
    | column =>
      cases inTable with
      | false => simp [LineKind.ofLine, hh] at hkind
      | true =>
        rw [hkind] at h
        cases hf : Field.ofLine types tagged line none with
        | ok f => simp [hf, error?] at h
        | error e' => simpa [hf, error?] using h
    | ignorable =>
      rw [hkind] at h
      simp only at h
      split at h <;> simp [error?] at h

end Reading

/-! ### Converting -/

namespace Conversion.State

/-- The state with one more line read. -/
def advance (s : State) : State := { s with line := s.line + 1 }

/-- What a conversion does about a reading. -/
def follow (s : State) : Reading → State
  | .opens table => s.advance.discard.start table
  | .nameless _ => s.advance.discard
  | .closes => s.advance.close
  | .adds f => s.advance.add f
  | .faulty _ | .constraint | .nothing => s.advance

theorem next_eq (types : TypeTable) (tagged : Bool) (line : Text) (s : State) :
    s.next types tagged line =
      (s.follow (Reading.ofLine types tagged line s.current.isSome),
        (Reading.ofLine types tagged line s.current.isSome).error?.map (·.onLine (s.line + 1))) := by
  simp only [next, Reading.ofLine, headerTable_number, Field.ofLine_number]
  cases LineKind.ofLine line s.current.isSome with
  | header => cases headerTable line none <;> rfl
  | terminator => rfl
  | column => cases Field.ofLine types tagged line none <;> rfl
  | ignorable =>
    by_cases h : (s.current.isSome && !(Text.trim line).isEmpty) = true
    · simp only [if_pos h]
      rfl
    · simp only [if_neg h]
      rfl

theorem line_discard (s : State) : s.discard.line = s.line := by
  unfold discard
  split <;> rfl

theorem current_discard (s : State) : s.discard.current = none := by
  unfold discard
  split <;> simp [*]

theorem finished_discard (s : State) : s.discard.finished = s.finished := by
  unfold discard
  split <;> rfl

@[simp] theorem line_follow (s : State) (r : Reading) : (s.follow r).line = s.line + 1 := by
  cases r <;> simp [follow, advance, start, close, add, line_discard]

/-- The open struct after a reading. -/
theorem current_follow (s : State) (r : Reading) :
    (s.follow r).current =
      match r with
      | .opens table => some (Struct.ofTable table)
      | .nameless _ | .closes => none
      | .adds f => s.current.map (·.add f)
      | .faulty _ | .constraint | .nothing => s.current := by
  cases r <;> simp [follow, advance, start, close, add, current_discard]

/-- A struct is finished by a terminator and by nothing else. -/
theorem finished_follow (s : State) (r : Reading) :
    (s.follow r).finished = if r = .closes then s.finished ++ s.current.toList else s.finished := by
  cases r <;> simp [follow, advance, start, close, add, finished_discard]

end Conversion.State

/-! ### Checking -/

namespace Report.State

/-- The state with one more line read. -/
def advance (s : State) : State := { s with line := s.line + 1 }

/-- What a check does about a reading. -/
def follow (s : State) : Reading → State
  | .opens table => s.advance.leave.start table
  | .nameless e => s.advance.leave.report (.header (e.onLine (s.line + 1)))
  | .closes =>
    match s.current with
    | none => s.advance
    | some t => s.advance.close t
  | .adds _ => { s.advance with current := s.current.map fun t => { t with columns := t.columns + 1 } }
  | .faulty e =>
    match s.current with
    | none => s.advance
    | some t => s.advance.report (.column t.table (e.onLine (s.line + 1)))
  | .constraint => { s.advance with skipped := s.skipped + 1 }
  | .nothing => s.advance

/-- A check counts a column line if it gives a field. -/
theorem column_eq (types : TypeTable) (tagged : Bool) (line : Text) (s : State) (t : OpenTable) :
    s.column types line t =
      match Field.ofLine types tagged line (some s.line) with
      | .ok _ => { s with current := some { t with columns := t.columns + 1 } }
      | .error e => s.report (.column t.table e) := by
  unfold column Field.ofLine
  cases Column.ofLine line (some s.line) with
  | error e => rfl
  | ok column =>
    simp only
    cases types.map column.sqlType (some s.line) <;> rfl

/-- Whether fields are tagged makes no difference to a check. -/
theorem next_eq (types : TypeTable) (tagged : Bool) (line : Text) (s : State) :
    s.next types line = s.follow (Reading.ofLine types tagged line s.current.isSome) := by
  obtain ⟨n, current, problems, warnings, entries, tableCount, columnCount, skipped⟩ := s
  simp only [next, Reading.ofLine, headerTable_number, column_eq types tagged, Field.ofLine_number]
  cases current with
  | none =>
    simp only [Option.isSome_none, LineKind.ofLine]
    by_cases h : Text.has headerMark line = true
    · simp only [if_pos h]
      cases headerTable line none <;> rfl
    · simp only [if_neg h]
      rfl
  | some t =>
    simp only [Option.isSome_some]
    cases LineKind.ofLine line true with
    | header => cases headerTable line none <;> rfl
    | terminator => rfl
    | column => cases Field.ofLine types tagged line none <;> rfl
    | ignorable =>
      by_cases h : (!(Text.trim line).isEmpty) = true
      · simp only [ignore, Option.isSome_some, Bool.true_and, if_pos h]
        rfl
      · simp only [ignore, Option.isSome_some, Bool.true_and, if_neg h]
        rfl

theorem line_leave (s : State) : s.leave.line = s.line := by
  unfold leave
  split <;> rfl

theorem current_leave (s : State) : s.leave.current = none := by
  unfold leave
  split <;> simp [*]

@[simp] theorem line_follow (s : State) (r : Reading) : (s.follow r).line = s.line + 1 := by
  cases r <;> simp only [follow]
  case closes => split <;> simp [close, warn, advance]
  case faulty => split <;> simp [report, advance]
  all_goals simp [start, warn, report, advance, line_leave]

/-- The open table after a reading. -/
theorem current_follow (s : State) (r : Reading) :
    (s.follow r).current =
      match r with
      | .opens table => some { table }
      | .nameless _ | .closes => none
      | .adds _ => s.current.map fun t => { t with columns := t.columns + 1 }
      | .faulty _ | .constraint | .nothing => s.current := by
  cases r <;> simp only [follow]
  case closes => split <;> simp [*, close, advance]
  case faulty => split <;> simp [report, advance]
  all_goals simp [start, report, advance, current_leave]

/-- What has been counted of closed tables. -/
def counted (s : State) : List Entry × Nat × Nat := (s.entries, s.tableCount, s.columnCount)

theorem counted_leave (s : State) : s.leave.counted = s.counted := by
  unfold leave
  split <;> rfl

/-- A table is counted at its terminator and nowhere else. -/
theorem counted_follow (s : State) (r : Reading) :
    (s.follow r).counted =
      match r, s.current with
      | .closes, some t =>
        (record ⟨structName t.table, t.columns, t.table⟩ s.entries, s.tableCount + 1,
          s.columnCount + t.columns)
      | _, _ => s.counted := by
  cases r with
  | opens table => exact counted_leave s.advance
  | nameless e => exact counted_leave s.advance
  | closes => cases hc : s.current <;> simp [follow, hc] <;> rfl
  | faulty e => cases hc : s.current <;> simp [follow, hc] <;> rfl
  | _ => rfl

end Report.State
end TableStructs
