import TableStructs.Proofs.Agreement
import TableStructs.Proofs.ColumnLine
import TableStructs.Proofs.Layout

/-!
Dumps as they are printed. A dump is a list of tables with other lines between them; a table is a
header, its columns, each on a line of its own, with blank lines and constraints among them, and a
terminator. Names, types and what is said behind them are as free as the format allows, and what a
part of a dump has to be so that it can be told from its surroundings is a field of its type.

`convert_printed` says that such a dump converts to its tables, as long as no line but the headers
holds the mark of a header.
-/
namespace TableStructs

namespace Printed

/-! ### What is printed -/

/-- A column: white space, its name, a space, its type, maybe a comma, and maybe more behind a
further space. A constraint has the same look, but for its first word. -/
structure Column (types : TypeTable) where
  indent : Text
  name : Word
  sqlType : Word
  comma : Bool
  more : Option Text
  goType : Text
  indent_blank : indent.all Text.isBlank = true
  name_ne : name.text ≠ constraintWord
  sqlType_end : sqlType.text.getLast? ≠ some (.char ',')
  mapped : types.goType? sqlType.text = some goType

/-- A line inside a table that is no column: blank, or a constraint. -/
structure Filler where
  line : Text
  blank_or_constraint : line.all Text.isBlank = true ∨ Text.firstWord line = constraintWord

/-- A line between a header and its terminator. -/
inductive TableLine (types : TypeTable)
  | column (c : Column types)
  | filler (f : Filler)

/-- A table. Its name stands behind the last dot of the header, and white space around it is lost. -/
structure Table (types : TypeTable) where
  schema : Option Text
  name : Text
  body : List (TableLine types)
  name_ne_nil : name ≠ []
  no_dot : .char '.' ∉ name
  solid_start : ∀ c ∈ name.head?, Text.isBlank c = false
  solid_end : ∀ c ∈ name.getLast?, Text.isBlank c = false

/-- A part of a dump. -/
inductive Part (types : TypeTable)
  | table (t : Table types)
  /-- A line outside every table. -/
  | between (line : Text)

variable {types : TypeTable}

/-! ### Printing -/

namespace Column

/-- The column's type, with its comma. -/
def typeText (c : Column types) : Text := c.sqlType.text ++ if c.comma then [.char ','] else []

/-- What stands behind the type. -/
def moreText (c : Column types) : Text := c.more.elim [] (.char ' ' :: ·)

/-- The line of a column. -/
def line (c : Column types) : Text :=
  c.indent ++ (c.name.text ++ .char ' ' :: (c.typeText ++ c.moreText))

/-- The field that a column becomes. -/
def field (tagged : Bool) (c : Column types) : Field where
  name := camelCase c.name.text
  goType := c.goType
  tag := if tagged then some c.name.text else none

end Column

/-- A line of a table. -/
def TableLine.text : TableLine types → Text
  | column c => c.line
  | filler f => f.line

/-- The column of a line, if it is one. -/
def TableLine.column? : TableLine types → Option (Column types)
  | column c => some c
  | filler _ => none

namespace Table

/-- A table's header. -/
def header (t : Table types) : Text :=
  headerMark ++ .char ' ' :: (t.schema.elim [] (· ++ [.char '.']) ++ t.name ++ " (".toText)

/-- The lines of a table behind its header. -/
def rest (t : Table types) : List Text := t.body.map (·.text) ++ [terminatorMark]

/-- The columns of a table. -/
def columns (t : Table types) : List (Column types) := t.body.filterMap (·.column?)

end Table

/-- The lines of a part. -/
def Part.lines : Part types → List Text
  | table t => t.header :: t.rest
  | between line => [line]

/-- The lines of a part that are no headers. -/
def Part.others : Part types → List Text
  | table t => t.rest
  | between line => [line]

/-- The table of a part, if it is one. -/
def Part.table? : Part types → Option (Table types)
  | table t => some t
  | between _ => none

/-- The lines of a dump. -/
def lines (dump : List (Part types)) : List Text := dump.flatMap (·.lines)

/-- The tables of a dump. -/
def tables (dump : List (Part types)) : List (Table types) := dump.filterMap (·.table?)

/-! ### Reading a header -/

/-- What stands before the name in a header, less white space at its start, is nothing or ends in a
dot. -/
theorem Table.trimLeft_header (t : Table types) :
    ∃ before, (before = [] ∨ ∃ a, before = a ++ [.char '.']) ∧
      Text.trimLeft (.char ' ' :: (t.schema.elim [] (· ++ [.char '.']) ++ t.name ++ " (".toText)) =
        before ++ t.name ++ " (".toText := by
  have hname := Text.trimLeft_append_of_solid t.name_ne_nil t.solid_start " (".toText
  rw [show .char ' ' :: (t.schema.elim [] (· ++ [.char '.']) ++ t.name ++ " (".toText) =
    [.char ' '] ++ (t.schema.elim [] (· ++ [.char '.']) ++ t.name ++ " (".toText) from rfl,
    Text.trimLeft_append_of_blank (by decide), List.append_assoc]
  cases t.schema with
  | none => exact ⟨[], .inl rfl, hname⟩
  | some schema =>
    refine ⟨Text.trimLeft schema ++ [.char '.'], .inr ⟨_, rfl⟩, ?_⟩
    simp only [Option.elim_some, List.append_assoc, Text.trimLeft_append schema]
    split
    · next hblank =>
      have hdot : ∀ c ∈ [.char '.'].head?, Text.isBlank c = false := by
        rintro c ⟨⟩
        decide
      rw [Text.trimLeft_eq_nil hblank]
      exact Text.trimLeft_append_of_solid (by simp) hdot _
    · rfl

theorem Table.headerTable_header (t : Table types) : headerTable? t.header = some t.name := by
  have hafter : Text.after? headerMark t.header =
      some (.char ' ' :: (t.schema.elim [] (· ++ [.char '.']) ++ t.name ++ " (".toText)) :=
    Text.after?_eq_some_iff.2 ⟨[], by simp [header], by simp⟩
  obtain ⟨before, hbefore, htrim⟩ := t.trimLeft_header
  have hopen : " (".toText = [.char ' ', .char '('] := rfl
  have hend : Text.trimRight (before ++ t.name ++ " (".toText) = before ++ t.name ++ " (".toText :=
    Text.trimRight_of_solid (by simp [hopen, List.getLast?_append]; decide)
  have hdrop : Text.dropEnd '(' (before ++ t.name ++ " (".toText) = before ++ t.name ++ [.char ' '] := by
    simp [hopen, Text.dropEnd, List.getLast?_append]
  have hname : Text.trimRight (before ++ t.name ++ [.char ' ']) = before ++ t.name := by
    have hsolid : ∀ c ∈ (before ++ t.name).getLast?, Text.isBlank c = false := by
      rw [List.getLast?_append_of_ne_nil _ t.name_ne_nil]
      exact t.solid_end
    rw [Text.trimRight_append_of_blank _ (by decide), Text.trimRight_of_solid hsolid]
  have hlast : Text.afterLast '.' (before ++ t.name) = t.name := by
    rcases hbefore with rfl | ⟨a, rfl⟩
    · exact Text.afterLast_of_not_mem t.no_dot
    · rw [List.append_assoc]
      exact Text.afterLast_append t.no_dot a
  rw [headerTable?, hafter, Option.bind_some, tableName?, Text.trim, htrim, hend, hdrop, hname, hlast,
    if_neg (by simpa using t.name_ne_nil)]

/-! ### Reading a column -/

namespace Column
variable (c : Column types)

/-- The column's line, whatever its type becomes. -/
def toLine : ColumnLine := { c with }

theorem text_toLine : c.toLine.text = c.line := rfl

/-- A column line that holds no header's mark is read as its column. -/
theorem reading_line (tagged : Bool) (h : Text.has headerMark c.line = false) :
    Reading.ofLine types tagged c.line true = .adds (c.field tagged) := by
  have hmapped : types.goType? c.toLine.sqlType.text = some c.goType := c.mapped
  rw [← c.text_toLine] at h ⊢
  rw [c.toLine.reading_text types tagged h, hmapped]
  rfl

end Column

/-! ### Reading what is passed over -/

theorem Filler.reading_line (f : Filler) (types : TypeTable) (tagged : Bool)
    (h : Text.has headerMark f.line = false) :
    Reading.ofLine types tagged f.line true = .constraint ∨
      Reading.ofLine types tagged f.line true = .nothing := by
  have hkind : LineKind.ofLine f.line true = .ignorable := by
    rcases f.blank_or_constraint with hblank | hword
    · have htrim : Text.trim f.line = [] := by rw [Text.trim, Text.trimLeft_eq_nil hblank]; rfl
      simp [LineKind.ofLine, h, htrim, show ([] : Text) ≠ terminatorMark by decide]
    · have hterm : Text.trim f.line ≠ terminatorMark := by
        intro hterm
        have hletter : .char 'C' ∈ Text.firstWord f.line := by
          rw [hword]
          decide
        have hline : .char 'C' ∈ f.line :=
          (List.dropWhile_suffix _).subset ((List.takeWhile_prefix _).subset hletter)
        have htrim := Text.mem_trim (by decide) hline
        rw [hterm] at htrim
        exact absurd htrim (by decide)
      simp [LineKind.ofLine, h, hterm, hword]
  rw [Reading.ofLine, hkind]
  cases (Text.trim f.line).isEmpty <;> simp

/-! ### Reading a dump -/

/-- The struct that a table becomes. -/
def Table.struct (tagged : Bool) (t : Table types) : Struct :=
  (t.columns.map (Column.field tagged)).foldl Struct.add (Struct.ofTable t.name)

section Run
open Conversion
variable (tagged : Bool)

/-- A line between a header and its terminator adds its column, if it is one, to the open struct. -/
theorem follow_line {s : State} {t : Struct} (hs : s.current = some t) {l : TableLine types}
    (h : Text.has headerMark l.text = false) :
    ∃ r, Reading.ofLine types tagged l.text s.current.isSome = r ∧ r.error? = none ∧
      (s.follow r).finished = s.finished ∧
      (s.follow r).current =
        some ((l.column?.toList.map (Column.field tagged)).foldl Struct.add t) := by
  refine ⟨_, rfl, ?_⟩
  rw [hs, Option.isSome_some]
  cases l with
  | column c =>
    rw [TableLine.text, c.reading_line tagged h, State.finished_follow, State.current_follow, hs]
    exact ⟨rfl, rfl, rfl⟩
  | filler f =>
    rw [TableLine.text]
    rcases f.reading_line types tagged h with hr | hr <;>
      rw [hr, State.finished_follow, State.current_follow, hs] <;> exact ⟨rfl, rfl, rfl⟩

theorem run_body {s : State} {t : Struct} (hs : s.current = some t) {body : List (TableLine types)}
    (h : ∀ l ∈ body, Text.has headerMark l.text = false) :
    ∃ s', s.run types tagged (body.map (·.text)) = (s', none) ∧ s'.finished = s.finished ∧
      s'.current =
        some (((body.filterMap (·.column?)).map (Column.field tagged)).foldl Struct.add t) := by
  induction body generalizing s t with
  | nil => exact ⟨s, rfl, rfl, hs⟩
  | cons l body ih =>
    obtain ⟨r, hr, hpass, hfollow, hcurrent⟩ :=
      follow_line tagged hs (h l List.mem_cons_self)
    obtain ⟨s', hrun, hfinished, hend⟩ := ih hcurrent fun l hl => h l (List.mem_cons_of_mem _ hl)
    refine ⟨s', ?_, hfinished.trans hfollow, ?_⟩
    · rw [List.map_cons, State.run_cons_of_pass _ (by rw [hr, hpass]), hr, hrun]
    · rw [hend]
      cases l <;> rfl

/-- A part of a dump adds the struct of its table, if it is one, and leaves no table open. -/
theorem run_part {s : State} (hs : s.current = none) {part : Part types}
    (h : ∀ line ∈ part.others, Text.has headerMark line = false) :
    ∃ s', s.run types tagged part.lines = (s', none) ∧ s'.current = none ∧
      s'.finished = s.finished ++ (part.table?.map (Table.struct tagged)).toList := by
  cases part with
  | table t =>
    have hheader : Text.has headerMark t.header = true :=
      Text.has_iff_infix.2 ⟨[], _, rfl⟩
    have hopens : Reading.ofLine types tagged t.header s.current.isSome = .opens t.name := by
      rw [Reading.ofLine_of_header hheader, headerTable, t.headerTable_header]
    have hcurrent : (s.follow (.opens t.name)).current = some (Struct.ofTable t.name) := by
      rw [State.current_follow]
    have hbody : ∀ l ∈ t.body, Text.has headerMark l.text = false := fun l hl =>
      h _ (List.mem_append_left _ (List.mem_map_of_mem hl))
    obtain ⟨u, hrun, hfinished, hend⟩ := run_body tagged hcurrent hbody
    have hcloses : Reading.ofLine types tagged terminatorMark u.current.isSome = .closes := by
      rw [hend]
      rfl
    refine ⟨u.follow .closes, ?_, ?_, ?_⟩
    · rw [Part.lines, State.run_cons_of_pass _ (by rw [hopens]; rfl), hopens, Table.rest,
        State.run_append_of_pass hrun, State.run_cons_of_pass _ (by rw [hcloses]; rfl), hcloses]
      rfl
    · rw [State.current_follow]
    · rw [State.finished_follow, if_pos rfl, hfinished, State.finished_follow, hend]
      rfl
  | between line =>
    have hline : Text.has headerMark line = false := h line List.mem_cons_self
    have hr : Reading.ofLine types tagged line s.current.isSome = .nothing := by
      simp [hs, Reading.ofLine, LineKind.ofLine, hline]
    refine ⟨s.follow .nothing, ?_, ?_, ?_⟩
    · rw [Part.lines, State.run_cons_of_pass _ (by rw [hr]; rfl), hr]
      rfl
    · rw [State.current_follow, hs]
    · rw [State.finished_follow]
      simp [Part.table?]

theorem run_parts {s : State} (hs : s.current = none) {dump : List (Part types)}
    (h : ∀ part ∈ dump, ∀ line ∈ part.others, Text.has headerMark line = false) :
    ∃ s', s.run types tagged (lines dump) = (s', none) ∧
      s'.finished = s.finished ++ (tables dump).map (Table.struct tagged) := by
  induction dump generalizing s with
  | nil => exact ⟨s, rfl, by simp [tables]⟩
  | cons part dump ih =>
    obtain ⟨u, hrun, hcurrent, hfinished⟩ := run_part tagged hs (h part List.mem_cons_self)
    obtain ⟨s', hrest, hend⟩ := ih hcurrent fun p hp => h p (List.mem_cons_of_mem _ hp)
    refine ⟨s', ?_, ?_⟩
    · rw [lines, List.flatMap_cons, State.run_append_of_pass hrun]
      exact hrest
    · rw [hend, hfinished]
      cases part <;> simp [tables, Part.table?]

end Run

/-- **Printed dumps convert to their tables.** If no line but the headers holds the mark of a header,
a printed dump gives one struct for each table, in order, under the table's name, and one field for
each of its columns, in order; the check of the dump reports no error and counts the same. -/
theorem convert_printed (types : TypeTable) (tagged : Bool) (dump : List (Part types))
    (h : ∀ part ∈ dump, ∀ line ∈ part.others, Text.has headerMark line = false) :
    ∃ structs, (convert types tagged (lines dump)).result = .ok structs ∧
      structs.map (fun s => (s.name, s.table, s.fields)) =
        (tables dump).map (fun t => (structName t.name, t.name, t.columns.map (·.field tagged))) ∧
      (check types (lines dump)).errors = [] ∧
      (check types (lines dump)).tableCount = (tables dump).length ∧
      (check types (lines dump)).columnCount = ((tables dump).map (·.columns.length)).sum ∧
      (check types (lines dump)).Counts structs := by
  obtain ⟨s, hrun, hfinished⟩ := run_parts tagged (s := {}) rfl h
  have hstructs : s.finished = (tables dump).map (Table.struct tagged) := by
    rw [hfinished]
    rfl
  have hok := convert_ok_iff.2 ⟨s, hrun, hstructs⟩
  have hstruct (t : Table types) : (t.struct tagged).fields = t.columns.map (·.field tagged) ∧
      (t.struct tagged).name = structName t.name ∧ (t.struct tagged).table = t.name :=
    Struct.fields_foldl_add _ _
  obtain ⟨hproblems, hcounts⟩ := check_of_convert_ok hok
  refine ⟨_, hok, ?_, ?_, ?_, ?_, hcounts⟩
  · rw [List.map_map]
    apply List.map_congr_left
    intro t _
    obtain ⟨hfields, hname, htable⟩ := hstruct t
    simp only [Function.comp_apply, hfields, hname, htable]
  · rw [Report.errors, hproblems, List.map_nil]
  · rw [hcounts.tables, List.length_map]
  · rw [hcounts.columns, List.map_map]
    congr 1
    apply List.map_congr_left
    intro t _
    rw [Function.comp_apply, (hstruct t).1, List.length_map]

/-- Two tables of a dump, with a constraint and lines between the tables. -/
theorem convert_printed_two_tables :
    let id : Column .builtin :=
      { indent := [.char ' ', .char ' '], name := .ofText "id".toText (by decide)
        sqlType := .ofText "bigint".toText (by decide), comma := false
        more := some "NOT NULL,".toText, goType := "int64".toText
        indent_blank := by decide, name_ne := by decide, sqlType_end := by decide
        mapped := by decide +kernel }
    let amount : Column .builtin :=
      { indent := [.char '\t'], name := .ofText "amount".toText (by decide)
        sqlType := .ofText "numeric(10,2)".toText (by decide), comma := true
        more := none, goType := "float32".toText
        indent_blank := by decide, name_ne := by decide, sqlType_end := by decide
        mapped := by decide +kernel }
    let check : Filler := ⟨"  CONSTRAINT ok CHECK ((id > 0))".toText, .inr (by decide)⟩
    let coins : Table .builtin :=
      { schema := some "public".toText, name := "coins".toText
        body := [.column id, .column amount, .filler check]
        name_ne_nil := by decide, no_dot := by decide
        solid_start := by rintro c ⟨⟩; decide
        solid_end := by rintro c ⟨⟩; decide }
    let notes : Table .builtin :=
      { schema := none, name := "my notes".toText, body := []
        name_ne_nil := by decide, no_dot := by decide
        solid_start := by rintro c ⟨⟩; decide
        solid_end := by rintro c ⟨⟩; decide }
    let dump := [.between "SET x = 1;".toText, .table coins, .between [], .table notes]
    lines dump =
      ["SET x = 1;", "CREATE TABLE public.coins (", "  id bigint NOT NULL,",
        "\tamount numeric(10,2),", "  CONSTRAINT ok CHECK ((id > 0))", ");", "",
        "CREATE TABLE my notes (", ");"].map String.toText ∧
    (∀ part ∈ dump, ∀ line ∈ part.others, Text.has headerMark line = false) ∧
    ∃ structs, (convert .builtin true (lines dump)).result = .ok structs ∧
      structs.map (·.table) = ["coins".toText, "my notes".toText] := by
  intro id amount check coins notes dump
  have hmarks : ∀ part ∈ dump, ∀ line ∈ part.others, Text.has headerMark line = false := by
    decide +kernel
  obtain ⟨structs, hok, hstructs, -⟩ := convert_printed .builtin true dump hmarks
  refine ⟨by decide +kernel, hmarks, structs, hok, ?_⟩
  have htables := congrArg (List.map fun s => s.2.1) hstructs
  rw [List.map_map, List.map_map] at htables
  exact htables

end Printed
end TableStructs
