import TableStructs.Proofs.BlockSemantics
import TableStructs.Proofs.Legible

/-!
The grammar of a source. A source is a sequence of declarations (`Go.Source`), a declaration an
opening line, field lines and a brace, a field line an identifier, a type and maybe a tag, with gaps
of spaces between them. Identifiers are exported ones, types are those of the built-in rules, and the
value of a tag is the name of the column that the line stands for: a line is derived from its column.

`source_in_grammar` says that a dump with plain names has a source in the grammar, derived from the
columns of its blocks.
-/
namespace TableStructs

/-! ### Grammar -/

namespace Go

/-- Whether a character is a control character. -/
def isControl (c : CodePoint) : Bool := c.toNat < 0x20 || (0x7F ≤ c.toNat && c.toNat < 0xA0)

/-- Whether a text can be the key of a tag: not empty, without spaces, colons, quotes, backticks and
control characters. -/
def isTagKey (key : Text) : Bool :=
  !key.isEmpty && key.all fun c =>
    c ≠ .char ' ' && c ≠ .char ':' && c ≠ .char '"' && c ≠ .char '\x60' && !isControl c

/-- One or more spaces. -/
inductive Gap : Text → Prop
  | spaces (n : Nat) : Gap (List.replicate (n + 1) (.char ' '))

/-- A raw string with a key and its value. -/
inductive Tag (key value : Text) : Text → Prop
  | raw (hkey : isTagKey key = true) (hvalue : isSnake value = true) :
    Tag key value ("\x60".toText ++ key ++ ":\"".toText ++ value ++ "\"\x60".toText)

/-- The line of a field that stands for a column; it has a tag if there is a key for it. -/
inductive FieldLine : Option Text → Text → Text → Prop
  | untagged {column ident gap goType : Text} (hident : isIdent ident = true) (hgap : Gap gap)
    (htype : goType ∈ TypeTable.builtin.goTypes) :
    FieldLine none column ("  ".toText ++ ident ++ gap ++ goType)
  | tagged {key column ident gap goType gap' tag : Text} (hident : isIdent ident = true) (hgap : Gap gap)
    (htype : goType ∈ TypeTable.builtin.goTypes) (hgap' : Gap gap') (htag : Tag key column tag) :
    FieldLine (some key) column ("  ".toText ++ ident ++ gap ++ goType ++ gap' ++ tag)

/-- A declaration with a field line for each column. -/
inductive Declaration (key : Option Text) : List Text → Text → Prop
  | struct {columns lines : List Text} {ident : Text} (hident : isIdent ident = true)
    (hlines : List.Forall₂ (FieldLine key) columns lines) :
    Declaration key columns
      ("type ".toText ++ ident ++ " struct \x7b\n".toText ++ lines.flatMap (· ++ [.char '\n']) ++
        "\x7d\n\n".toText)

/-- A source with a declaration for each list of columns. -/
inductive Source (key : Option Text) : List (List Text) → Text → Prop
  | nil : Source key [] []
  | cons {columns : List Text} {rest : List (List Text)} {declaration source : Text}
    (hfirst : Declaration key columns declaration) (hrest : Source key rest source) :
    Source key (columns :: rest) (declaration ++ source)

end Go

/-! ### Columns of blocks -/

/-- The name of the column in a line: what stands before the first single space. -/
def columnName (line : Text) : Text := (Text.split ' ' (Text.trim line)).headD []

/-- The names of the columns in a block. -/
def Blocks.columnNames (lines : List Text) (block : Nat × Nat) : List Text :=
  (columnsBetween lines block.1 block.2).map fun i => columnName (lines.getD i [])

/-- What is in a column's field. -/
theorem Blocks.of_field? {types : TypeTable} {tagged : Bool} {line : Text} {f : Field}
    (h : Blocks.field? types tagged line = some f) :
    f.name = camelCase (columnName line) ∧ f.goType ∈ types.goTypes ∧
      f.tag = if tagged then some (columnName line) else none := by
  unfold Blocks.field? at h
  split at h
  · next name sqlType rest hsplit =>
    obtain ⟨goType, hgo, rfl⟩ := Option.map_eq_some_iff.1 h
    have hname : columnName line = name := by rw [columnName, hsplit, List.headD_cons]
    exact ⟨by rw [hname], TypeTable.mem_goTypes hgo, by rw [hname]⟩
  · cases h

/-- The fields of a block's struct are those of the block's columns, in order. -/
theorem Blocks.Declares.fields_of_columns {types : TypeTable} {tagged : Bool} {lines : List Text}
    {block : Nat × Nat} {s : Struct} (h : Declares types tagged lines block s) :
    List.Forall₂ (fun i f => isColumn lines i = true ∧ i < lines.length ∧
        f.name = camelCase (columnName (lines.getD i [])) ∧ f.goType ∈ types.goTypes ∧
        f.tag = if tagged then some (columnName (lines.getD i [])) else none)
      (columnsBetween lines block.1 block.2) s.fields := by
  -- Both sides follow the places of the columns in the block.
  have hplaces : List.Forall₂ (fun i f => lines[i]?.bind (field? types tagged) = some f)
      (columnsBetween lines block.1 block.2) s.fields := by
    have hfields : List.Forall₂ (· = ·) _ _ := List.forall₂_eq_eq_eq ▸ h.fields.symm
    rwa [List.forall₂_map_left_iff, List.forall₂_map_right_iff] at hfields
  have hcolumn : ∀ i ∈ columnsBetween lines block.1 block.2, isColumn lines i = true := fun i hi =>
    (Bool.and_eq_true_iff.1 (List.mem_filter.1 hi).2).2
  refine ((List.forall₂_and_left _ _).2 ⟨hcolumn, hplaces⟩).imp ?_
  rintro i f ⟨hi, hf⟩
  obtain ⟨line, hline, hfield⟩ := Option.bind_eq_some_iff.1 hf
  have hget : lines.getD i [] = line := by rw [List.getD_eq_getElem?_getD, hline, Option.getD_some]
  rw [hget]
  exact ⟨hi, (List.getElem?_eq_some_iff.1 hline).1, of_field? hfield⟩

/-! ### Sources in the grammar -/

section
open Blocks
variable {tagged : Bool} {lines : List Text} {key : Text}

/-- The line of a field is derived from its column. -/
theorem Go.fieldLine_derived {f : Field} {column : Text} (hcolumn : isSnake column = true)
    (hname : f.name = camelCase column) (htype : f.goType ∈ TypeTable.builtin.goTypes)
    (htag : f.tag = if tagged then some column else none) (hkey : Go.isTagKey key = true) (s : Struct) :
    Go.FieldLine (if tagged then some key else none) column (s.fieldLine key f) := by
  have hident : isIdent f.name = true := hname ▸ isIdent_camelCase hcolumn
  cases tagged with
  | true =>
    have htext : Go.Tag key column (Struct.tagText key column) := by
      unfold Struct.tagText
      exact .raw hkey hcolumn
    have htagged := Go.FieldLine.tagged hident (.spaces (s.nameWidth - f.name.length)) htype
      (.spaces (s.typeWidth - f.goType.length)) htext
    rw [Struct.fieldLine_of_tagged htag]
    simpa only [List.append_assoc, if_true] using htagged
  | false =>
    have huntagged : Go.FieldLine none column _ :=
      .untagged hident (.spaces (s.nameWidth - f.name.length)) htype
    rw [Struct.fieldLine_of_untagged htag]
    simpa only [List.append_assoc, Bool.false_eq_true, if_false] using huntagged

/-- The declaration of a block is derived from the block's columns. -/
theorem Go.declaration_derived {block : Nat × Nat} {s : Struct}
    (htables : ∀ line ∈ lines, ∀ table ∈ headerTable? line, isSnake table = true)
    (hcolumns : ∀ i < lines.length, isColumn lines i = true → isSnake (columnName (lines.getD i [])) = true)
    (hkey : Go.isTagKey key = true) (h : Declares .builtin tagged lines block s) :
    Go.Declaration (if tagged then some key else none) (columnNames lines block) (s.render key) := by
  have hident : isIdent s.name = true := by
    obtain ⟨line, hline, htable⟩ := Option.bind_eq_some_iff.1 h.table
    rw [h.name]
    exact isIdent_structName (htables line (List.mem_of_getElem? hline) _ htable)
  have hlines : List.Forall₂ (Go.FieldLine (if tagged then some key else none)) (columnNames lines block)
      (s.fields.map (s.fieldLine key)) := by
    rw [columnNames, List.forall₂_map_left_iff, List.forall₂_map_right_iff]
    refine h.fields_of_columns.imp ?_
    rintro i f ⟨hi, hlt, hname, htype, htag⟩
    exact Go.fieldLine_derived (hcolumns i hlt hi) hname htype htag hkey s
  have hstruct := Go.Declaration.struct hident hlines
  rwa [List.flatMap_map] at hstruct

theorem Go.source_derived {places : List (Nat × Nat)} {structs : List Struct}
    (htables : ∀ line ∈ lines, ∀ table ∈ headerTable? line, isSnake table = true)
    (hcolumns : ∀ i < lines.length, isColumn lines i = true → isSnake (columnName (lines.getD i [])) = true)
    (hkey : Go.isTagKey key = true) (h : List.Forall₂ (Declares .builtin tagged lines) places structs) :
    Go.Source (if tagged then some key else none) (places.map (columnNames lines)) (goSource key structs) := by
  induction h with
  | nil => exact .nil
  | cons hfirst _ ih => exact .cons (Go.declaration_derived htables hcolumns hkey hfirst) ih

/-- **The source of a dump with plain names** is in the grammar. Every declaration is derived from the
columns of its block, in order. -/
theorem Converter.source_in_grammar {c : Converter} {w : Workspace} {structs : List Struct}
    (htypes : c.types = .builtin) (hkey : c.getTagKey.Returns w key) (hform : Go.isTagKey key = true)
    (hconvert : (convert c.types tagged lines).result = .ok structs)
    (htables : ∀ line ∈ lines, ∀ table ∈ headerTable? line, isSnake table = true)
    (hcolumns : ∀ i < lines.length, isColumn lines i = true → isSnake (columnName (lines.getD i [])) = true) :
    ∃ go, (c.source tagged { lines }).Returns w go ∧
      Go.Source (if tagged then some key else none) ((blocks lines).map (columnNames lines)) go := by
  refine ⟨goSource key structs, source_returns_of_key hkey (structs_returns_iff.2 ⟨hconvert, rfl⟩), ?_⟩
  obtain ⟨t, ht, rfl⟩ := convert_ok_iff.1 hconvert
  rw [htypes] at ht
  exact Go.source_derived htables hcolumns hform (reached_run ht).finished

/-- A table's name that loses its `s`, and one that is nothing but an `s`. -/
theorem Converter.source_in_grammar_of_s :
    let lines := ["CREATE TABLE public.user_s (", "  user_id bigint,", "  x1 text NOT NULL", ");",
      "CREATE TABLE s (", ");"].map String.toText
    ∃ go, (({} : Converter).source true { lines }).Returns {} go ∧
      Go.Source (some "json".toText) [["user_id".toText, "x1".toText], []] go := by
  intro lines
  have hkey : ({} : Converter).getTagKey.Returns {} "json".toText := ⟨_, rfl⟩
  obtain ⟨structs, hconvert⟩ : ∃ structs, (convert .builtin true lines).result = .ok structs := by
    exact ⟨_, rfl⟩
  have hblocks : (blocks lines).map (columnNames lines) = [["user_id".toText, "x1".toText], []] := by
    decide +kernel
  obtain ⟨go, hgo, hsource⟩ :=
    source_in_grammar (c := {}) rfl hkey (by decide) hconvert (by decide +kernel) (by decide +kernel)
  exact ⟨go, hgo, hblocks ▸ hsource⟩

end
end TableStructs
