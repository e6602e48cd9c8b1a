import Mathlib.Data.List.DropRight
import TableStructs.Struct

/-!
Reading Go source back. A source is cut into lines, and the lines are read one by one: outside a
declaration a line opens one or is empty, inside it a line is a brace or a field, whose parts are cut
at spaces. Nothing is said of sources that no conversion has made.

What stands in a source can be told apart because of what does not stand in it (`Struct.Legible`): no
name and no type holds a line feed, no field's name and no type a space, and no type is empty. A name
may be anything else, with braces, quotes and `struct` in it, and a field's name may be empty.
`ofSource_goSource` says that the declarations of legible structs are read back from their source.
-/
namespace TableStructs

/-! ### Lines of a source -/

namespace Text

/-- Lines that end in a character which they do not hold. -/
theorem split_lines {sep : CodePoint} {lines : List Text} (h : ∀ line ∈ lines, sep ∉ line) (rest : Text) :
    split sep (lines.flatMap (· ++ [sep]) ++ rest) = lines ++ split sep rest := by
  induction lines with
  | nil => rfl
  | cons line lines ih =>
    rw [List.flatMap_cons, List.append_assoc, List.append_assoc, List.singleton_append,
      split_append (h line List.mem_cons_self), ih fun l hl => h l (List.mem_cons_of_mem line hl)]
    rfl

/-- Padding and a space behind it are a gap of at least one space. -/
theorem pad_append_space (width : Nat) (s : Text) :
    pad width s ++ [.char ' '] = s ++ List.replicate (width - s.length + 1) (.char ' ') := by
  rw [pad, List.rightpad, List.append_assoc, ← List.replicate_succ']

end Text

namespace Struct

/-- The line that opens a declaration. -/
def openingLine (s : Struct) : Text := "type ".toText ++ s.name ++ " struct \x7b".toText

/-- The lines of a declaration; the last one is empty. -/
def lines (key : Text) (s : Struct) : List Text :=
  s.openingLine :: s.fields.map (fieldLine key s) ++ ["\x7d".toText, []]

/-- A field's line without a tag: two spaces, the name, a gap and the type. -/
theorem fieldLine_of_untagged {f : Field} (h : f.tag = none) (key : Text) (s : Struct) :
    s.fieldLine key f =
      "  ".toText ++ (f.name ++ (List.replicate (s.nameWidth - f.name.length + 1) (.char ' ') ++ f.goType)) := by
  unfold fieldLine
  rw [h, List.append_assoc "  ".toText, Text.pad_append_space]
  simp only [List.append_assoc]

/-- A field's line with a tag, behind a second gap. -/
theorem fieldLine_of_tagged {f : Field} {tag : Text} (h : f.tag = some tag) (key : Text) (s : Struct) :
    s.fieldLine key f =
      "  ".toText ++ (f.name ++ (List.replicate (s.nameWidth - f.name.length + 1) (.char ' ') ++
        (f.goType ++ (List.replicate (s.typeWidth - f.goType.length + 1) (.char ' ') ++ tagText key tag)))) := by
  unfold fieldLine
  rw [h, List.append_assoc "  ".toText, Text.pad_append_space]
  simp only [Text.pad_append_space, List.append_assoc]

theorem render_eq_lines (key : Text) (s : Struct) :
    s.render key = (s.lines key).flatMap (· ++ [.char '\n']) := by
  have hopening : " struct \x7b\n".toText = " struct \x7b".toText ++ [.char '\n'] := by decide
  have hclosing : "\x7d\n\n".toText = "\x7d".toText ++ [.char '\n'] ++ [.char '\n'] := by decide
  unfold render lines openingLine
  rw [hopening, hclosing]
  generalize "type ".toText = a, " struct \x7b".toText = b, "\x7d".toText = c
  simp [List.flatMap_map]

end Struct

theorem goSource_eq_lines (key : Text) (structs : List Struct) :
    goSource key structs = (structs.flatMap (Struct.lines key)).flatMap (· ++ [.char '\n']) := by
  rw [goSource, List.flatMap_assoc]
  exact List.flatMap_congr fun s _ => s.render_eq_lines key

/-! ### Reading -/

/-- A declaration: the name of a struct, and its fields. -/
structure Declaration where
  name : Text
  fields : List Field := []
deriving DecidableEq

/-- The declaration of a struct. -/
def Struct.declaration (s : Struct) : Declaration := { name := s.name, fields := s.fields }

/-- The struct that a declaration shows, with its layout. The name of its table is not shown. -/
def Declaration.struct (d : Declaration) : Struct := d.fields.foldl Struct.add { name := d.name }

/-- What stands before the first space. -/
def Text.word (s : Text) : Text := s.takeWhile (· ≠ .char ' ')

/-- What stands behind the first word and the spaces that follow it. -/
def Text.behindWord (s : Text) : Text := (s.dropWhile (· ≠ .char ' ')).dropWhile (· = .char ' ')

namespace Declaration

/-- The name in the line that opens a declaration. -/
def readName (line : Text) : Text := (line.drop "type ".toText.length).rdrop " struct \x7b".toText.length

/-- The tag in a field's line, if there is one. -/
def readTag (key text : Text) : Option Text :=
  if text.isEmpty then none else some ((text.drop (.char '\x60' :: key ++ ":\"".toText).length).rdrop 2)

/-- The field in a line. -/
def readField (key line : Text) : Field where
  name := Text.word (line.drop 2)
  goType := Text.word (Text.behindWord (line.drop 2))
  tag := readTag key (Text.behindWord (Text.behindWord (line.drop 2)))

/-- A source that has been read up to some line. -/
structure Reader where
  /-- The declarations closed. -/
  read : List Declaration := []
  /-- The declaration that is open. -/
  current : Option Declaration := none

/-- Reads a line. -/
def Reader.next (key : Text) (r : Reader) (line : Text) : Reader :=
  match r.current with
  | none => if line.isEmpty then r else { r with current := some { name := readName line } }
  | some d =>
    if line = "\x7d".toText then { read := r.read ++ [d] }
    else { r with current := some { d with fields := d.fields ++ [readField key line] } }

/-- The declarations of a source whose tags have the key `key`. -/
def ofSource (key go : Text) : List Declaration :=
  ((Text.split '\n' go).foldl (Reader.next key) {}).read

end Declaration

/-! ### What can be read back -/

/-- A field whose parts can be told from one another in its line. -/
structure Field.Legible (f : Field) : Prop where
  name_space : .char ' ' ∉ f.name
  name_break : .char '\n' ∉ f.name
  type_ne_nil : f.goType ≠ []
  type_space : .char ' ' ∉ f.goType
  type_break : .char '\n' ∉ f.goType
  tag_break : ∀ tag ∈ f.tag, .char '\n' ∉ tag

/-- A struct whose declaration can be told from what stands around it. -/
structure Struct.Legible (s : Struct) : Prop where
  name : .char '\n' ∉ s.name
  fields : ∀ f ∈ s.fields, f.Legible

namespace Text
variable {a b : Text}

theorem word_append (h : .char ' ' ∉ a) (b : Text) : word (a ++ .char ' ' :: b) = a := by
  have ha : ∀ c ∈ a, decide (c ≠ .char ' ') = true := fun c hc => decide_eq_true fun he => h (he ▸ hc)
  rw [word, List.takeWhile_append_of_pos ha, List.takeWhile_cons_of_neg (by simp), List.append_nil]

theorem behindWord_append (h : .char ' ' ∉ a) (hb : b.head? ≠ some (.char ' ')) (n : Nat) :
    behindWord (a ++ (List.replicate (n + 1) (.char ' ') ++ b)) = b := by
  have ha : ∀ c ∈ a, decide (c ≠ .char ' ') = true := fun c hc => decide_eq_true fun he => h (he ▸ hc)
  have hgap : ∀ c ∈ List.replicate (n + 1) (CodePoint.char ' '), decide (c = .char ' ') = true := fun c hc =>
    decide_eq_true (List.eq_of_mem_replicate hc)
  rw [behindWord, List.dropWhile_append_of_pos ha, List.replicate_succ, List.cons_append,
    List.dropWhile_cons_of_neg (by simp), ← List.cons_append, ← List.replicate_succ,
    List.dropWhile_append_of_pos hgap]
  cases b with
  | nil => rfl
  | cons c b => exact List.dropWhile_cons_of_neg (by simpa using hb)

theorem word_self (h : .char ' ' ∉ a) : word a = a := by
  rw [word, List.takeWhile_eq_self_iff]
  exact fun c hc => decide_eq_true fun he => h (he ▸ hc)

theorem behindWord_self (h : .char ' ' ∉ a) : behindWord a = [] := by
  have ha : a.dropWhile (· ≠ .char ' ') = [] :=
    List.dropWhile_eq_nil_iff.2 fun c hc => decide_eq_true fun he => h (he ▸ hc)
  rw [behindWord, ha]
  rfl

end Text

namespace Declaration
open Struct
variable {key : Text} {s : Struct} {f : Field}

theorem readTag_tagText (key tag : Text) : readTag key (tagText key tag) = some tag := by
  have hlength : "\"\x60".toText.length = 2 := by decide
  have hdrop : (tagText key tag).drop (.char '\x60' :: key ++ ":\"".toText).length = tag ++ "\"\x60".toText := by
    unfold tagText
    rw [List.append_assoc, List.drop_left]
  unfold readTag
  rw [hdrop, ← hlength, List.rdrop_append_length]
  rfl

/-- **A field is read back** from its line. -/
theorem readField_fieldLine (h : f.Legible) (key : Text) (s : Struct) :
    readField key (s.fieldLine key f) = f := by
  have hindent (rest : Text) : ("  ".toText ++ rest).drop 2 = rest := rfl
  obtain ⟨c, goType, hgo⟩ := List.exists_cons_of_ne_nil h.type_ne_nil
  have hhead (rest : Text) : (f.goType ++ rest).head? ≠ some (.char ' ') := by
    have := h.type_space
    rw [hgo] at this ⊢
    simpa using fun he : c = .char ' ' => this (he ▸ List.mem_cons_self)
  have hname (n : Nat) (rest : Text) :
      Text.word (f.name ++ (List.replicate (n + 1) (.char ' ') ++ rest)) = f.name :=
    Text.word_append h.name_space _
  obtain ⟨name, goType', tag⟩ := f
  cases tag with
  | none =>
    have hbody := Text.behindWord_append h.name_space (by simpa using hhead [])
    rw [fieldLine_of_untagged rfl, readField, hindent, hname, hbody, Text.word_self h.type_space,
      Text.behindWord_self h.type_space]
    rfl
  | some tag =>
    have hbody := fun rest => Text.behindWord_append h.name_space (hhead rest)
    have htag := Text.behindWord_append h.type_space (b := tagText key tag) (by simp [tagText])
    rw [fieldLine_of_tagged rfl, readField, hindent, hname, hbody, htag, readTag_tagText]
    exact congrArg (Field.mk name · (some tag)) (Text.word_append h.type_space _)

theorem readName_openingLine (s : Struct) : readName s.openingLine = s.name := by
  unfold readName openingLine
  rw [List.append_assoc, List.drop_left, List.rdrop_append_length]

theorem fieldLine_ne_brace (key : Text) (s : Struct) (f : Field) : s.fieldLine key f ≠ "\x7d".toText := by
  intro h
  have hhead : (s.fieldLine key f).head? = some (.char ' ') := by
    unfold fieldLine
    rfl
  rw [h] at hhead
  exact absurd hhead (by decide)

theorem read_fields {fields : List Field} (h : ∀ f ∈ fields, f.Legible) (read : List Declaration)
    (d : Declaration) :
    (fields.map (s.fieldLine key)).foldl (Reader.next key) ⟨read, some d⟩ =
      ⟨read, some { d with fields := d.fields ++ fields }⟩ := by
  induction fields generalizing d with
  | nil => simp
  | cons f fields ih =>
    have hnext : Reader.next key ⟨read, some d⟩ (s.fieldLine key f) =
        ⟨read, some { d with fields := d.fields ++ [f] }⟩ := by
      simp only [Reader.next, fieldLine_ne_brace, if_false, readField_fieldLine (h f List.mem_cons_self)]
    rw [List.map_cons, List.foldl_cons, hnext, ih fun g hg => h g (List.mem_cons_of_mem f hg)]
    simp

/-- **A declaration is read back** from its lines. -/
theorem read_lines (h : s.Legible) (key : Text) (read : List Declaration) :
    (s.lines key).foldl (Reader.next key) { read } = { read := read ++ [s.declaration] } := by
  have hopen : Reader.next key { read } s.openingLine = ⟨read, some { name := s.name }⟩ := by
    have hne : s.openingLine.isEmpty = false := by
      unfold openingLine
      rfl
    simp only [Reader.next, hne, readName_openingLine]
    rfl
  rw [lines, List.cons_append, List.foldl_cons, hopen, List.foldl_append, read_fields h.fields]
  rfl

theorem read_structs {structs : List Struct} (h : ∀ s ∈ structs, s.Legible) (key : Text)
    (read : List Declaration) :
    (structs.flatMap (Struct.lines key)).foldl (Reader.next key) { read } =
      { read := read ++ structs.map declaration } := by
  induction structs generalizing read with
  | nil => simp
  | cons s structs ih =>
    rw [List.flatMap_cons, List.foldl_append, read_lines (h s List.mem_cons_self),
      ih fun t ht => h t (List.mem_cons_of_mem s ht)]
    simp

theorem break_not_mem_tagText {tag : Text} (hkey : .char '\n' ∉ key) (htag : .char '\n' ∉ tag) :
    .char '\n' ∉ tagText key tag := by
  have hquotes : .char '\n' ∉ ":\"".toText ∧ .char '\n' ∉ "\"\x60".toText := by decide
  unfold tagText
  simp only [List.mem_append, List.mem_cons, not_or]
  exact ⟨⟨⟨⟨by decide, hkey⟩, hquotes.1⟩, htag⟩, hquotes.2⟩

theorem break_not_mem_fieldLine (h : f.Legible) (hkey : .char '\n' ∉ key) :
    .char '\n' ∉ s.fieldLine key f := by
  have hindent : .char '\n' ∉ "  ".toText := by decide
  have hgap (n : Nat) : CodePoint.char '\n' ∉ List.replicate n (CodePoint.char ' ') := fun hc =>
    absurd (List.eq_of_mem_replicate hc) (by decide)
  cases htag : f.tag with
  | none =>
    rw [fieldLine_of_untagged htag]
    simp only [List.mem_append, not_or]
    exact ⟨hindent, h.name_break, hgap _, h.type_break⟩
  | some tag =>
    rw [fieldLine_of_tagged htag]
    simp only [List.mem_append, not_or]
    exact ⟨hindent, h.name_break, hgap _, h.type_break, hgap _,
      break_not_mem_tagText hkey (h.tag_break tag htag)⟩

theorem break_not_mem_lines (h : s.Legible) (hkey : .char '\n' ∉ key) :
    ∀ line ∈ s.lines key, .char '\n' ∉ line := by
  intro line hline
  simp only [lines, List.cons_append, List.mem_cons, List.mem_append, List.mem_map, List.not_mem_nil,
    or_false] at hline
  obtain rfl | ⟨f, hf, rfl⟩ | rfl | rfl := hline
  · have hwords : .char '\n' ∉ "type ".toText ∧ .char '\n' ∉ " struct \x7b".toText := by decide
    unfold openingLine
    simp only [List.mem_append, not_or]
    exact ⟨⟨hwords.1, h.name⟩, hwords.2⟩
  · exact break_not_mem_fieldLine (h.fields f hf) hkey
  · decide
  · exact List.not_mem_nil

/-- **A source is read back** to the declarations that it was made from. -/
theorem ofSource_goSource {structs : List Struct} (h : ∀ s ∈ structs, s.Legible) (hkey : .char '\n' ∉ key) :
    ofSource key (goSource key structs) = structs.map declaration := by
  have hbreaks : ∀ line ∈ structs.flatMap (Struct.lines key), .char '\n' ∉ line := by
    intro line hline
    obtain ⟨s, hs, hline⟩ := List.mem_flatMap.1 hline
    exact break_not_mem_lines (h s hs) hkey line hline
  have hsplit := Text.split_lines hbreaks []
  rw [List.append_nil] at hsplit
  rw [ofSource, goSource_eq_lines, hsplit, List.foldl_append, read_structs h]
  rfl

end Declaration
end TableStructs
