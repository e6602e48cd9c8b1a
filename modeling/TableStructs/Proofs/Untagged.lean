import TableStructs.Proofs.GoGrammar

/-!
Tags add to a conversion and change nothing else. Converting without tags and with them goes through
the same lines in the same way: without tags every state is the other one `untagged`
(`State.follow_untagged`, `State.run_untagged`), so the structs differ in their tags and in the width
that is kept for them.

In a source the tags stand at the ends of field lines. `Text.eraseTag` takes the tag off a line, with
the spaces before it, and that makes the one source from the other line by line
(`goSource_untagged`). Where no name has a line feed in it the lines can be told from the text, so the
text of the one source is enough to get the other (`eraseTags_goSource`).
-/
namespace TableStructs

/-! ### Structs without tags -/

/-- The field without its tag. -/
def Field.untagged (f : Field) : Field := { f with tag := none }

/-- The struct without tags, and without a width for types before them. -/
def Struct.untagged (s : Struct) : Struct := { s with fields := s.fields.map Field.untagged, typeWidth := 0 }

/-- A field without a tag is added to a struct without tags. -/
theorem Struct.untagged_add (s : Struct) (f : Field) : (s.add f).untagged = s.untagged.add f.untagged := by
  simp [untagged, add, Field.untagged]

/-- The reading without a tag. -/
def Reading.untagged : Reading → Reading
  | .adds f => .adds f.untagged
  | r => r

theorem Field.ofLine_untagged (types : TypeTable) (line : Text) :
    Field.ofLine types false line none = (Field.ofLine types true line none).map Field.untagged := by
  unfold Field.ofLine
  cases Column.ofLine line none with
  | error e => rfl
  | ok column =>
    simp only
    cases types.map column.sqlType none <;> rfl

namespace Reading

theorem ofLine_untagged (types : TypeTable) (line : Text) (inTable : Bool) :
    ofLine types false line inTable = (ofLine types true line inTable).untagged := by
  unfold ofLine
  cases LineKind.ofLine line inTable with
  | header => cases headerTable line none <;> rfl
  | terminator => rfl
  | column =>
    simp only [Field.ofLine_untagged]
    cases Field.ofLine types true line none <;> rfl
  | ignorable =>
    simp only
    split <;> rfl

@[simp] theorem error?_untagged (r : Reading) : r.untagged.error? = r.error? := by
  cases r <;> rfl

end Reading

/-! ### Converting without tags -/

namespace Conversion.State

/-- The state without tags. -/
def untagged (s : State) : State :=
  { s with current := s.current.map Struct.untagged, finished := s.finished.map Struct.untagged }

@[simp] theorem isSome_untagged (s : State) : s.untagged.current.isSome = s.current.isSome :=
  Option.isSome_map

theorem discard_untagged (s : State) : s.discard.untagged = s.untagged.discard := by
  obtain ⟨line, current, finished, notices⟩ := s
  cases current <;> rfl

/-- **One line.** What a reading does to a state, it does without tags too. -/
theorem follow_untagged (s : State) (r : Reading) : (s.follow r).untagged = s.untagged.follow r.untagged := by
  cases r with
  | opens table =>
    show (s.advance.discard.start table).untagged = s.advance.untagged.discard.start table
    rw [← discard_untagged]
    rfl
  | nameless e => exact s.advance.discard_untagged
  | closes =>
    obtain ⟨line, current, finished, notices⟩ := s
    cases current <;> simp [follow, Reading.untagged, advance, close, untagged]
  | adds f =>
    obtain ⟨line, current, finished, notices⟩ := s
    cases current <;> simp [follow, Reading.untagged, advance, add, untagged, Struct.untagged_add]
  | faulty e | constraint | nothing => rfl

/-- **All lines.** A run without tags is the run with them, less the tags. -/
theorem run_untagged (types : TypeTable) (s : State) (lines : List Text) :
    s.untagged.run types false lines = ((s.run types true lines).1.untagged, (s.run types true lines).2) := by
  induction lines generalizing s with
  | nil => rfl
  | cons line rest ih =>
    have hreading : Reading.ofLine types false line s.untagged.current.isSome =
        (Reading.ofLine types true line s.current.isSome).untagged := by
      rw [isSome_untagged, Reading.ofLine_untagged]
    have hpass := @run_cons_of_pass types false s.untagged line rest
    have hstop (e : LineError) := @run_cons_of_stop types false s.untagged line e rest
    rw [hreading, Reading.error?_untagged, ← follow_untagged] at hpass hstop
    cases he : (Reading.ofLine types true line s.current.isSome).error? with
    | none => rw [hpass he, run_cons_of_pass rest he, ih]
    | some e =>
      rw [hstop e he, run_cons_of_stop rest he]
      rfl

end Conversion.State

/-- The result of a conversion without tags. -/
theorem convert_untagged (types : TypeTable) (lines : List Text) :
    (convert types false lines).result = (convert types true lines).result.map (List.map Struct.untagged) := by
  have hrun := Conversion.State.run_untagged types {} lines
  have hstart : ({} : Conversion.State).untagged = {} := rfl
  rw [hstart] at hrun
  unfold convert
  rw [hrun]
  rcases ({} : Conversion.State).run types true lines with ⟨t, _ | e⟩ <;> rfl

/-! ### Tagged structs -/

/-- The field of a column, with the column's name as its tag. -/
structure Field.OfTag (column : Text) (f : Field) : Prop where
  tag : f.tag = some column
  name : f.name = camelCase column

namespace Blocks

/-- A struct that has the names of the block's columns as tags. -/
structure Tags (lines : List Text) (block : Nat × Nat) (s : Struct) : Prop where
  /-- Every column has its field. -/
  fields : List.Forall₂ Field.OfTag (columnNames lines block) s.fields
  /-- Types are laid out to the length of the longest one. -/
  typeWidth : s.typeWidth = Struct.longest (s.fields.map (·.goType))

theorem Declares.tags {types : TypeTable} {lines : List Text} {block : Nat × Nat} {s : Struct}
    (h : Declares types true lines block s) (hlaid : s.LaidOut)
    (htagged : ∀ f ∈ s.fields, f.tag.isSome = true) : Tags lines block s where
  fields := by
    rw [columnNames, List.forall₂_map_left_iff]
    exact h.fields_of_columns.imp fun i f hf => ⟨hf.2.2.2.2, hf.2.2.1⟩
  typeWidth := by rw [hlaid.typeWidth, List.filter_eq_self.2 htagged]

end Blocks

section
variable {types : TypeTable} {lines : List Text} {structs : List Struct}

/-- With tags every field has one. -/
theorem tagged_of_convert (h : (convert types true lines).result = .ok structs) :
    ∀ s ∈ structs, ∀ f ∈ s.fields, f.tag.isSome = true := by
  refine forall_of_convert (fun _ _ _ _ => nofun) (fun line _ f s hf hs g hg => ?_) h
  rcases List.mem_append.1 hg with hg | hg
  · exact hs g hg
  · obtain ⟨column, goType, -, -, rfl⟩ := Field.ofLine_eq_ok hf
    rw [List.mem_singleton.1 hg]
    rfl

theorem tags_of_convert (h : (convert types true lines).result = .ok structs) :
    List.Forall₂ (Blocks.Tags lines) (Blocks.blocks lines) structs := by
  have hlaid := laidOut_of_convert h
  have htagged := tagged_of_convert h
  obtain ⟨t, ht, rfl⟩ := convert_ok_iff.1 h
  have hboth : ∀ s ∈ t.finished, s.LaidOut ∧ ∀ f ∈ s.fields, f.tag.isSome = true := fun s hs =>
    ⟨hlaid s hs, htagged s hs⟩
  refine ((List.forall₂_and_left _ _).2 ⟨hboth, (Blocks.reached_run ht).finished.flip⟩).flip.imp ?_
  rintro block s ⟨⟨hlaid, htagged⟩, hdeclares⟩
  exact hdeclares.tags hlaid htagged

end

/-! ### Sources without tags -/

namespace Text

/-- A line of a source less the tag at its end and the spaces before it. Only the lines of fields
begin with a space; their tags stand behind two words. -/
def eraseTag (line : Text) : Text :=
  if line.head? = some (.char ' ') then
    line.rdrop ((behindWord (line.drop 2)).dropWhile (· ≠ .char ' ')).length
  else line

/-- A source without tags, line by line. -/
def eraseTags (go : Text) : Text := [.char '\n'].intercalate ((split '\n' go).map eraseTag)

/-- What stands behind two words is taken off, with the spaces before it. -/
theorem eraseTag_words {a b : Text} (ha : .char ' ' ∉ a) (hb : .char ' ' ∉ b) (hne : b ≠ []) (n : Nat)
    (c : Text)
    (hc : ∀ d ∈ c.head?, d = .char ' ') :
    eraseTag ("  ".toText ++ (a ++ (List.replicate (n + 1) (.char ' ') ++ (b ++ c)))) =
      "  ".toText ++ (a ++ (List.replicate (n + 1) (.char ' ') ++ b)) := by
  have hhead : (b ++ c).head? ≠ some (.char ' ') := by
    obtain ⟨d, b, rfl⟩ := List.exists_cons_of_ne_nil hne
    simpa using fun hd : d = .char ' ' => hb (hd ▸ List.mem_cons_self)
  have hword : ∀ d ∈ b, decide (d ≠ .char ' ') = true := fun d hd => decide_eq_true fun he => hb (he ▸ hd)
  have hrest : c.dropWhile (· ≠ .char ' ') = c := by
    cases c with
    | nil => rfl
    | cons d c => simp [hc d rfl]
  have hindent (rest : Text) :
      ("  ".toText ++ rest).head? = some (.char ' ') ∧ ("  ".toText ++ rest).drop 2 = rest :=
    ⟨rfl, rfl⟩
  rw [eraseTag, if_pos (hindent _).1, (hindent _).2, behindWord_append ha hhead,
    List.dropWhile_append_of_pos hword, hrest]
  simp only [← List.append_assoc, List.rdrop_append_length]

/-- Lines with a line end between them, and an empty one at the end. -/
theorem intercalate_lines (sep : CodePoint) (lines : List Text) :
    [sep].intercalate (lines ++ [[]]) = lines.flatMap (· ++ [sep]) := by
  induction lines with
  | nil => rfl
  | cons line lines ih =>
    rw [List.cons_append, List.flatMap_cons, ← ih]
    cases lines <;> simp [List.intercalate]

end Text

namespace Struct
variable {f : Field} {key : Text} {s : Struct}

/-- **A field's line** without its tag is the line of the field without a tag. -/
theorem eraseTag_fieldLine (h : f.Worded) (key : Text) (s : Struct) :
    Text.eraseTag (s.fieldLine key f) = s.untagged.fieldLine key f.untagged := by
  have herase := Text.eraseTag_words h.name_space h.type_space h.type_ne_nil (s.nameWidth - f.name.length)
  rw [fieldLine_of_untagged (f := f.untagged) rfl]
  cases htag : f.tag with
  | none =>
    rw [fieldLine_of_untagged htag]
    have hwhole := herase [] nofun
    rwa [List.append_nil] at hwhole
  | some tag =>
    rw [fieldLine_of_tagged htag]
    refine herase _ fun d hd => ?_
    rw [List.replicate_succ] at hd
    exact (Option.some.inj hd).symm

/-- What is taken off a field's line: the tag and all spaces before it. -/
theorem fieldLine_eq_eraseTag (h : f.Worded) {tag : Text} (htag : f.tag = some tag) (key : Text) (s : Struct) :
    (∃ n, s.fieldLine key f =
      Text.eraseTag (s.fieldLine key f) ++ (List.replicate (n + 1) (.char ' ') ++ tagText key tag)) ∧
    (Text.eraseTag (s.fieldLine key f)).getLast? ≠ some (.char ' ') := by
  rw [eraseTag_fieldLine h, fieldLine_of_untagged (f := f.untagged) rfl, fieldLine_of_tagged htag]
  refine ⟨⟨s.typeWidth - f.goType.length, ?_⟩, fun hlast => ?_⟩
  · simp [Field.untagged, untagged]
  · simp only [← List.append_assoc] at hlast
    rw [List.getLast?_append_of_ne_nil _ (show f.untagged.goType ≠ [] from h.type_ne_nil)] at hlast
    exact h.type_space (List.mem_of_getLast? hlast)

/-- The lines of a struct without tags. -/
theorem lines_untagged (h : ∀ f ∈ s.fields, f.Worded) (key : Text) :
    s.untagged.lines key = (s.lines key).map Text.eraseTag := by
  have hopening : Text.eraseTag s.openingLine = s.openingLine := by
    unfold openingLine
    rfl
  have hfields : s.untagged.fields.map (s.untagged.fieldLine key) =
      (s.fields.map (s.fieldLine key)).map Text.eraseTag := by
    rw [List.map_map]
    show (s.fields.map Field.untagged).map (s.untagged.fieldLine key) = _
    rw [List.map_map]
    exact List.map_congr_left fun f hf => (eraseTag_fieldLine (h f hf) key s).symm
  have hbehind : ["\x7d".toText, []].map Text.eraseTag = ["\x7d".toText, []] := by decide
  unfold lines
  rw [hfields, List.map_append, List.map_cons, hopening, hbehind]
  rfl

end Struct

section
variable {structs : List Struct} {key : Text}

/-- **A source without tags** has the lines of the source with them, each without its tag. -/
theorem goSource_untagged (h : ∀ s ∈ structs, ∀ f ∈ s.fields, f.Worded) (key : Text) :
    goSource key (structs.map Struct.untagged) =
      ((structs.flatMap (Struct.lines key)).map Text.eraseTag).flatMap (· ++ [.char '\n']) := by
  rw [goSource_eq_lines, List.flatMap_map, List.map_flatMap]
  exact congrArg _ (List.flatMap_congr fun s hs => s.lines_untagged (h s hs) key)

/-- Where no line holds a line feed, the text of a source gives the source without tags. -/
theorem eraseTags_goSource (h : ∀ s ∈ structs, s.Legible) (hkey : .char '\n' ∉ key) :
    Text.eraseTags (goSource key structs) = goSource key (structs.map Struct.untagged) := by
  have hworded : ∀ s ∈ structs, ∀ f ∈ s.fields, f.Worded := fun s hs f hf =>
    have hlegible := (h s hs).fields f hf
    ⟨hlegible.name_space, hlegible.type_ne_nil, hlegible.type_space⟩
  have hbreaks : ∀ line ∈ structs.flatMap (Struct.lines key), .char '\n' ∉ line := by
    intro line hline
    obtain ⟨s, hs, hline⟩ := List.mem_flatMap.1 hline
    exact Declaration.break_not_mem_lines (h s hs) hkey line hline
  have hsplit := Text.split_lines hbreaks []
  rw [List.append_nil, ← goSource_eq_lines] at hsplit
  have hlast : [[]].map Text.eraseTag = [[]] := rfl
  rw [Text.eraseTags, hsplit, List.map_append, Text.split, hlast, Text.intercalate_lines,
    goSource_untagged hworded]

end

/-! ### Converting with and without tags -/

namespace Converter
open TableStructs.Action
variable {c : Converter} {w : Workspace} {key : Text}

/-- The structs of an input without tags are those with tags, less the tags; a failure is the same. -/
theorem structs_untagged (c : Converter) (input : Lines) (w : Workspace) :
    (c.structs false input).result w = ((c.structs true input).result w).map (List.map Struct.untagged) := by
  rw [result_structs, result_structs, convert_untagged]
  cases (convert c.types true input.lines).result with
  | error e => rfl
  | ok structs => cases input.failure <;> rfl

/-- **Tags only add.** Without tags the structs of a dump are those with tags, less the tags and the
width for types, and a failure is the same. The tags are the names of the columns. The source without
tags has the lines of the source with them, less the tag and the spaces before it on each line of a
field, and for the lines of a text or of a file it is made from that source's text alone. -/
theorem tags_only_add (htypes : c.types = .builtin) (hkey : c.getTagKey.Returns w key) (lines : List Text) :
    (c.structs false { lines }).result w =
        ((c.structs true { lines }).result w).map (List.map Struct.untagged) ∧
      ∀ structs, (c.structs true { lines }).Returns w structs →
        List.Forall₂ (Blocks.Tags lines) (Blocks.blocks lines) structs ∧
        (∀ s ∈ structs, ∀ f ∈ s.fields, ∃ tag n, f.tag = some tag ∧
          s.fieldLine key f = Text.eraseTag (s.fieldLine key f) ++
            (List.replicate (n + 1) (.char ' ') ++ Struct.tagText key tag) ∧
          (Text.eraseTag (s.fieldLine key f)).getLast? ≠ some (.char ' ')) ∧
        ∃ go go', (c.source true { lines }).Returns w go ∧ (c.source false { lines }).Returns w go' ∧
          go = (structs.flatMap (Struct.lines key)).flatMap (· ++ [.char '\n']) ∧
          go' = ((structs.flatMap (Struct.lines key)).map Text.eraseTag).flatMap (· ++ [.char '\n']) ∧
          (({ lines } : Lines).OfDump → .char '\n' ∉ key → go' = Text.eraseTags go) := by
  refine ⟨c.structs_untagged _ w, fun structs hstructs => ?_⟩
  obtain ⟨hconvert, -⟩ := structs_returns_iff.1 hstructs
  rw [htypes] at hconvert
  have htags := tags_of_convert hconvert
  have hworded := worded_of_convert hconvert
  have huntagged : (c.structs false { lines }).Returns w (structs.map Struct.untagged) := by
    rw [returns_iff_result, structs_untagged, hstructs.result]
    rfl
  refine ⟨htags, fun s hs f hf => ?_, goSource key structs, goSource key (structs.map Struct.untagged),
    source_returns_of_key hkey hstructs, source_returns_of_key hkey huntagged, goSource_eq_lines key structs,
    goSource_untagged hworded key, fun hdump hbreak => ?_⟩
  · obtain ⟨tag, htag⟩ := Option.isSome_iff_exists.1 (tagged_of_convert hconvert s hs f hf)
    obtain ⟨⟨n, hline⟩, hlast⟩ := Struct.fieldLine_eq_eraseTag (hworded s hs f hf) htag key s
    exact ⟨tag, n, htag, hline, hlast⟩
  · obtain ⟨unbroken, hsame, hbreaks⟩ := hdump.unbroken
    rw [convert_congr hsame] at hconvert
    exact (eraseTags_goSource (legible_of_convert hbreaks hconvert) hbreak).symm

/-- A field with a short type, and one without a name. -/
theorem tags_only_add_of_users :
    let lines := Text.lines .inline "CREATE TABLE users (\n  user_id bigint,\n  _ text[] NOT NULL\n);".toText
    ∃ go, (({} : Converter).source true { lines }).Returns {} go ∧
      (({} : Converter).source false { lines }).Returns {} (Text.eraseTags go) := by
  intro lines
  have hkey : ({} : Converter).getTagKey.Returns {} "json".toText := ⟨_, rfl⟩
  let fields : List Field :=
    [{ name := "UserId".toText, goType := "int64".toText, tag := some "user_id".toText },
      { name := [], goType := "[]string".toText, tag := some "_".toText }]
  have hstructs : (({} : Converter).structs true { lines }).Returns {}
      [{ name := "User".toText, table := "users".toText, fields, nameWidth := 6, typeWidth := 8 }] :=
    structs_returns_iff.2 ⟨by decide +kernel, rfl⟩
  obtain ⟨-, -, go, go', hgo, hgo', -, -, herased⟩ := (tags_only_add rfl hkey lines).2 _ hstructs
  rw [herased (.text _) (by decide)] at hgo'
  exact ⟨go, hgo, hgo'⟩

end Converter
end TableStructs
