import TableStructs.Proofs.Call
import TableStructs.Proofs.Layout
import TableStructs.Proofs.Names
import TableStructs.Proofs.Padding
import TableStructs.Proofs.ReadBack

/-!
What a conversion makes can be read back. Its lines come from a text or from a file, and both are cut
at line feeds, so no name has one in it (`OfDump.unbroken`); columns are cut at spaces; and the types
are those of the rules. So the structs of a dump are legible (`legible_of_convert`), and their source
tells them apart (`source_eq_iff`).
-/
namespace TableStructs

/-! ### Lines without line feeds -/

/-- The lines of an input, which is a text or a file. -/
inductive Lines.OfDump : Lines → Prop
  | text (s : Text) : OfDump { lines := Text.lines .inline s }
  | file (encoding : Encoding) (bytes : List UInt8) : OfDump (Encoding.fileLines encoding bytes)

namespace Text.Cut
variable {b : Breaks} {s : Cut}

/-- No line has a line feed in it, apart from what it keeps of its end. -/
structure Unbroken (b : Breaks) (s : Cut) : Prop where
  completed : ∀ line ∈ s.completed, ∃ l, .char '\n' ∉ l ∧ (line = l ∨ line = l ++ b.kept)
  begun : .char '\n' ∉ s.begun

namespace Unbroken

theorem initial : Unbroken b {} := ⟨nofun, List.not_mem_nil⟩

theorem complete (h : Unbroken b s) : Unbroken b (s.complete b) where
  completed line hline := by
    rcases List.mem_cons.1 hline with rfl | hline
    · exact ⟨s.begun.reverse, by simpa using h.begun, .inr rfl⟩
    · exact h.completed line hline
  begun := List.not_mem_nil

theorem read (hb : b.breaks '\n' = true) (h : Unbroken b s) (c : CodePoint) : Unbroken b (s.read b c) := by
  unfold Cut.read
  split
  · exact ⟨h.completed, h.begun⟩
  split
  · exact h.complete
  · next hbreak =>
    refine ⟨h.completed, ?_⟩
    rw [List.mem_cons, not_or]
    exact ⟨fun hc => hbreak (hc ▸ hb), h.begun⟩

theorem next (hb : b.breaks '\n' = true) (h : Unbroken b s) (c : CodePoint) : Unbroken b (s.next b c) := by
  unfold Cut.next
  split
  · split
    · exact h.complete
    · exact h.complete.read hb c
  · exact h.read hb c

theorem feed (hb : b.breaks '\n' = true) (h : Unbroken b s) (text : Text) : Unbroken b (s.feed b text) := by
  induction text generalizing s with
  | nil => exact h
  | cons c text ih => exact ih (h.next hb c)

theorem finish (h : Unbroken b s) : Unbroken b (s.finish b) := by
  unfold Cut.finish
  split
  · exact h.complete
  split
  · exact h
  · refine ⟨fun line hline => ?_, List.not_mem_nil⟩
    rcases List.mem_cons.1 hline with rfl | hline
    · exact ⟨s.begun.reverse, by simpa using h.begun, .inl rfl⟩
    · exact h.completed line hline

theorem lines (h : Unbroken b s) : ∀ line ∈ s.lines, ∃ l, .char '\n' ∉ l ∧ (line = l ∨ line = l ++ b.kept) :=
  fun line hline => h.completed line (List.mem_reverse.1 hline)

end Unbroken
end Text.Cut

theorem Encoding.unbroken_fileLines (encoding : Encoding) (bytes : List UInt8) :
    ∀ line ∈ (encoding.fileLines bytes).lines, ∃ l, .char '\n' ∉ l ∧ (line = l ∨ line = l ++ [.char '\n']) := by
  have hfeed : (({} : Text.Cut).feed .ofFile (encoding.read bytes).text).Unbroken .ofFile :=
    Text.Cut.Unbroken.initial.feed rfl _
  unfold fileLines Decoded.lines
  simp only
  split
  · exact hfeed.lines
  · exact hfeed.finish.lines

/-- **The lines of a dump** say what lines without line feeds say. -/
theorem Lines.OfDump.unbroken {input : Lines} (h : input.OfDump) :
    ∃ lines, List.Forall₂ SayTheSame input.lines lines ∧ ∀ line ∈ lines, .char '\n' ∉ line := by
  have hsame {kept line : Text} (hkept : kept.all Text.isBlank = true) :
      (∃ l, .char '\n' ∉ l ∧ (line = l ∨ line = l ++ kept)) → ∃ l, .char '\n' ∉ l ∧ SayTheSame line l := by
    rintro ⟨l, hl, rfl | rfl⟩
    · exact ⟨_, hl, fun _ _ _ => rfl⟩
    · exact ⟨l, hl, sayTheSame_append hkept l⟩
  have hlines : ∀ line ∈ input.lines, ∃ l, .char '\n' ∉ l ∧ SayTheSame line l := by
    cases h with
    | text s =>
      exact fun line hline => hsame rfl ((Text.Cut.Unbroken.initial.feed rfl s).finish.lines line hline)
    | file encoding bytes =>
      exact fun line hline => hsame rfl (Encoding.unbroken_fileLines encoding bytes line hline)
  generalize input.lines = given at hlines
  induction given with
  | nil => exact ⟨[], .nil, nofun⟩
  | cons line given ih =>
    obtain ⟨l, hl, hsame⟩ := hlines line List.mem_cons_self
    obtain ⟨lines, hrest, hbreaks⟩ := ih fun line' h' => hlines line' (List.mem_cons_of_mem line h')
    exact ⟨l :: lines, .cons hsame hrest, List.forall_mem_cons.2 ⟨hl, hbreaks⟩⟩

/-! ### Structs of a dump -/

/-- The built-in types are words. -/
theorem builtin_goTypes : ∀ go ∈ TypeTable.builtin.goTypes, go ≠ [] ∧ .char ' ' ∉ go ∧ .char '\n' ∉ go := by
  decide +kernel

section
variable {tagged : Bool} {line : Text}

/-- A field whose name and type are words. -/
structure Field.Worded (f : Field) : Prop where
  name_space : .char ' ' ∉ f.name
  type_ne_nil : f.goType ≠ []
  type_space : .char ' ' ∉ f.goType

/-- Columns are cut at spaces, and no built-in type has one in it. -/
theorem Field.worded_of_line {f : Field} (h : Field.ofLine .builtin tagged line none = .ok f) : f.Worded := by
  obtain ⟨column, goType, hcolumn, hgo, rfl⟩ := Field.ofLine_eq_ok h
  obtain ⟨hne, hspace, -⟩ := builtin_goTypes goType (TypeTable.mem_goTypes hgo)
  exact ⟨fun hc => (mem_camelCase hc).elim (Column.space_not_mem_name hcolumn) (by decide), hne, hspace⟩

theorem Field.legible_of_line {f : Field} (hline : .char '\n' ∉ line)
    (h : Field.ofLine .builtin tagged line none = .ok f) : f.Legible := by
  obtain ⟨hspace, hne, htype⟩ := Field.worded_of_line h
  obtain ⟨column, goType, hcolumn, hgo, rfl⟩ := Field.ofLine_eq_ok h
  have hname : .char '\n' ∉ column.name := fun hc => hline (Column.name_subset hcolumn hc)
  have hbreak : .char '\n' ∉ goType := (builtin_goTypes goType (TypeTable.mem_goTypes hgo)).2.2
  refine ⟨hspace, fun hc => (mem_camelCase hc).elim hname (by decide), hne, htype, hbreak, fun tag htag => ?_⟩
  simp only [ofColumn] at htag
  split at htag
  · cases htag
    exact hname
  · cases htag

/-- The fields of a conversion are made of words, whatever its lines are. -/
theorem worded_of_convert {lines : List Text} {structs : List Struct}
    (h : (convert .builtin tagged lines).result = .ok structs) : ∀ s ∈ structs, ∀ f ∈ s.fields, f.Worded := by
  refine forall_of_convert (fun _ _ _ _ => nofun) (fun line _ f s hf hs g hg => ?_) h
  rcases List.mem_append.1 hg with hg | hg
  · exact hs g hg
  · rw [List.mem_singleton.1 hg]
    exact Field.worded_of_line hf

/-- **Structs are legible** if the lines of their dump have no line feeds in them. -/
theorem legible_of_convert {lines : List Text} {structs : List Struct}
    (hlines : ∀ line ∈ lines, .char '\n' ∉ line)
    (h : (convert .builtin tagged lines).result = .ok structs) : ∀ s ∈ structs, s.Legible := by
  refine forall_of_convert (fun line hl table htable => ⟨fun hc => ?_, nofun⟩) ?_ h
  · exact (mem_structName hc).elim (fun hc => hlines line hl (headerTable?_subset htable hc)) (by decide)
  · intro line hl f s hf hs
    have hlegible := Field.legible_of_line (hlines line hl) hf
    refine ⟨hs.name, fun g hg => ?_⟩
    rcases List.mem_append.1 hg with hg | hg
    · exact hs.fields g hg
    · rwa [List.mem_singleton.1 hg]

/-- The layout of a struct can be told from its declaration. -/
theorem Struct.LaidOut.struct_declaration {s : Struct} (h : s.LaidOut) :
    s.declaration.struct = { s with table := [] } := by
  have hlaid := (Struct.LaidOut.empty s.name []).foldl_add s.fields
  obtain ⟨hfields, hname, htable⟩ := Struct.fields_foldl_add s.fields { name := s.name }
  exact hlaid.eq ⟨h.nameWidth, h.typeWidth⟩ hname htable hfields

/-- Laid-out structs have the same source if they have the same declarations. -/
theorem goSource_of_declarations {structs structs' : List Struct} (h : ∀ s ∈ structs, s.LaidOut)
    (h' : ∀ s ∈ structs', s.LaidOut) (heq : structs.map Struct.declaration = structs'.map Struct.declaration)
    (key : Text) : goSource key structs = goSource key structs' := by
  induction structs generalizing structs' with
  | nil =>
    rw [List.map_nil] at heq
    rw [List.map_eq_nil_iff.1 heq.symm]
  | cons s structs ih =>
    cases structs' with
    | nil => cases heq
    | cons t structs' =>
      rw [List.map_cons, List.map_cons, List.cons.injEq] at heq
      obtain ⟨hdeclaration, hrest⟩ := heq
      have hrender : s.render key = t.render key :=
        (h s List.mem_cons_self).render_eq (h' t List.mem_cons_self) (congrArg Declaration.name hdeclaration)
          (congrArg Declaration.fields hdeclaration) key
      have htail := ih (fun u hu => h u (List.mem_cons_of_mem s hu))
        (fun u hu => h' u (List.mem_cons_of_mem t hu)) hrest
      rw [goSource, List.flatMap_cons, hrender, ← goSource, htail]
      rfl

end

/-! ### Sources of dumps -/

namespace Converter
open TableStructs.Action
variable {c : Converter} {w : Workspace} {tagged : Bool} {input : Lines} {structs : List Struct} {key : Text}

/-- The key of tags depends on nothing but the settings to be read. -/
theorem getTagKey_congr {v : Workspace} (h : w.settings? = v.settings?) :
    c.getTagKey.result w = c.getTagKey.result v := by
  have hsettings : getSettings.result w = getSettings.result v := by
    simp only [result, getSettings_run, h]
    cases v.settings? <;> rfl
  unfold getTagKey
  split
  · rfl
  · rw [result_bind, result_bind, hsettings]
    cases getSettings.result v <;> rfl

theorem render_congr {v : Workspace} (h : w.settings? = v.settings?) (structs : List Struct) :
    (c.render structs).result w = (c.render structs).result v := by
  simp only [render]
  split
  · rw [result_bind, result_bind, getTagKey_congr h]
    cases c.getTagKey.result v <;> rfl
  · rfl

theorem structs_returns_iff :
    (c.structs tagged input).Returns w structs ↔
      (convert c.types tagged input.lines).result = .ok structs ∧ input.failure = none := by
  rw [returns_iff_result, result_structs]
  cases (convert c.types tagged input.lines).result with
  | error e => simp
  | ok structs' => cases input.failure <;> simp

/-- The source of a dump has its tags under the key that there is. -/
theorem source_returns_of_key (hkey : c.getTagKey.Returns w key)
    (h : (c.structs tagged input).Returns w structs) :
    (c.source tagged input).Returns w (goSource key structs) := by
  have hquiet := (quiet_structs c tagged input).settings? w
  rw [returns_iff_result, source, result_bind, h.result]
  simp only [render]
  split
  · rw [result_bind, getTagKey_congr hquiet, hkey.result]
    rfl
  · next huntagged =>
    exact congrArg Except.ok (goSource_of_untagged (eq_false_of_ne_true huntagged) [] key)

/-- **Sources tell dumps apart.** Two dumps that convert have the same source, under a key of tags
without line feeds, if and only if their structs agree in name and in the name, type and tag of each
field, in order. From a source the structs are read back with their layout, less the names of their
tables. -/
theorem source_eq_iff (htypes : c.types = .builtin) {w' : Workspace} {input' : Lines} {structs' : List Struct}
    (hkey : c.getTagKey.Returns w key) (hkey' : c.getTagKey.Returns w' key) (hbreak : .char '\n' ∉ key)
    (hinput : input.OfDump) (hinput' : input'.OfDump) (h : (c.structs tagged input).Returns w structs)
    (h' : (c.structs tagged input').Returns w' structs') :
    ∃ go go', (c.source tagged input).Returns w go ∧ (c.source tagged input').Returns w' go' ∧
      (go = go' ↔ structs.map Struct.declaration = structs'.map Struct.declaration) ∧
      (Declaration.ofSource key go).map Declaration.struct = structs.map ({ · with table := [] }) ∧
      (Declaration.ofSource key go').map Declaration.struct = structs'.map ({ · with table := [] }) := by
  have hread {input : Lines} {w : Workspace} {structs : List Struct} (hinput : input.OfDump)
      (h : (c.structs tagged input).Returns w structs) :
      (∀ s ∈ structs, s.LaidOut) ∧
        Declaration.ofSource key (goSource key structs) = structs.map Struct.declaration := by
    obtain ⟨hconvert, -⟩ := structs_returns_iff.1 h
    obtain ⟨lines, hsame, hlines⟩ := hinput.unbroken
    have hlaid := laidOut_of_convert hconvert
    rw [htypes, convert_congr hsame] at hconvert
    exact ⟨hlaid, Declaration.ofSource_goSource (legible_of_convert hlines hconvert) hbreak⟩
  have hlayout {structs : List Struct} (hlaid : ∀ s ∈ structs, s.LaidOut) :
      (structs.map Struct.declaration).map Declaration.struct = structs.map ({ · with table := [] }) := by
    rw [List.map_map]
    exact List.map_congr_left fun s hs => (hlaid s hs).struct_declaration
  obtain ⟨hlaid, hgo⟩ := hread hinput h
  obtain ⟨hlaid', hgo'⟩ := hread hinput' h'
  refine ⟨goSource key structs, goSource key structs', source_returns_of_key hkey h,
    source_returns_of_key hkey' h', ⟨fun heq => ?_, fun heq => ?_⟩, ?_, ?_⟩
  · rw [← hgo, ← hgo', heq]
  · exact goSource_of_declarations hlaid hlaid' heq key
  · rw [hgo, hlayout hlaid]
  · rw [hgo', hlayout hlaid']

/-- Tables that differ in name only, one as a text and one in a file, and a field without a name. -/
theorem source_eq_of_user :
    let input : Lines := { lines := Text.lines .inline "CREATE TABLE users (\n _ text,\n id bigint\n);".toText }
    let input' :=
      Encoding.fileLines .utf8 "CREATE TABLE public.user (\r\n _ uuid,\r\n id bigint\r\n);".toUTF8.toList
    ∃ go, (({} : Converter).source true input).Returns {} go ∧
      (({} : Converter).source true input').Returns {} go := by
  intro input input'
  let fields : List Field :=
    [{ name := [], goType := "string".toText, tag := some "_".toText },
      { name := "Id".toText, goType := "int64".toText, tag := some "id".toText }]
  let user (table : Text) : Struct :=
    { name := "User".toText, table, fields, nameWidth := 2, typeWidth := 6 }
  have hkey : ({} : Converter).getTagKey.Returns {} "json".toText := ⟨_, rfl⟩
  have h : (({} : Converter).structs true input).Returns {} [user "users".toText] :=
    structs_returns_iff.2 ⟨by decide +kernel, rfl⟩
  have h' : (({} : Converter).structs true input').Returns {} [user "user".toText] :=
    structs_returns_iff.2 ⟨by decide +kernel, by decide +kernel⟩
  obtain ⟨go, go', hgo, hgo', hiff, -⟩ :=
    source_eq_iff rfl hkey hkey (by decide) (.text _) (.file _ _) h h'
  obtain rfl : go = go' := hiff.2 rfl
  exact ⟨go, hgo, hgo'⟩

end Converter
end TableStructs
