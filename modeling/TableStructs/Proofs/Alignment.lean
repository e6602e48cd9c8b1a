import TableStructs.Proofs.Layout
import TableStructs.Proofs.ReadBack

/-!
How the lines of a declaration are aligned. A struct that is built from nothing, one field after the
other, has the widths of its longest field name and of its longest tagged type whenever it is looked at
(`LaidOut.foldl_add`). So the types of all its fields stand under each other, and so do the tags; and the
widths are the least that leave a space everywhere, since a longest name and a longest type have no more
than one behind them. In which order the fields came makes no difference to their lines.
-/
namespace TableStructs.Struct

/-! ### The longest text -/

theorem longest_eq (texts : List Text) : longest texts = (texts.map List.length).max?.getD 0 := by
  rw [longest, List.foldl_max, Nat.zero_max]

theorem length_le_longest {texts : List Text} {t : Text} (h : t ∈ texts) : t.length ≤ longest texts := by
  rw [longest_eq]
  exact List.le_max?_getD_of_mem (List.mem_map_of_mem h)

theorem exists_longest {texts : List Text} (h : texts ≠ []) : ∃ t ∈ texts, t.length = longest texts := by
  obtain ⟨n, hn⟩ : ∃ n, (texts.map List.length).max? = some n := by
    cases texts with
    | nil => exact absurd rfl h
    | cons t rest => exact ⟨_, rfl⟩
  obtain ⟨t, ht, hlength⟩ := List.mem_map.1 (List.max?_eq_some_iff.1 hn).1
  exact ⟨t, ht, by rw [hlength, longest_eq, hn, Option.getD_some]⟩

theorem longest_perm {texts texts' : List Text} (h : texts.Perm texts') : longest texts = longest texts' := by
  unfold longest
  exact (h.map List.length).foldl_eq' (fun m _ n _ width => Nat.max_right_comm width m n) 0

/-! ### Places in a line -/

/-- A field in its line: two spaces, its name, `gap` more spaces, and its type, which begins at place
`typeAt`; if it has a tag, `tagGap` spaces and the tag, which begins at place `tagAt`. Places are
counted in code points from 0. -/
structure Placed (key : Text) (f : Field) (gap tagGap typeAt tagAt : Nat) (line : Text) : Prop where
  line_eq : line = "  ".toText ++ f.name ++ List.replicate gap (.char ' ') ++ f.goType ++
    f.tag.elim [] fun tag => List.replicate tagGap (.char ' ') ++ tagText key tag
  typeAt_eq : ("  ".toText ++ f.name ++ List.replicate gap (CodePoint.char ' ')).length = typeAt
  tagAt_eq : f.tag.isSome = true →
    ("  ".toText ++ f.name ++ List.replicate gap (CodePoint.char ' ') ++ f.goType ++
      List.replicate tagGap (CodePoint.char ' ')).length = tagAt

/-- A line with the gaps that the padding leaves. -/
theorem fieldLine_eq (key : Text) (s : Struct) (f : Field) :
    s.fieldLine key f =
      "  ".toText ++ f.name ++ List.replicate (s.nameWidth - f.name.length + 1) (.char ' ') ++ f.goType ++
        f.tag.elim [] fun tag =>
          List.replicate (s.typeWidth - f.goType.length + 1) (.char ' ') ++ tagText key tag := by
  cases htag : f.tag with
  | none => simp [fieldLine_of_untagged htag]
  | some tag => simp [fieldLine_of_tagged htag]

namespace LaidOut
variable {s : Struct} {f : Field}

theorem length_name_le (h : LaidOut s) (hf : f ∈ s.fields) : f.name.length ≤ s.nameWidth := by
  rw [h.nameWidth]
  exact length_le_longest (List.mem_map_of_mem hf)

theorem length_type_le (h : LaidOut s) (hf : f ∈ s.fields) (htag : f.tag.isSome = true) :
    f.goType.length ≤ s.typeWidth := by
  rw [h.typeWidth]
  exact length_le_longest (List.mem_map_of_mem (List.mem_filter.2 ⟨hf, htag⟩))

/-- **A field's type and tag** stand at the places that the widths of the struct give. -/
theorem placed (h : LaidOut s) (hf : f ∈ s.fields) (key : Text) :
    Placed key f (s.nameWidth - f.name.length + 1) (s.typeWidth - f.goType.length + 1)
      (3 + s.nameWidth) (4 + s.nameWidth + s.typeWidth) (s.fieldLine key f) where
  line_eq := fieldLine_eq key s f
  typeAt_eq := by
    have hname := h.length_name_le hf
    have hindent : "  ".toText.length = 2 := by decide
    rw [List.length_append, List.length_append, List.length_replicate, hindent]
    omega
  tagAt_eq htag := by
    have hname := h.length_name_le hf
    have htype := h.length_type_le hf htag
    have hindent : "  ".toText.length = 2 := by decide
    simp only [List.length_append, List.length_replicate, hindent]
    omega

/-- A longest name has one space behind it. -/
theorem exists_narrow_name (h : LaidOut s) (hne : s.fields ≠ []) :
    ∃ f ∈ s.fields, s.nameWidth - f.name.length + 1 = 1 := by
  obtain ⟨name, hname, hlength⟩ := exists_longest (fun hnil => hne (List.map_eq_nil_iff.1 hnil))
  obtain ⟨f, hf, rfl⟩ := List.mem_map.1 hname
  exact ⟨f, hf, by rw [h.nameWidth, hlength, Nat.sub_self]⟩

/-- A longest type of a tagged field has one space behind it. -/
theorem exists_narrow_type (h : LaidOut s) (htagged : ∃ f ∈ s.fields, f.tag.isSome = true) :
    ∃ f ∈ s.fields, f.tag.isSome = true ∧ s.typeWidth - f.goType.length + 1 = 1 := by
  obtain ⟨g, hg, htag⟩ := htagged
  have hne : (s.fields.filter (·.tag.isSome)).map (·.goType) ≠ [] := by
    intro hnil
    have hmem : g ∈ s.fields.filter (·.tag.isSome) := List.mem_filter.2 ⟨hg, htag⟩
    rw [List.map_eq_nil_iff.1 hnil] at hmem
    cases hmem
  obtain ⟨goType, hgo, hlength⟩ := exists_longest hne
  obtain ⟨f, hf, rfl⟩ := List.mem_map.1 hgo
  obtain ⟨hf, htag⟩ := List.mem_filter.1 hf
  exact ⟨f, hf, htag, by rw [h.typeWidth, hlength, Nat.sub_self]⟩

/-- In which order fields stand makes no difference to the widths. -/
theorem widths_perm {t : Struct} (hs : LaidOut s) (ht : LaidOut t) (h : t.fields.Perm s.fields) :
    t.nameWidth = s.nameWidth ∧ t.typeWidth = s.typeWidth := by
  rw [hs.nameWidth, hs.typeWidth, ht.nameWidth, ht.typeWidth]
  exact ⟨longest_perm (h.map _), longest_perm ((h.filter _).map _)⟩

end LaidOut

/-- **Alignment.** A struct to which fields have been added one by one, tagged or not, has as its
widths the greatest length of a name and, among the tagged fields, of a type. In its declaration each
field has a line of its own; all types begin at one place and all tags at another, which are the least
places that leave a space in front. Fields that are added in another order have the same lines. -/
theorem aligned_of_fields (name table : Text) (fields : List Field) :
    let s := fields.foldl add { name, table }
    s.fields = fields ∧
    s.nameWidth = (fields.map (·.name.length)).max?.getD 0 ∧
    s.typeWidth = ((fields.filter (·.tag.isSome)).map (·.goType.length)).max?.getD 0 ∧
    (∀ key,
      s.render key =
        (s.openingLine :: fields.map (s.fieldLine key) ++ ["\x7d".toText, []]).flatMap (· ++ [.char '\n']) ∧
      (∀ f ∈ fields, ∃ gap tagGap, Placed key f (gap + 1) (tagGap + 1) (3 + s.nameWidth)
        (4 + s.nameWidth + s.typeWidth) (s.fieldLine key f)) ∧
      (fields ≠ [] → ∃ f ∈ fields, ∃ tagGap, Placed key f 1 tagGap (3 + s.nameWidth)
        (4 + s.nameWidth + s.typeWidth) (s.fieldLine key f)) ∧
      ((∃ f ∈ fields, f.tag.isSome = true) → ∃ f ∈ fields, f.tag.isSome = true ∧ ∃ gap,
        Placed key f gap 1 (3 + s.nameWidth) (4 + s.nameWidth + s.typeWidth) (s.fieldLine key f))) ∧
    ∀ fields' : List Field, fields'.Perm fields →
      let t := fields'.foldl add { name, table }
      t.nameWidth = s.nameWidth ∧ t.typeWidth = s.typeWidth ∧
        ∀ key, t.fields.map (t.fieldLine key) = fields'.map (s.fieldLine key) := by
  intro s
  have hlaid : LaidOut s := (LaidOut.empty name table).foldl_add fields
  have hfields : s.fields = fields := (fields_foldl_add fields { name, table }).1
  refine ⟨hfields, ?_, ?_, fun key => ⟨?_, fun f hf => ?_, fun hne => ?_, fun htagged => ?_⟩,
    fun fields' hperm => ?_⟩
  · rw [hlaid.nameWidth, longest_eq, hfields, List.map_map]
    rfl
  · rw [hlaid.typeWidth, longest_eq, hfields, List.map_map]
    rfl
  · rw [render_eq_lines, lines, hfields]
  · exact ⟨_, _, hlaid.placed (hfields ▸ hf) key⟩
  · rw [← hfields] at hne ⊢
    obtain ⟨f, hf, hgap⟩ := hlaid.exists_narrow_name hne
    exact ⟨f, hf, _, hgap ▸ hlaid.placed hf key⟩
  · rw [← hfields] at htagged ⊢
    obtain ⟨f, hf, htag, hgap⟩ := hlaid.exists_narrow_type htagged
    exact ⟨f, hf, htag, _, hgap ▸ hlaid.placed hf key⟩
  · intro t
    have hlaid' : LaidOut t := (LaidOut.empty name table).foldl_add fields'
    have hfields' : t.fields = fields' := (fields_foldl_add fields' { name, table }).1
    obtain ⟨hnames, htypes⟩ := hlaid.widths_perm hlaid' (by rwa [hfields, hfields'])
    exact ⟨hnames, htypes, fun key => by rw [hfields', fieldLine_of_widths key hnames htypes]⟩

end TableStructs.Struct
