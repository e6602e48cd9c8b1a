import TableStructs.Proofs.Run

/-!
How structs are laid out. The two widths of a struct are those of its longest field name and of its
longest type before a tag (`Struct.LaidOut`), so the text of a declaration depends on nothing but the
struct's name and fields (`Struct.LaidOut.render_eq`).

That every struct of a conversion has a property, as this one, needs two things only: the struct of a
table has it when the table is opened, and no field takes it away (`forall_of_convert`).
-/
namespace TableStructs

namespace Struct

/-- The length of the longest text, 0 if there is none. -/
def longest (texts : List Text) : Nat := (texts.map List.length).foldl max 0

theorem longest_concat (texts : List Text) (last : Text) :
    longest (texts ++ [last]) = max (longest texts) last.length := by
  simp [longest]

/-- The widths are those of the longest field name and of the longest type of a tagged field. -/
structure LaidOut (s : Struct) : Prop where
  nameWidth : s.nameWidth = longest (s.fields.map (·.name))
  typeWidth : s.typeWidth = longest ((s.fields.filter (·.tag.isSome)).map (·.goType))

/-- Fields are added at the end, and change neither the name nor the table. -/
theorem fields_foldl_add (fields : List Field) (s : Struct) :
    (fields.foldl add s).fields = s.fields ++ fields ∧ (fields.foldl add s).name = s.name ∧
      (fields.foldl add s).table = s.table := by
  induction fields generalizing s with
  | nil => simp
  | cons f rest ih =>
    obtain ⟨hfields, hname, htable⟩ := ih (s.add f)
    refine ⟨?_, hname, htable⟩
    rw [List.foldl_cons, hfields]
    simp [add]

/-- Of its struct, a field's line needs the widths only. -/
theorem fieldLine_of_widths {s t : Struct} (key : Text) (hnames : s.nameWidth = t.nameWidth)
    (htypes : s.typeWidth = t.typeWidth) : s.fieldLine key = t.fieldLine key := by
  funext f
  rw [fieldLine, fieldLine, hnames, htypes]

namespace LaidOut
variable {s t : Struct}

/-- A struct without fields. -/
theorem empty (name table : Text) : LaidOut { name, table } := ⟨rfl, rfl⟩

theorem add (h : LaidOut s) (f : Field) : LaidOut (s.add f) where
  nameWidth := by
    simp only [Struct.add, List.map_append, List.map_singleton, longest_concat, h.nameWidth]
  typeWidth := by
    simp only [Struct.add, List.filter_append, List.map_append]
    cases hf : f.tag.isSome with
    | true => simp [hf, longest_concat, h.typeWidth]
    | false => simp [hf, h.typeWidth]

theorem foldl_add (h : LaidOut s) (fields : List Field) : LaidOut (fields.foldl Struct.add s) := by
  induction fields generalizing s with
  | nil => exact h
  | cons f rest ih => exact ih (h.add f)

/-- The widths of a struct follow from its fields. -/
theorem widths_eq (hs : LaidOut s) (ht : LaidOut t) (hfields : s.fields = t.fields) :
    s.nameWidth = t.nameWidth ∧ s.typeWidth = t.typeWidth :=
  ⟨by rw [hs.nameWidth, ht.nameWidth, hfields], by rw [hs.typeWidth, ht.typeWidth, hfields]⟩

theorem eq (hs : LaidOut s) (ht : LaidOut t) (hname : s.name = t.name) (htable : s.table = t.table)
    (hfields : s.fields = t.fields) : s = t := by
  obtain ⟨hnames, htypes⟩ := hs.widths_eq ht hfields
  cases s
  cases t
  simp_all

/-- **The text of a declaration** follows from the struct's name and its fields. -/
theorem render_eq (hs : LaidOut s) (ht : LaidOut t) (hname : s.name = t.name) (hfields : s.fields = t.fields)
    (key : Text) : s.render key = t.render key := by
  obtain ⟨hnames, htypes⟩ := hs.widths_eq ht hfields
  unfold render
  rw [hname, hfields, fieldLine_of_widths key hnames htypes]

end LaidOut
end Struct

/-! ### Properties of all structs of a conversion -/

namespace Conversion.State
variable {types : TypeTable} {tagged : Bool} {P : Struct → Prop} {lines : List Text}

/-- All structs so far, the open one among them, have a property. -/
structure Every (P : Struct → Prop) (s : State) : Prop where
  current : ∀ t ∈ s.current, P t
  finished : ∀ t ∈ s.finished, P t

/-- One more line. -/
theorem Every.follow {s : State} (h : Every P s) {r : Reading}
    (hopen : ∀ table, r = .opens table → P (Struct.ofTable table))
    (hadd : ∀ f t, r = .adds f → P t → P (t.add f)) : Every P (s.follow r) where
  current := by
    rw [current_follow]
    cases r with
    | opens table =>
      intro t ht
      rw [← Option.some.inj ht]
      exact hopen table rfl
    | adds f =>
      intro t ht
      obtain ⟨u, hu, rfl⟩ := Option.map_eq_some_iff.1 ht
      exact hadd f u rfl (h.current u hu)
    | nameless e | closes => exact fun t ht => nomatch ht
    | faulty e | constraint | nothing => exact h.current
  finished := by
    rw [finished_follow]
    split
    · intro t ht
      rcases List.mem_append.1 ht with ht | ht
      · exact h.finished t ht
      · exact h.current t (Option.mem_toList.1 ht)
    · exact h.finished

theorem Every.run {s t : State} (h : Every P s)
    (hopen : ∀ line ∈ lines, ∀ table, headerTable? line = some table → P (Struct.ofTable table))
    (hadd : ∀ line ∈ lines, ∀ f u, Field.ofLine types tagged line none = .ok f → P u → P (u.add f))
    (ht : s.run types tagged lines = (t, none)) : Every P t := by
  induction lines generalizing s with
  | nil =>
    cases ht
    exact h
  | cons line rest ih =>
    obtain ⟨-, hrest⟩ := pass_of_run_cons ht
    have hnext := h.follow (r := Reading.ofLine types tagged line s.current.isSome)
      (fun table hr => hopen line List.mem_cons_self table (Reading.headerTable?_of_opens hr))
      (fun f u hr => hadd line List.mem_cons_self f u (Reading.field_of_adds hr))
    exact ih hnext (fun l hl => hopen l (List.mem_cons_of_mem line hl))
      (fun l hl => hadd l (List.mem_cons_of_mem line hl)) hrest

end Conversion.State

section
variable {types : TypeTable} {tagged : Bool} {P : Struct → Prop} {lines : List Text} {structs : List Struct}

/-- **All structs of a conversion** have a property that structs have without fields and keep with
each further one, for the tables and fields that the lines give. -/
theorem forall_of_convert
    (hopen : ∀ line ∈ lines, ∀ table, headerTable? line = some table → P (Struct.ofTable table))
    (hadd : ∀ line ∈ lines, ∀ f u, Field.ofLine types tagged line none = .ok f → P u → P (u.add f))
    (h : (convert types tagged lines).result = .ok structs) : ∀ s ∈ structs, P s := by
  obtain ⟨t, ht, rfl⟩ := convert_ok_iff.1 h
  have hstart : Conversion.State.Every P {} := ⟨nofun, nofun⟩
  exact (hstart.run hopen hadd ht).finished

theorem laidOut_of_convert (h : (convert types tagged lines).result = .ok structs) :
    ∀ s ∈ structs, s.LaidOut :=
  forall_of_convert (fun _ _ table _ => .empty _ table) (fun _ _ f _ _ hu => hu.add f) h

end
end TableStructs
