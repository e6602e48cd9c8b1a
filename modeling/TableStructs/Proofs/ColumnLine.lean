import TableStructs.Proofs.Padding

/-!
The lines of columns. A column stands on a line of its own: white space, its name, a space, its type,
maybe a comma, and maybe more behind a further space. Inside a table such a line is read as that name
and that type (`ColumnLine.ofLine?_text`), so that what becomes of it is up to the type alone
(`ColumnLine.reading_text`).
-/
namespace TableStructs

namespace Text

/-! ### Solid ends -/

theorem trimLeft_of_solid {s : Text} (h : ∀ c ∈ s.head?, isBlank c = false) : trimLeft s = s := by
  cases s with
  | nil => rfl
  | cons c s => simp [trimLeft, h c rfl]

theorem trimLeft_append_of_solid {s : Text} (hne : s ≠ []) (h : ∀ c ∈ s.head?, isBlank c = false)
    (b : Text) : trimLeft (s ++ b) = s ++ b := by
  apply trimLeft_of_solid
  rwa [List.head?_append_of_ne_nil _ hne]

theorem trimRight_append_of_solid {s : Text} (h : ∀ c ∈ s.getLast?, isBlank c = false) (b : Text) :
    trimRight (s ++ b) = s ++ trimRight b := by
  have hback : trimLeft s.reverse = s.reverse :=
    trimLeft_of_solid fun c hc => h c (by rwa [List.head?_reverse] at hc)
  have hend : trimRight (s ++ b) = (trimLeft (b.reverse ++ s.reverse)).reverse := by
    rw [← List.reverse_append]
    rfl
  rw [hend, trimLeft_append]
  split
  · next hb =>
    have hnil := trimRight_append_of_blank [] (show b.all isBlank = true by simpa using hb)
    rw [List.nil_append] at hnil
    rw [hback, List.reverse_reverse, hnil]
    exact (List.append_nil s).symm
  · rw [List.reverse_append, List.reverse_reverse]
    rfl

theorem trimRight_of_solid {s : Text} (h : ∀ c ∈ s.getLast?, isBlank c = false) : trimRight s = s := by
  have hend := trimRight_append_of_solid h []
  rwa [List.append_nil, show trimRight [] = [] from rfl, List.append_nil] at hend

theorem trimRight_prefix (s : Text) : trimRight s <+: s := by
  have h : trimLeft s.reverse <:+ s.reverse := List.dropWhile_suffix _
  rw [← List.reverse_prefix, List.reverse_reverse] at h
  exact h

end Text

namespace Printed

/-! ### Words -/

/-- A name or a type: not empty, and without white space. -/
structure Word where
  text : Text
  ne_nil : text ≠ []
  solid : ∀ c ∈ text, Text.isBlank c = false

namespace Word

/-- A text as a word. -/
def ofText (text : Text) (h : (!text.isEmpty && text.all fun c => !Text.isBlank c) = true) : Word where
  text := text
  ne_nil := by simpa using (Bool.and_eq_true_iff.1 h).1
  solid := by simpa using (Bool.and_eq_true_iff.1 h).2

variable (word : Word)

theorem space_not_mem : .char ' ' ∉ word.text := fun h =>
  absurd (word.solid ' ' h) (by decide)

theorem trim_text : Text.trim word.text = word.text := by
  rw [Text.trim, Text.trimLeft_of_solid fun d hd => word.solid d (List.mem_of_head? hd),
    Text.trimRight_of_solid fun d hd => word.solid d (List.mem_of_getLast? hd)]

end Word

/-! ### Column lines -/

/-- The line of a column, whatever its type. A constraint has the same look, but for its first word. -/
structure ColumnLine where
  indent : Text
  name : Word
  sqlType : Word
  comma : Bool
  more : Option Text
  indent_blank : indent.all Text.isBlank = true
  name_ne : name.text ≠ constraintWord
  sqlType_end : sqlType.text.getLast? ≠ some (.char ',')

namespace ColumnLine

/-- The column's type, with its comma. -/
def typeText (l : ColumnLine) : Text := l.sqlType.text ++ if l.comma then [.char ','] else []

/-- What stands behind the type. -/
def moreText (l : ColumnLine) : Text := l.more.elim [] (.char ' ' :: ·)

/-- The line itself. -/
def text (l : ColumnLine) : Text :=
  l.indent ++ (l.name.text ++ .char ' ' :: (l.typeText ++ l.moreText))

/-- The column on the line. -/
def column (l : ColumnLine) : Column := ⟨l.name.text, l.sqlType.text⟩

variable (l : ColumnLine)

theorem typeText_solid : ∀ d ∈ l.typeText, Text.isBlank d = false := by
  intro d hd
  rcases List.mem_append.1 hd with hd | hd
  · exact l.sqlType.solid d hd
  · split at hd
    · rw [List.mem_singleton.1 hd]
      decide
    · cases hd

theorem space_not_mem_typeText : .char ' ' ∉ l.typeText := fun h =>
  absurd (l.typeText_solid ' ' h) (by decide)

theorem dropEnd_typeText : Text.dropEnd ',' l.typeText = l.sqlType.text := by
  cases hcomma : l.comma with
  | true => simp [typeText, hcomma, Text.dropEnd]
  | false => simp [typeText, hcomma, Text.dropEnd, l.sqlType_end]

theorem trimLeft_text : Text.trimLeft l.text = l.name.text ++ .char ' ' :: (l.typeText ++ l.moreText) := by
  rw [text, Text.trimLeft_append_of_blank l.indent_blank]
  exact Text.trimLeft_append_of_solid l.name.ne_nil
    (fun d hd => l.name.solid d (List.mem_of_head? hd)) _

theorem trim_text : Text.trim l.text =
    l.name.text ++ .char ' ' :: (l.typeText ++ Text.trimRight l.moreText) := by
  have hne : l.typeText ≠ [] := by simp [typeText, l.sqlType.ne_nil]
  have hsolid : ∀ d ∈ (l.name.text ++ .char ' ' :: l.typeText).getLast?, Text.isBlank d = false := by
    rw [List.getLast?_append_of_ne_nil _ (by simp), List.getLast?_cons_of_ne_nil hne]
    exact fun d hd => l.typeText_solid d (List.mem_of_getLast? hd)
  have hend := Text.trimRight_append_of_solid hsolid l.moreText
  rw [Text.trim, l.trimLeft_text]
  simpa using hend

/-- The first pieces of a column line, whatever stands behind the type. -/
theorem split_trim : ∃ others,
    Text.split ' ' (Text.trim l.text) = l.name.text :: l.typeText :: others := by
  rw [l.trim_text, Text.split_append l.name.space_not_mem]
  have hmore : Text.trimRight l.moreText = [] ∨ ∃ s, Text.trimRight l.moreText = .char ' ' :: s := by
    have h := Text.trimRight_prefix l.moreText
    cases hm : l.more with
    | none =>
      rw [show l.moreText = [] by simp [moreText, hm]]
      exact .inl rfl
    | some more =>
      rw [show l.moreText = .char ' ' :: more by simp [moreText, hm]] at h ⊢
      exact (List.prefix_cons_iff.1 h).imp_right fun ⟨s, hs, _⟩ => ⟨s, hs⟩
  rcases hmore with h | ⟨s, h⟩
  · exact ⟨[], by rw [h, List.append_nil, Text.split_eq_singleton l.space_not_mem_typeText]⟩
  · exact ⟨Text.split ' ' s, by rw [h, Text.split_append l.space_not_mem_typeText]⟩

theorem ofLine?_text : Column.ofLine? l.text = some l.column := by
  obtain ⟨others, hsplit⟩ := l.split_trim
  simp only [Column.ofLine?, hsplit, l.dropEnd_typeText]
  rfl

theorem firstWord_text : Text.firstWord l.text = l.name.text := by
  have hall : ∀ d ∈ l.name.text, (!Text.isBlank d) = true := fun d hd => by simp [l.name.solid d hd]
  rw [Text.firstWord, l.trimLeft_text, List.takeWhile_append_of_pos hall]
  simp [show Text.isBlank ' ' = true by decide]

/-- A column line that holds no header's mark is one to the passes, inside a table. -/
theorem kind_text (h : Text.has headerMark l.text = false) : LineKind.ofLine l.text true = .column := by
  have hspace : .char ' ' ∈ Text.trim l.text := by simp [l.trim_text]
  have hterm : Text.trim l.text ≠ terminatorMark := by
    intro hterm
    rw [hterm] at hspace
    exact absurd hspace (by decide)
  simp [LineKind.ofLine, h, hterm, List.ne_nil_of_mem hspace, l.firstWord_text, l.name_ne]

/-- **A column line inside a table** adds its column's field if its type has a Go type, and is in error
for its type, and for that type alone, if it has none. -/
theorem reading_text (types : TypeTable) (tagged : Bool) (h : Text.has headerMark l.text = false) :
    Reading.ofLine types tagged l.text true =
      match types.goType? l.sqlType.text with
      | some go => .adds (Field.ofColumn tagged l.column go)
      | none => .faulty (.unmapped l.sqlType.text none) := by
  rw [Reading.ofLine, l.kind_text h]
  simp only [Field.ofLine, Column.ofLine, l.ofLine?_text, TypeTable.map, column]
  cases types.goType? l.sqlType.text <;> rfl

end ColumnLine
end Printed
end TableStructs
