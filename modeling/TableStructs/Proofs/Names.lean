import TableStructs.Proofs.UpperCase
import TableStructs.Struct

/-!
What names are made of. A table's or a column's name is a part of its line, a column's name without
spaces. The name of a Go declaration has nothing in it that the name in the dump has not, apart from
upper-case forms, none of which is a space, a digit or a line end (`mem_camelCase`). So what cannot stand
in a line does not get into the Go source either.

From a name in small letters, digits and underscores that begins with a letter comes an exported Go
identifier (`isIdent_camelCase`, `isIdent_structName`).
-/
namespace TableStructs

/-! ### Names of declarations -/

theorem mem_capitalized {c : CodePoint} {word : Text} (h : c ∈ capitalized word) :
    c ∈ word ∨ 0x41 ≤ c.toNat := by
  cases word with
  | nil => cases h
  | cons d rest =>
    rcases List.mem_append.1 h with hd | hrest
    · rcases Text.mem_upper hd with ⟨-, rfl⟩ | ⟨hlow, -⟩
      · exact .inl List.mem_cons_self
      · exact .inr hlow
    · exact .inl (List.mem_cons_of_mem d hrest)

theorem mem_camelCase {c : CodePoint} {name : Text} (h : c ∈ camelCase name) : c ∈ name ∨ 0x41 ≤ c.toNat := by
  obtain ⟨word, hword, hc⟩ := List.mem_flatMap.1 h
  exact (mem_capitalized hc).imp_left fun hc => Text.subset_of_mem_split hword hc

theorem mem_structName {c : CodePoint} {table : Text} (h : c ∈ structName table) :
    c ∈ table ∨ 0x41 ≤ c.toNat :=
  mem_camelCase (Text.dropEnd_subset 's' _ h)

/-! ### Names in a dump -/

theorem headerTable?_subset {line table : Text} (h : headerTable? line = some table) : table ⊆ line := by
  obtain ⟨rest, hrest, htable⟩ := Option.bind_eq_some_iff.1 h
  obtain ⟨before, hline, -⟩ := Text.after?_eq_some_iff.1 hrest
  have hname : table ⊆ rest := by
    unfold tableName? at htable
    simp only at htable
    split at htable
    · cases htable
    · cases htable
      have hend := List.Subset.trans (Text.dropEnd_subset '(' (Text.trim rest)) (Text.trim_subset rest)
      exact List.Subset.trans (Text.afterLast_subset '.' _)
        (List.Subset.trans (Text.trimRight_subset _) hend)
  exact List.Subset.trans hname (hline ▸ List.subset_append_right _ rest)

theorem Column.ofLine?_eq_some {line : Text} {column : Column} (h : Column.ofLine? line = some column) :
    column.name ∈ Text.split ' ' (Text.trim line) := by
  unfold Column.ofLine? at h
  split at h
  · next hsplit =>
    cases h
    simp [hsplit]
  · cases h

theorem Column.name_subset {line : Text} {column : Column} (h : Column.ofLine? line = some column) :
    column.name ⊆ line :=
  List.Subset.trans (Text.subset_of_mem_split (Column.ofLine?_eq_some h)) (Text.trim_subset line)

/-- Columns are cut at spaces, so there is none in a column's name. -/
theorem Column.space_not_mem_name {line : Text} {column : Column} (h : Column.ofLine? line = some column) :
    .char ' ' ∉ column.name :=
  Text.not_mem_of_mem_split (Column.ofLine?_eq_some h)

/-! ### Go types -/

/-- The Go types that the rules give. -/
def TypeTable.goTypes (types : TypeTable) : List Text := types.exact.map (·.2) ++ types.prefixes.map (·.2)

theorem TypeTable.mem_goTypes {types : TypeTable} {sqlType go : Text} (h : types.goType? sqlType = some go) :
    go ∈ types.goTypes := by
  unfold TypeTable.goType? at h
  split at h
  · next found hfound =>
    cases h
    obtain ⟨before, behind, hexact, -⟩ := List.lookup_eq_some_iff.1 hfound
    exact List.mem_append_left _ (List.mem_map.2 ⟨(sqlType, go), by simp [hexact], rfl⟩)
  · obtain ⟨rule, hrule, rfl⟩ := Option.map_eq_some_iff.1 h
    exact List.mem_append_right _ (List.mem_map.2 ⟨rule, List.mem_of_find?_eq_some hrule, rfl⟩)

/-- What a field line gives: its column and the rules make the field. -/
theorem Field.ofLine_eq_ok {types : TypeTable} {tagged : Bool} {line : Text} {number : Option Int} {f : Field}
    (h : Field.ofLine types tagged line number = .ok f) :
    ∃ column goType, Column.ofLine? line = some column ∧ types.goType? column.sqlType = some goType ∧
      f = Field.ofColumn tagged column goType := by
  unfold Field.ofLine Column.ofLine TypeTable.map at h
  cases hcolumn : Column.ofLine? line with
  | none =>
    rw [hcolumn] at h
    cases h
  | some column =>
    rw [hcolumn] at h
    simp only at h
    cases hgo : types.goType? column.sqlType with
    | none =>
      rw [hgo] at h
      cases h
    | some goType =>
      rw [hgo] at h
      cases h
      exact ⟨column, goType, rfl, hgo, rfl⟩

/-! ### Identifiers -/

/-- Whether a name begins with a small letter and has nothing in it but these, digits and
underscores. -/
def isSnake : Text → Bool
  | [] => false
  | c :: rest => c.isLower && rest.all fun d => d.isLower || d.isDigit || d = .char '_'

/-- Whether a text is an exported Go identifier of ASCII letters and digits. -/
def isIdent : Text → Bool
  | [] => false
  | c :: rest => c.isUpper && rest.all CodePoint.isAlphanum

theorem toNat_lt_of_isAlphanum {c : CodePoint} (h : c.isAlphanum = true) : c.toNat < 128 := by
  simp only [CodePoint.isAlphanum, CodePoint.isUpper, CodePoint.isLower, CodePoint.isDigit, Bool.or_eq_true,
    Bool.and_eq_true, decide_eq_true_eq] at h
  omega

theorem isAlphanum_of_plain {c : CodePoint} (h : (c.isLower || c.isDigit) = true) : c.isAlphanum = true := by
  rw [CodePoint.isAlphanum, Bool.or_assoc, h, Bool.or_true]

theorem upper_of_lt : ∀ n < 128, (CodePoint.ofNat n).isLower || (CodePoint.ofNat n).isDigit →
    (Text.upper (CodePoint.ofNat n)).all CodePoint.isAlphanum ∧
      ((CodePoint.ofNat n).isLower → isIdent (Text.upper (CodePoint.ofNat n))) := by
  decide +kernel

/-- The upper-case form of a small letter or a digit of ASCII. -/
theorem upper_of_ascii {c : CodePoint} (h : (c.isLower || c.isDigit) = true) :
    (Text.upper c).all CodePoint.isAlphanum = true ∧ (c.isLower = true → isIdent (Text.upper c) = true) := by
  have hc := upper_of_lt c.toNat (toNat_lt_of_isAlphanum (isAlphanum_of_plain h))
  rw [CodePoint.ofNat_toNat] at hc
  exact hc h

theorem isIdent_append {a b : Text} (ha : isIdent a = true) (hb : b.all CodePoint.isAlphanum = true) :
    isIdent (a ++ b) = true := by
  cases a with
  | nil => cases ha
  | cons c rest =>
    simp only [isIdent, List.cons_append, List.all_append, Bool.and_eq_true] at ha ⊢
    exact ⟨ha.1, ha.2, hb⟩

theorem all_capitalized {word : Text} (h : ∀ c ∈ word, (c.isLower || c.isDigit) = true) :
    ∀ d ∈ capitalized word, d.isAlphanum = true := by
  cases word with
  | nil => exact fun d hd => nomatch hd
  | cons c rest =>
    intro d hd
    rcases List.mem_append.1 hd with hd | hd
    · exact List.all_eq_true.1 (upper_of_ascii (h c List.mem_cons_self)).1 d hd
    · exact isAlphanum_of_plain (h d (List.mem_cons_of_mem c hd))

/-- **A field's name** is an identifier if the column's name is a plain one. -/
theorem isIdent_camelCase {name : Text} (h : isSnake name = true) : isIdent (camelCase name) = true := by
  cases name with
  | nil => cases h
  | cons c rest =>
    simp only [isSnake, Bool.and_eq_true] at h
    have hletter : c ≠ .char '_' := by
      rintro rfl
      exact absurd h.1 (by decide)
    have hword : ∀ word ∈ Text.split '_' (c :: rest), ∀ d ∈ word, (d.isLower || d.isDigit) = true := by
      intro word hword d hd
      have hne : d ≠ .char '_' := fun he => Text.not_mem_of_mem_split hword (he ▸ hd)
      rcases List.mem_cons.1 (Text.subset_of_mem_split hword hd) with rfl | hmem
      · simp [h.1]
      · simpa [hne] using List.all_eq_true.1 h.2 d hmem
    cases hs : Text.split '_' rest with
    | nil => exact absurd hs (Text.split_ne_nil '_' rest)
    | cons word words =>
      have hsplit : Text.split '_' (c :: rest) = (c :: word) :: words := by
        simp [Text.split, hletter, hs]
      rw [hsplit] at hword
      have hfirst := hword (c :: word) List.mem_cons_self
      have hrest : (word ++ words.flatMap capitalized).all CodePoint.isAlphanum = true := by
        rw [List.all_eq_true]
        intro d hd
        rcases List.mem_append.1 hd with hd | hd
        · exact isAlphanum_of_plain (hfirst d (List.mem_cons_of_mem c hd))
        · obtain ⟨other, hother, hd⟩ := List.mem_flatMap.1 hd
          exact all_capitalized (hword other (List.mem_cons_of_mem _ hother)) d hd
      rw [camelCase, hsplit, List.flatMap_cons, capitalized, List.append_assoc]
      exact isIdent_append ((upper_of_ascii (hfirst c List.mem_cons_self)).2 h.1) hrest

/-- **A struct's name** is an identifier if the table's name is a plain one. The first letter is a
capital, so it is not the `s` that is dropped. -/
theorem isIdent_structName {table : Text} (h : isSnake table = true) : isIdent (structName table) = true := by
  have hcamel := isIdent_camelCase h
  unfold structName singular Text.dropEnd
  split
  · next hs =>
    cases hname : camelCase table with
    | nil => rw [hname] at hcamel; cases hcamel
    | cons c rest =>
      rw [hname] at hcamel hs
      simp only [isIdent, Bool.and_eq_true] at hcamel
      cases rest with
      | nil =>
        cases hs
        exact absurd hcamel.1 (by decide)
      | cons d rest =>
        rw [List.dropLast_cons_cons, isIdent, hcamel.1, Bool.true_and, List.all_eq_true]
        exact fun x hx => List.all_eq_true.1 hcamel.2 x (List.dropLast_subset _ hx)
  · exact hcamel

end TableStructs
