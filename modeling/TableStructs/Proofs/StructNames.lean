import Mathlib.Data.List.DropRight
import TableStructs.Proofs.CamelCase
import TableStructs.Proofs.Warnings

/-!
Names of structs. A struct's name is its table's in camel case, less one final `s`. Whether there is
such an `s` shows in the table's name: less the underscores at its end it has to end in `s`, and its
last word must not be that `s` alone, which would be a capital (`getLast?_camelCase`). So a name that
looks singular always loses its `s`, and nothing is left only of a name of underscores only.
-/
namespace TableStructs

/-! ### Final letters -/

namespace Text

theorem dropEnd_append {c : CodePoint} {s : Text} (h : s.getLast? = some c) : dropEnd c s ++ [c] = s := by
  rw [dropEnd, if_pos h, List.dropLast_append_getLast? c h]

/-- **Texts less a final letter** are the same if the texts are, or if just one of them has the
letter and is the other one with it. -/
theorem dropEnd_eq_iff (c : CodePoint) (s t : Text) :
    dropEnd c s = dropEnd c t ↔
      s = t ∨ (t = s ++ [c] ∧ s.getLast? ≠ some c) ∨ (s = t ++ [c] ∧ t.getLast? ≠ some c) := by
  constructor
  · intro h
    by_cases hs : s.getLast? = some c <;> by_cases ht : t.getLast? = some c
    · exact .inl (by rw [← dropEnd_append hs, h, dropEnd_append ht])
    · exact .inr (.inr ⟨by rw [← dropEnd_append hs, h, dropEnd_of_ne ht], ht⟩)
    · exact .inr (.inl ⟨by rw [← dropEnd_append ht, ← h, dropEnd_of_ne hs], hs⟩)
    · exact .inl (by rw [← dropEnd_of_ne hs, h, dropEnd_of_ne ht])
  · rintro (rfl | ⟨rfl, hs⟩ | ⟨rfl, ht⟩)
    · rfl
    · rw [dropEnd_concat, dropEnd_of_ne hs]
    · rw [dropEnd_concat, dropEnd_of_ne ht]

/-- A text ends in the word behind its last separator, or is that word if it has no separator. -/
theorem afterLast_cases (sep : CodePoint) (s : Text) :
    ∃ word, afterLast sep s = word ∧ sep ∉ word ∧ (s = word ∨ ∃ before, s = before ++ sep :: word) := by
  by_cases h : sep ∈ s
  · obtain ⟨back, front, hs, hback⟩ := List.eq_append_cons_of_mem (List.mem_reverse.2 h)
    have hword : sep ∉ back.reverse := by rwa [List.mem_reverse]
    have hs' : s = front.reverse ++ sep :: back.reverse := by
      simpa using congrArg List.reverse hs
    refine ⟨back.reverse, ?_, hword, .inr ⟨front.reverse, hs'⟩⟩
    rw [hs', afterLast_append hword]
  · exact ⟨s, afterLast_of_not_mem h, h, .inl rfl⟩

/-- A small `s` is no upper-case form, nor at the end of one. -/
theorem small_s_not_mem_upper (c : CodePoint) : .char 's' ∉ upper c := by
  intro h
  rcases mem_upper h with ⟨hself, rfl⟩ | hplace
  · exact absurd hself (by decide +kernel)
  · exact absurd hplace (by decide)

end Text

/-! ### The final letter of a camel-case form -/

theorem getLast?_capitalized (word : Text) :
    (capitalized word).getLast? = some (.char 's') ↔ word.getLast? = some (.char 's') ∧ 2 ≤ word.length := by
  match word with
  | [] => simp [capitalized]
  | [c] =>
    have hupper : (Text.upper c).getLast? ≠ some (.char 's') := fun h =>
      Text.small_s_not_mem_upper c (List.mem_of_getLast? h)
    simpa [capitalized] using hupper
  | c :: d :: rest =>
    simp [capitalized, List.getLast?_append]

/-- A table's name without the underscores at its end. -/
def stem (table : Text) : Text := table.rdropWhile fun c => c = .char '_'

theorem camelCase_stem (table : Text) : camelCase (stem table) = camelCase table := by
  have hcut : stem table ++ table.rtakeWhile (fun c => c = .char '_') = table := List.rdropWhile_append_rtakeWhile
  have hend : table.rtakeWhile (fun c => c = .char '_') =
      List.replicate (table.rtakeWhile (fun c => c = .char '_')).length (.char '_') :=
    List.eq_replicate_iff.2 ⟨rfl, fun c hc => by simpa using List.mem_rtakeWhile_imp hc⟩
  rw [hend] at hcut
  conv_rhs => rw [← hcut]
  exact (camelCase_append_underscores _ _).symm

theorem getLast?_stem (table : Text) : (stem table).getLast? ≠ some (.char '_') := by
  intro h
  have hne : stem table ≠ [] := by
    intro hnil
    rw [hnil] at h
    cases h
  have hlast : (stem table).getLast hne = .char '_' :=
    Option.some.inj ((List.getLast?_eq_some_getLast hne).symm.trans h)
  exact List.rdropWhile_last_not (fun c => decide (c = CodePoint.char '_')) table hne (decide_eq_true hlast)

/-- **The final letter of a camel-case form** is a small `s` if the name, less underscores at its end,
ends in a word of two letters or more of which the last one is. -/
theorem getLast?_camelCase (table : Text) :
    (camelCase table).getLast? = some (.char 's') ↔
      (stem table).getLast? = some (.char 's') ∧ 2 ≤ (Text.afterLast '_' (stem table)).length := by
  rw [← camelCase_stem]
  have hstem := getLast?_stem table
  generalize stem table = name at hstem ⊢
  obtain ⟨word, hlast, hword, rfl | ⟨before, rfl⟩⟩ := Text.afterLast_cases '_' name
  · rw [hlast, camelCase_of_not_mem hword, getLast?_capitalized]
  · have hne : word ≠ [] := by
      rintro rfl
      exact hstem List.getLast?_concat
    have hcapital : capitalized word ≠ [] := fun h => hne (capitalized_eq_nil_iff.1 h)
    rw [hlast, camelCase_append, camelCase_of_not_mem hword, List.getLast?_append_of_ne_nil _ hcapital,
      List.getLast?_append_of_ne_nil _ (List.cons_ne_nil _ _), List.getLast?_cons_of_ne_nil hne,
      getLast?_capitalized]

/-! ### Names of structs -/

theorem camelCase_eq_append_iff (table : Text) :
    camelCase table = structName table ++ [.char 's'] ↔ (camelCase table).getLast? = some (.char 's') := by
  constructor
  · intro h
    rw [h, List.getLast?_concat]
  · intro h
    exact (Text.dropEnd_append h).symm

theorem structName_eq_camelCase_iff (table : Text) :
    structName table = camelCase table ↔ (camelCase table).getLast? ≠ some (.char 's') := by
  constructor
  · intro h hs
    have hlength := congrArg List.length (Text.dropEnd_append hs)
    have hsame : Text.dropEnd 's' (camelCase table) = camelCase table := h
    rw [hsame, List.length_append, List.length_singleton] at hlength
    omega
  · exact Text.dropEnd_of_ne

/-- Camel case never gives a small `s` alone, so no name is lost with its final letter. -/
theorem structName_eq_nil_iff (table : Text) : structName table = [] ↔ ∀ c ∈ table, c = .char '_' := by
  rw [← camelCase_eq_nil_iff]
  constructor
  · intro h
    by_contra hne
    have hs : (camelCase table).getLast? = some (.char 's') := by
      by_contra hs
      rw [(structName_eq_camelCase_iff table).2 hs] at h
      exact hne h
    have hword := (camelCase_eq_append_iff table).2 hs
    rw [h, List.nil_append] at hword
    have hagain := camelCase_camelCase table
    rw [hword] at hagain
    exact absurd hagain (by decide +kernel)
  · intro h
    rw [structName, h]
    rfl

/-- **A name that looks singular** loses its `s`: two letters that are no underscores stand at its end. -/
theorem getLast?_camelCase_of_looksSingular {table : Text} (h : looksSingular table = true) :
    (camelCase table).getLast? = some (.char 's') := by
  obtain ⟨ending, hending, hsuffix⟩ := List.any_eq_true.1 h
  obtain ⟨c, rfl, hc⟩ : ∃ c, ending = [c, .char 's'] ∧ c ≠ .char '_' := by
    simp only [singularEndings, List.mem_cons, List.not_mem_nil, or_false] at hending
    rcases hending with rfl | rfl | rfl <;> exact ⟨_, rfl, by decide⟩
  obtain ⟨front, rfl⟩ := List.isSuffixOf_iff_suffix.1 hsuffix
  have hstem : stem (front ++ [c, .char 's']) = front ++ [c, .char 's'] :=
    List.rdropWhile_eq_self_iff.2 fun hl => by simp
  rw [getLast?_camelCase, hstem]
  refine ⟨by simp, ?_⟩
  obtain ⟨word, hlast, -, hwhole | ⟨before, hbefore⟩⟩ := Text.afterLast_cases '_' (front ++ [c, .char 's'])
  · rw [hlast, ← hwhole, List.length_append]
    exact Nat.le_add_left 2 _
  · rw [hlast]
    match word with
    | [] => simpa using congrArg List.getLast? hbefore
    | [d] => exact absurd (List.cons.inj (List.append_inj' hbefore rfl).2).1 hc
    | d :: e :: rest => exact Nat.le_add_left 2 _

/-- **Names of structs**, from the tables' names alone. A struct's name is the camel-case form less a
final `s` if its table's name, less underscores at its end, ends in `s` behind another letter of the
same word; else it is the whole form. Only underscores give no name. A name of which a check warns that
it looks singular has lost its `s`, and two tables have the same struct name if their camel-case forms
are the same, or the same but for one `s`, at the end of the one form and not of the other. -/
theorem structName_of_table (table : Text) :
    (camelCase table = structName table ++ [.char 's'] ↔
      (stem table).getLast? = some (.char 's') ∧ 2 ≤ (Text.afterLast '_' (stem table)).length) ∧
    (structName table = camelCase table ↔
      ¬ ((stem table).getLast? = some (.char 's') ∧ 2 ≤ (Text.afterLast '_' (stem table)).length)) ∧
    (structName table = [] ↔ ∀ c ∈ table, c = .char '_') ∧
    (∀ types lines struct, .singularName table struct ∈ (check types lines).warnings →
      struct = structName table ∧ (∃ ending ∈ singularEndings, ending <:+ table) ∧
        camelCase table = struct ++ [.char 's']) ∧
    (∀ ending ∈ singularEndings, ending <:+ table → camelCase table = structName table ++ [.char 's']) ∧
    ∀ table', structName table = structName table' ↔
      camelCase table = camelCase table' ∨
      (camelCase table' = camelCase table ++ [.char 's'] ∧ (camelCase table).getLast? ≠ some (.char 's')) ∨
      (camelCase table = camelCase table' ++ [.char 's'] ∧ (camelCase table').getLast? ≠ some (.char 's')) := by
  have hlooks : looksSingular table = true ↔ ∃ ending ∈ singularEndings, ending <:+ table := by
    simp only [looksSingular, List.any_eq_true, List.isSuffixOf_iff_suffix]
  have htruncated : looksSingular table = true → camelCase table = structName table ++ [.char 's'] := fun h =>
    (camelCase_eq_append_iff table).2 (getLast?_camelCase_of_looksSingular h)
  refine ⟨?_, ?_, structName_eq_nil_iff table, fun types lines struct hwarned => ?_,
    fun ending hending hsuffix => htruncated (hlooks.2 ⟨ending, hending, hsuffix⟩),
    fun table' => Text.dropEnd_eq_iff 's' _ _⟩
  · rw [camelCase_eq_append_iff, getLast?_camelCase]
  · rw [structName_eq_camelCase_iff, ne_eq, getLast?_camelCase]
  · obtain ⟨hsingular, rfl⟩ := Report.singularName_of_mem hwarned
    exact ⟨rfl, hlooks.1 hsingular, htruncated hsingular⟩

/-- Underscores at the end of a name and a word of one letter make the difference. -/
example : (["foos_", "a_s", "s", "as", "status"].map fun name => structName name.toText) =
    ["Foo", "AS", "S", "A", "Statu"].map String.toText := by
  decide +kernel

end TableStructs
