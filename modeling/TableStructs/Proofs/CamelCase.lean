import TableStructs.Naming
import TableStructs.Proofs.UpperCase

/-!
Names in camel case. Names joined by an underscore give their camel-case forms joined by nothing
(`camelCase_append`), so it makes no difference where underscores stand at the ends of a name, or how
many stand side by side. A camel-case form has no underscore, and begins with what is its own upper-case
form; so it is one word with a capital already, and its own camel-case form (`camelCase_camelCase`).
-/
namespace TableStructs

/-! ### Words -/

theorem head?_capitalized {word : Text} {d : CodePoint} (h : (capitalized word).head? = some d) :
    ∃ c, (Text.upper c).head? = some d := by
  cases word with
  | nil => cases h
  | cons c rest =>
    obtain ⟨e, form, hform⟩ := List.exists_cons_of_ne_nil (Text.upper_ne_nil c)
    rw [capitalized, hform] at h
    exact ⟨c, by rw [hform]; exact h⟩

theorem capitalized_eq_nil_iff {word : Text} : capitalized word = [] ↔ word = [] := by
  cases word with
  | nil => simp [capitalized]
  | cons c rest => simp [capitalized, Text.upper_ne_nil c]

/-- Capitals bring no underscores into a word. -/
theorem underscore_not_mem_capitalized {word : Text} (h : .char '_' ∉ word) :
    .char '_' ∉ capitalized word := by
  cases word with
  | nil => exact List.not_mem_nil
  | cons c rest =>
    intro hmem
    rcases List.mem_append.1 hmem with hupper | hrest
    · rcases Text.mem_upper hupper with ⟨-, hself⟩ | hplace
      · exact h (hself ▸ List.mem_cons_self)
      · exact absurd hplace (by decide)
    · exact h (List.mem_cons_of_mem c hrest)

/-! ### Names of several words -/

/-- **An underscore** only separates: on both of its sides names become camel case on their own. -/
theorem camelCase_append (a b : Text) : camelCase (a ++ .char '_' :: b) = camelCase a ++ camelCase b := by
  rw [camelCase, Text.split_append_cons, List.flatMap_append]
  rfl

theorem camelCase_of_not_mem {name : Text} (h : .char '_' ∉ name) : camelCase name = capitalized name := by
  rw [camelCase, Text.split_eq_singleton h, List.flatMap_singleton]

theorem camelCase_underscores_append (n : Nat) (a : Text) :
    camelCase (List.replicate n (.char '_') ++ a) = camelCase a := by
  induction n with
  | zero => rfl
  | succ n ih =>
    rw [List.replicate_succ, List.cons_append]
    exact (camelCase_append [] _).trans ih

theorem camelCase_append_underscores (n : Nat) (a : Text) :
    camelCase (a ++ List.replicate n (.char '_')) = camelCase a := by
  cases n with
  | zero => rw [List.replicate_zero, List.append_nil]
  | succ n =>
    have hrest := camelCase_underscores_append n []
    rw [List.append_nil] at hrest
    rw [List.replicate_succ, camelCase_append, hrest]
    exact List.append_nil _

theorem camelCase_repeated (n : Nat) (a b : Text) :
    camelCase (a ++ List.replicate (n + 1) (.char '_') ++ b) = camelCase (a ++ .char '_' :: b) := by
  rw [List.append_assoc, List.replicate_succ, List.cons_append, camelCase_append, camelCase_append,
    camelCase_underscores_append]

/-- Only underscores have nothing for their camel case. -/
theorem camelCase_eq_nil_iff {name : Text} : camelCase name = [] ↔ ∀ c ∈ name, c = .char '_' := by
  constructor
  · intro h c hc
    rw [← Text.join_split '_' name] at hc
    rcases Text.mem_intercalate hc with hsep | ⟨word, hword, hc⟩
    · exact List.mem_singleton.1 hsep
    · have hnil := capitalized_eq_nil_iff.1 (List.flatMap_eq_nil_iff.1 h word hword)
      rw [hnil] at hc
      cases hc
  · intro h
    rw [List.eq_replicate_iff.2 ⟨rfl, h⟩]
    exact camelCase_append_underscores name.length []

/-! ### Camel case once more -/

theorem underscore_not_mem_camelCase (name : Text) : .char '_' ∉ camelCase name := by
  intro h
  obtain ⟨word, hword, hmem⟩ := List.mem_flatMap.1 h
  exact underscore_not_mem_capitalized (Text.not_mem_of_mem_split hword) hmem

theorem head?_camelCase {name : Text} {d : CodePoint} (h : (camelCase name).head? = some d) :
    Text.upper d = [d] := by
  rw [camelCase, List.head?_flatMap] at h
  obtain ⟨word, -, hword⟩ := List.exists_of_findSome?_eq_some h
  obtain ⟨c, hc⟩ := head?_capitalized hword
  exact Text.upper_of_head hc

/-- **A camel-case form** is its own camel-case form. -/
theorem camelCase_camelCase (name : Text) : camelCase (camelCase name) = camelCase name := by
  rw [camelCase_of_not_mem (underscore_not_mem_camelCase name)]
  cases h : camelCase name with
  | nil => rfl
  | cons d rest =>
    have hhead : (camelCase name).head? = some d := by rw [h]; rfl
    have hd := head?_camelCase hhead
    rw [capitalized, hd]
    rfl

/-- **The algebra of camel case.** It takes names joined by an underscore to their forms joined, so
underscores at the start and at the end of a name and repeated ones make no difference; its results
have no underscores, and it leaves them as they are. -/
theorem camelCase_algebra :
    (∀ a b, camelCase (a ++ .char '_' :: b) = camelCase a ++ camelCase b) ∧
    (∀ n a, camelCase (List.replicate n (.char '_') ++ a) = camelCase a) ∧
    (∀ n a, camelCase (a ++ List.replicate n (.char '_')) = camelCase a) ∧
    (∀ n a b, camelCase (a ++ List.replicate (n + 1) (.char '_') ++ b) = camelCase (a ++ .char '_' :: b)) ∧
    ∀ name, .char '_' ∉ camelCase name ∧ camelCase (camelCase name) = camelCase name :=
  ⟨camelCase_append, camelCase_underscores_append, camelCase_append_underscores, camelCase_repeated,
    fun name => ⟨underscore_not_mem_camelCase name, camelCase_camelCase name⟩⟩

/-- The first word begins with a ligature, whose upper-case form has two letters. -/
example : camelCase "_ﬁrst__ǆ_".toText = "FIrstǄ".toText := by decide +kernel

end TableStructs
