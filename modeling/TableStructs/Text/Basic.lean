import TableStructs.Text.CodePoint

/-!
Texts are lists of code points. This module holds what every other one does with them: cutting a
text at each occurrence of one character (`split`), finding the rest of a text behind a mark
(`after?`), and writing numbers with decimal or hexadecimal digits.

`join_split` says that cutting loses nothing, `after?_eq_some_iff` that a found mark is the first one.
-/
namespace TableStructs

namespace Text

/-! ### Cutting at a character -/

/-- The pieces between the occurrences of `sep`: always at least one, maybe empty ones. -/
def split (sep : CodePoint) : Text → List Text
  | [] => [[]]
  | c :: s =>
    if c = sep then [] :: split sep s
    else match split sep s with
      | [] => [[c]]
      | piece :: pieces => (c :: piece) :: pieces

theorem split_ne_nil (sep : CodePoint) (s : Text) : split sep s ≠ [] := by
  cases s with
  | nil => simp [split]
  | cons c s =>
    by_cases h : c = sep
    · simp [split, h]
    · simp only [split, h, if_false]
      cases split sep s <;> simp

/-- Writing the pieces with `sep` between them gives the text back. -/
theorem join_split (sep : CodePoint) (s : Text) : [sep].intercalate (split sep s) = s := by
  induction s with
  | nil => simp [split, List.intercalate]
  | cons c s ih =>
    by_cases h : c = sep
    · subst h
      cases hs : split c s with
      | nil => exact absurd hs (split_ne_nil c s)
      | cons p ps =>
        rw [hs] at ih
        simpa [split, hs, List.intercalate] using ih
    · cases hs : split sep s with
      | nil => exact absurd hs (split_ne_nil sep s)
      | cons p ps =>
        rw [hs] at ih
        cases ps with
        | nil => simp_all [split, List.intercalate]
        | cons q qs => simp_all [split, List.intercalate]

/-- No piece holds the character it was cut at. -/
theorem not_mem_of_mem_split {sep : CodePoint} {s piece : Text} (h : piece ∈ split sep s) :
    sep ∉ piece := by
  induction s generalizing piece with
  | nil => simp_all [split]
  | cons c s ih =>
    by_cases hc : c = sep
    · simp only [split, hc, if_true, List.mem_cons] at h
      rcases h with rfl | h
      · simp
      · exact ih h
    · cases hs : split sep s with
      | nil => exact absurd hs (split_ne_nil sep s)
      | cons p ps =>
        simp only [split, hc, if_false, hs, List.mem_cons] at h
        rcases h with rfl | h
        · have := @ih p (by simp [hs])
          simp [Ne.symm hc, this]
        · exact ih (by simp [hs, h])

/-- A piece is part of the text. -/
theorem subset_of_mem_split {sep : CodePoint} {s piece : Text} (h : piece ∈ split sep s) : piece ⊆ s := by
  induction s generalizing piece with
  | nil => simp_all [split]
  | cons c s ih =>
    by_cases hc : c = sep
    · simp only [split, hc, if_true, List.mem_cons] at h
      rcases h with rfl | h
      · exact List.nil_subset _
      · exact List.subset_cons_of_subset c (ih h)
    · cases hs : split sep s with
      | nil => exact absurd hs (split_ne_nil sep s)
      | cons p ps =>
        simp only [split, hc, if_false, hs, List.mem_cons] at h
        rcases h with rfl | h
        · exact List.cons_subset_cons c (ih (by simp [hs]))
        · exact List.subset_cons_of_subset c (ih (by simp [hs, h]))

/-- A text without the character is one piece. -/
theorem split_eq_singleton {sep : CodePoint} {s : Text} (h : sep ∉ s) : split sep s = [s] := by
  induction s with
  | nil => rfl
  | cons c s ih =>
    simp only [List.mem_cons, not_or] at h
    simp [split, Ne.symm h.1, ih h.2]

/-- The pieces of a text that is cut at one occurrence first. -/
theorem split_append_cons (sep : CodePoint) (a b : Text) :
    split sep (a ++ sep :: b) = split sep a ++ split sep b := by
  induction a with
  | nil => simp [split]
  | cons c a ih =>
    by_cases h : c = sep
    · simp [split, h, ih]
    · obtain ⟨piece, pieces, hpieces⟩ := List.exists_cons_of_ne_nil (split_ne_nil sep a)
      simp [split, h, ih, hpieces]

/-- What stands before the first occurrence is the first piece. -/
theorem split_append {sep : CodePoint} {a : Text} (h : sep ∉ a) (b : Text) :
    split sep (a ++ sep :: b) = a :: split sep b := by
  rw [split_append_cons, split_eq_singleton h]
  rfl

/-- The characters of joined pieces are those of the pieces and of what stands between them. -/
theorem mem_intercalate {sep : Text} {pieces : List Text} {c : CodePoint} (h : c ∈ sep.intercalate pieces) :
    c ∈ sep ∨ ∃ piece ∈ pieces, c ∈ piece := by
  induction pieces with
  | nil => simp [List.intercalate] at h
  | cons p ps ih =>
    cases ps with
    | nil => exact .inr ⟨p, List.mem_singleton_self p, by simpa [List.intercalate] using h⟩
    | cons q qs =>
      have hcons : sep.intercalate (p :: q :: qs) = p ++ (sep ++ sep.intercalate (q :: qs)) := by
        simp [List.intercalate]
      rw [hcons, List.mem_append, List.mem_append] at h
      obtain hp | hsep | hrest := h
      · exact .inr ⟨p, List.mem_cons_self, hp⟩
      · exact .inl hsep
      · exact (ih hrest).imp_right fun ⟨piece, hpiece, hc⟩ => ⟨piece, List.mem_cons_of_mem p hpiece, hc⟩

/-! ### Finding a mark -/

/-- What follows the first occurrence of `mark`, if there is one. -/
def after? (mark : Text) : Text → Option Text
  | [] => if mark = [] then some [] else none
  | c :: s => if mark.isPrefixOf (c :: s) then some ((c :: s).drop mark.length) else after? mark s

/-- Whether `mark` occurs. -/
def has (mark s : Text) : Bool := (after? mark s).isSome

/-- A found mark stands where the rest begins, and at no earlier place. -/
theorem after?_eq_some_iff {mark s rest : Text} :
    after? mark s = some rest ↔
      ∃ before, s = before ++ mark ++ rest ∧
        ∀ i < before.length, ¬ mark <+: s.drop i := by
  induction s with
  | nil =>
    by_cases h : mark = []
    · subst h
      simp only [after?, if_true, Option.some.injEq]
      constructor
      · rintro rfl
        exact ⟨[], by simp⟩
      · rintro ⟨before, hs, -⟩
        simp_all
    · simp only [after?, if_neg h]
      constructor
      · intro h'; cases h'
      · rintro ⟨before, hs, -⟩
        simp_all
  | cons c s ih =>
    by_cases h : mark <+: c :: s
    · have hb : mark.isPrefixOf (c :: s) = true := List.isPrefixOf_iff_prefix.2 h
      obtain ⟨r, hr⟩ := h
      simp only [after?, hb, if_true, Option.some.injEq]
      constructor
      · rintro rfl
        exact ⟨[], by simp [← hr], by simp⟩
      · rintro ⟨before, hs, hfirst⟩
        cases before with
        | nil => simp [hs]
        | cons d before =>
          exact absurd ⟨r, by simp [hr]⟩ (hfirst 0 (by simp))
    · have hb : ¬ mark.isPrefixOf (c :: s) = true := fun h' => h (List.isPrefixOf_iff_prefix.1 h')
      simp only [after?, if_neg hb, ih]
      constructor
      · rintro ⟨before, hs, hfirst⟩
        refine ⟨c :: before, by simp [hs], ?_⟩
        intro i hi
        cases i with
        | zero => simpa using h
        | succ i => simpa using hfirst i (by simpa using hi)
      · rintro ⟨before, hs, hfirst⟩
        cases before with
        | nil => exact absurd ⟨rest, by simpa using hs.symm⟩ h
        | cons d before =>
          simp only [List.cons_append, List.cons.injEq] at hs
          refine ⟨before, hs.2, ?_⟩
          intro i hi
          simpa using hfirst (i + 1) (by simpa using hi)

theorem has_iff_infix {mark s : Text} : has mark s = true ↔ mark <:+: s := by
  constructor
  · intro h
    obtain ⟨rest, hrest⟩ := Option.isSome_iff_exists.1 h
    obtain ⟨before, hs, -⟩ := after?_eq_some_iff.1 hrest
    exact ⟨before, rest, hs.symm⟩
  · rintro ⟨before, rest, rfl⟩
    induction before with
    | nil =>
      rw [List.nil_append]
      have hp : mark.isPrefixOf (mark ++ rest) = true :=
        List.isPrefixOf_iff_prefix.2 (List.prefix_append mark rest)
      cases hm : mark ++ rest with
      | nil => simp [has, after?, (List.append_eq_nil_iff.1 hm).1]
      | cons c s =>
        rw [hm] at hp
        rw [has, after?, if_pos hp]
        rfl
    | cons c before ih =>
      unfold has at ih ⊢
      simp only [List.cons_append, after?]
      split
      · rfl
      · exact ih

/-! ### Ends -/

/-- The text without one `c` at its end. -/
def dropEnd (c : CodePoint) (s : Text) : Text := if s.getLast? = some c then s.dropLast else s

theorem dropEnd_concat (c : CodePoint) (s : Text) : dropEnd c (s ++ [c]) = s := by
  rw [dropEnd, if_pos List.getLast?_concat, List.dropLast_concat]

theorem dropEnd_of_ne {c : CodePoint} {s : Text} (h : s.getLast? ≠ some c) : dropEnd c s = s := if_neg h

/-- The text behind the last `sep`, or all of it. -/
def afterLast (sep : CodePoint) (s : Text) : Text := (split sep s).getLast (split_ne_nil sep s)

theorem afterLast_append {sep : CodePoint} {b : Text} (h : sep ∉ b) (a : Text) :
    afterLast sep (a ++ sep :: b) = b := by
  simp only [afterLast, split_append_cons, split_eq_singleton h, List.getLast_concat]

theorem afterLast_of_not_mem {sep : CodePoint} {b : Text} (h : sep ∉ b) : afterLast sep b = b := by
  simp only [afterLast, split_eq_singleton h, List.getLast_singleton]

theorem dropEnd_subset (c : CodePoint) (s : Text) : dropEnd c s ⊆ s := by
  unfold dropEnd
  split
  · exact s.dropLast_subset
  · exact List.Subset.refl s

theorem afterLast_subset (sep : CodePoint) (s : Text) : afterLast sep s ⊆ s :=
  subset_of_mem_split (List.getLast_mem (split_ne_nil sep s))

/-- The text with spaces at its end up to `width` code points. -/
def pad (width : Nat) (s : Text) : Text := s.rightpad width ' '

/-! ### Numbers -/

/-- A number with decimal digits. -/
def decimal (n : Nat) : Text := (Nat.toDigits 10 n).map .char

theorem decimal_ne_nil (n : Nat) : decimal n ≠ [] := by
  simp [decimal, Nat.toDigits_ne_nil]

/-- A number with decimal digits, a minus sign before a negative one. -/
def signed : Int → Text
  | .ofNat n => decimal n
  | .negSucc n => .char '-' :: decimal (n + 1)

/-- A number with at least `width` hexadecimal digits, in small letters. -/
def hex (width n : Nat) : Text := ((Nat.toDigits 16 n).leftpad width '0').map .char

end Text
end TableStructs
