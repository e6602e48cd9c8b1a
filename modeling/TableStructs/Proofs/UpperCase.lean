import TableStructs.Text.Upper

/-!
Laws of the upper-case mapping. The upper-case form of a code point is the code point itself or an
image of the table (`upper_cases`), so what holds of all images holds of all forms that differ from
their code point. No image is empty, and none has in it a space, a digit, an underscore, a small
letter of ASCII or a line end (`mem_upper`). None begins with a code point that has another upper-case
form (`upper_of_head`): a form in upper case is left alone where it begins.
-/
namespace TableStructs.Text

/-! ### Sets of numbers -/

/-- Numbers as the bits of one number. -/
def bits (ns : List Nat) : Nat := ns.foldr (fun n b => 1 <<< n ||| b) 0

theorem testBit_bits (ns : List Nat) (n : Nat) : (bits ns).testBit n = decide (n ∈ ns) := by
  induction ns with
  | nil => exact Nat.zero_testBit n
  | cons m ns ih =>
    show (1 <<< m ||| bits ns).testBit n = _
    rw [Nat.testBit_or, ih, Nat.one_shiftLeft, Nat.testBit_two_pow]
    simp only [List.mem_cons, Bool.decide_or, eq_comm]

/-- Numbers without a bit in common have no member in common. -/
theorem not_mem_of_bits {as bs : List Nat} (h : bits as &&& bits bs = 0) {n : Nat} (hn : n ∈ as) :
    n ∉ bs := by
  have hbit := Nat.testBit_and (bits as) (bits bs) n
  rw [h, Nat.zero_testBit, testBit_bits, testBit_bits, decide_eq_true hn, Bool.true_and] at hbit
  exact of_decide_eq_false hbit.symm

/-! ### The table -/

/-- The code points of a run. -/
def CaseRun.points (r : CaseRun) : List Nat :=
  (List.range ((r.last - r.first) / r.stride + 1)).map fun k => r.first + r.stride * k

/-- The code points that the table gives an upper-case form. -/
def mapped : List Nat := expansions.map (·.1) ++ runs.flatMap (·.points)

/-- The upper-case forms that it gives. -/
def images : List (List Nat) :=
  expansions.map (·.2) ++ runs.flatMap fun r => r.points.map fun n => [r.upper n]

theorem CaseRun.mem_points {r : CaseRun} {n : Nat} (h : r.covers n = true) : n ∈ r.points := by
  simp only [covers, Bool.and_eq_true, decide_eq_true_eq, beq_iff_eq] at h
  obtain ⟨⟨hfirst, hlast⟩, hstride⟩ := h
  have hsteps : r.stride * ((n - r.first) / r.stride) = n - r.first := by
    have := Nat.div_add_mod (n - r.first) r.stride
    omega
  have hbound : (n - r.first) / r.stride ≤ (r.last - r.first) / r.stride :=
    Nat.div_le_div_right (by omega)
  refine List.mem_map.2 ⟨(n - r.first) / r.stride, List.mem_range.2 (by omega), ?_⟩
  omega

theorem upper_of_not_mapped {c : CodePoint} (h : c.toNat ∉ mapped) : upper c = [c] := by
  simp only [mapped, List.mem_append, List.mem_map, List.mem_flatMap, not_or, not_exists, not_and] at h
  have hexpansions : expansions.lookup c.toNat = none := by
    rw [List.lookup_eq_none_iff]
    exact fun entry hentry => bne_iff_ne.2 fun he => h.1 entry hentry he.symm
  have hruns : runs.find? (·.covers c.toNat) = none := by
    rw [List.find?_eq_none]
    exact fun r hr hcovers => h.2 r hr (CaseRun.mem_points hcovers)
  unfold upper
  rw [hexpansions, hruns]

/-- **An upper-case form** is the code point itself or an image of the table. -/
theorem upper_cases (c : CodePoint) :
    upper c = [c] ∨ ∃ image ∈ images, upper c = image.map CodePoint.ofNat := by
  unfold upper
  split
  · next image himage =>
    obtain ⟨before, behind, htable, -⟩ := List.lookup_eq_some_iff.1 himage
    have hentry : (c.toNat, image) ∈ expansions := by simp [htable]
    exact .inr ⟨image, List.mem_append_left _ (List.mem_map.2 ⟨_, hentry, rfl⟩), rfl⟩
  · split
    · next run hrun =>
      have hcovers : run.covers c.toNat = true := by simpa using List.find?_some hrun
      refine .inr ⟨[run.upper c.toNat], List.mem_append_right _ (List.mem_flatMap.2 ?_), rfl⟩
      exact ⟨run, List.mem_of_find?_eq_some hrun, List.mem_map.2 ⟨_, CaseRun.mem_points hcovers, rfl⟩⟩
    · exact .inl rfl

/-! ### What forms are made of -/

theorem images_spec :
    ∀ image ∈ images, image ≠ [] ∧ ∀ n ∈ image, n < 0x110000 ∧ 0x41 ≤ n ∧ (n ≤ 0x5A ∨ 0x7A < n) := by
  decide +kernel

/-- The table leaves the beginnings of its images alone. Sets of bits are compared, since there are too
many pairs of the two. -/
theorem bits_heads_mapped : bits (images.filterMap (·.head?)) &&& bits mapped = 0 := by
  decide +kernel

theorem upper_ne_nil (c : CodePoint) : upper c ≠ [] := by
  obtain h | ⟨image, himage, h⟩ := upper_cases c
  · simp [h]
  · simpa [h] using (images_spec image himage).1

/-- **Upper-case forms** that differ from their code point have nothing of ASCII in them that lies
before the capitals, or between these and the end of the small letters. -/
theorem mem_upper {c d : CodePoint} (h : d ∈ upper c) :
    upper c = [c] ∧ d = c ∨ 0x41 ≤ d.toNat ∧ (d.toNat ≤ 0x5A ∨ 0x7A < d.toNat) := by
  obtain hself | ⟨image, himage, hupper⟩ := upper_cases c
  · rw [hself] at h
    exact .inl ⟨hself, List.mem_singleton.1 h⟩
  · rw [hupper] at h
    obtain ⟨n, hn, rfl⟩ := List.mem_map.1 h
    obtain ⟨hvalid, hplace⟩ := (images_spec image himage).2 n hn
    rw [CodePoint.toNat_ofNat hvalid]
    exact .inr hplace

/-- **What an upper-case form begins with** is its own upper-case form. -/
theorem upper_of_head {c d : CodePoint} (h : (upper c).head? = some d) : upper d = [d] := by
  obtain hself | ⟨image, himage, hupper⟩ := upper_cases c
  · rw [hself] at h
    cases h
    exact hself
  · rw [hupper, List.head?_map] at h
    obtain ⟨n, hn, rfl⟩ := Option.map_eq_some_iff.1 h
    have hvalid := ((images_spec image himage).2 n (List.mem_of_head? hn)).1
    apply upper_of_not_mapped
    rw [CodePoint.toNat_ofNat hvalid]
    exact not_mem_of_bits bits_heads_mapped (List.mem_filterMap.2 ⟨image, himage, hn⟩)

end TableStructs.Text
