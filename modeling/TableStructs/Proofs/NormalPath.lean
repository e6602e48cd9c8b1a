import TableStructs.Proofs.Call

/-!
Paths in normal form. A path is known by the slashes at its start and by its parts, and its normal form
has as many slashes as it keeps and the same parts, with one slash between any two
(`slashes_normal`, `parts_normal`). So a normal form is its own normal form. A mark without a slash in
it stands inside one piece between slashes, hence inside a part, unless it is found in a single dot
(`has_iff_exists_part`): what a path has to hold to be taken for a dump is not lost with the rest.
-/
namespace TableStructs

/-! ### Pieces between separators -/

namespace Text
variable {sep : CodePoint} {mark : Text}

/-- Joined pieces without the separator are cut into these pieces again. -/
theorem split_intercalate {pieces : List Text} (hne : pieces ≠ []) (h : ∀ piece ∈ pieces, sep ∉ piece) :
    split sep ([sep].intercalate pieces) = pieces := by
  induction pieces with
  | nil => exact absurd rfl hne
  | cons piece rest ih =>
    have hpiece : sep ∉ piece := h piece List.mem_cons_self
    cases rest with
    | nil => rw [List.intercalate_singleton, split_eq_singleton hpiece]
    | cons next rest =>
      have hrest := ih (List.cons_ne_nil next rest) fun p hp => h p (List.mem_cons_of_mem piece hp)
      rw [List.intercalate_cons_cons, List.append_assoc, List.singleton_append, split_append hpiece, hrest]

theorem prefix_append_cons_iff (h : sep ∉ mark) (a b : Text) : mark <+: a ++ sep :: b ↔ mark <+: a := by
  constructor
  · intro hmark
    -- The mark and the text lose their first characters together, so the induction is for every mark.
    induction a generalizing mark with
    | nil =>
      cases mark with
      | nil => exact List.prefix_rfl
      | cons m mark =>
        have hm : m = sep := (List.cons_prefix_cons.1 hmark).1
        exact absurd (hm ▸ List.mem_cons_self) h
    | cons c a ih =>
      cases mark with
      | nil => exact List.nil_prefix
      | cons m mark =>
        obtain ⟨hm, hrest⟩ := List.cons_prefix_cons.1 hmark
        exact List.cons_prefix_cons.2 ⟨hm, ih (fun hsep => h (List.mem_cons_of_mem m hsep)) hrest⟩
  · intro hmark
    exact hmark.trans (List.prefix_append a (sep :: b))

/-- A mark without the separator does not reach over it. -/
theorem infix_append_cons_iff (h : sep ∉ mark) (a b : Text) :
    mark <:+: a ++ sep :: b ↔ mark <:+: a ∨ mark <:+: b := by
  induction a with
  | nil =>
    have hstart := prefix_append_cons_iff h [] b
    rw [List.nil_append] at hstart ⊢
    rw [List.infix_cons_iff, hstart, List.prefix_nil, List.infix_nil]
  | cons c a ih =>
    have hstart := prefix_append_cons_iff h (c :: a) b
    rw [List.cons_append] at hstart ⊢
    rw [List.infix_cons_iff, hstart, ih, List.infix_cons_iff, or_assoc]

/-- A mark without the separator stands in joined pieces if it stands in one of them. -/
theorem infix_intercalate_iff (hne : mark ≠ []) (h : sep ∉ mark) {pieces : List Text} :
    mark <:+: [sep].intercalate pieces ↔ ∃ piece ∈ pieces, mark <:+: piece := by
  induction pieces with
  | nil => simpa [List.intercalate] using hne
  | cons piece rest ih =>
    cases rest with
    | nil => simp
    | cons next rest =>
      rw [List.intercalate_cons_cons, List.append_assoc, List.singleton_append,
        infix_append_cons_iff h, ih]
      exact (List.exists_mem_cons_iff (mark <:+: ·) piece (next :: rest)).symm

end Text

namespace Path

/-! ### Parts -/

theorem mem_parts {path part : Text} :
    part ∈ parts path ↔ part ∈ Text.split '/' path ∧ part ≠ [] ∧ part ≠ [.char '.'] := by
  simp [parts, steps, and_comm]

/-- **A mark in a path.** One without slashes, and more than a dot, is found in the path if and only if
it is found in one of the parts. -/
theorem has_iff_exists_part {mark : Text} (hslash : .char '/' ∉ mark) (hdot : ¬ mark <:+: [.char '.'])
    (path : Text) :
    Text.has mark path = true ↔ ∃ part ∈ parts path, mark <:+: part := by
  have hne : mark ≠ [] := by
    intro hnil
    exact hdot (hnil ▸ List.nil_infix)
  -- The pieces that are no parts, empty ones and single dots, are too short for the mark.
  have hpieces : Text.has mark path = true ↔ ∃ piece ∈ Text.split '/' path, mark <:+: piece := by
    rw [Text.has_iff_infix, ← Text.infix_intercalate_iff hne hslash, Text.join_split]
  rw [hpieces]
  constructor
  · intro ⟨piece, hpiece, hmark⟩
    refine ⟨piece, mem_parts.2 ⟨hpiece, ?_, ?_⟩, hmark⟩
    · intro hnil
      exact hne (List.infix_nil.1 (hnil ▸ hmark))
    · intro hsingle
      exact hdot (hsingle ▸ hmark)
  · intro ⟨part, hpart, hmark⟩
    exact ⟨part, (mem_parts.1 hpart).1, hmark⟩

/-- Slashes at the start bring no parts. -/
theorem parts_replicate_append (n : Nat) (path : Text) :
    parts (List.replicate n (.char '/') ++ path) = parts path := by
  induction n with
  | zero => rfl
  | succ n ih =>
    rw [List.replicate_succ, List.cons_append, ← ih]
    simp [parts, steps, Text.split]

theorem split_join {path : Text} (h : parts path ≠ []) :
    Text.split '/' ([.char '/'].intercalate (parts path)) = parts path :=
  Text.split_intercalate h fun _ hpart => Text.not_mem_of_mem_split (mem_parts.1 hpart).1

/-- Joined parts are the parts of the path that they make. -/
theorem parts_join {path : Text} : parts ([.char '/'].intercalate (parts path)) = parts path := by
  by_cases h : parts path = []
  · rw [h]
    rfl
  · rw [parts, steps, split_join h, List.filter_filter, List.filter_eq_self]
    intro part hpart
    have hpart := mem_parts.1 hpart
    simpa [and_comm] using hpart.2

/-! ### Slashes at the start -/

/-- The number of slashes at the start of a path. -/
def slashes (path : Text) : Nat := (path.takeWhile (· = .char '/')).length

/-- How many of `n` slashes at the start a path keeps. -/
def keptSlashes (n : Nat) : Nat := if n = 0 then 0 else if n = 2 then 2 else 1

theorem keptSlashes_keptSlashes (n : Nat) : keptSlashes (keptSlashes n) = keptSlashes n := by
  unfold keptSlashes
  split
  · rfl
  · split <;> rfl

theorem keptSlashes_eq_two_iff {n : Nat} : keptSlashes n = 2 ↔ n = 2 := by
  unfold keptSlashes
  split
  · omega
  · split <;> omega

theorem keptSlashes_eq_one_iff {n : Nat} : keptSlashes n = 1 ↔ n = 1 ∨ 3 ≤ n := by
  unfold keptSlashes
  split
  · omega
  · split <;> omega

theorem slashes_cons (path : Text) : slashes (.char '/' :: path) = slashes path + 1 := by simp [slashes]

theorem slashes_eq_zero {path : Text} (h : ∀ rest, path ≠ .char '/' :: rest) : slashes path = 0 := by
  cases path with
  | nil => rfl
  | cons c path =>
    have hc : c ≠ .char '/' := fun hc => h path (by rw [hc])
    simp [slashes, hc]

theorem root_eq (path : Text) : root path = List.replicate (keptSlashes (slashes path)) (.char '/') := by
  unfold root
  split
  · rw [slashes_cons, slashes_cons, slashes_cons]
    simp [keptSlashes]
  · next hthird =>
    rw [slashes_cons, slashes_cons, slashes_eq_zero hthird]
    rfl
  · next hsecond =>
    rw [slashes_cons, slashes_eq_zero hsecond]
    rfl
  · next hfirst =>
    rw [slashes_eq_zero hfirst]
    rfl

theorem slashes_replicate_append (n : Nat) {path : Text} (h : ∀ rest, path ≠ .char '/' :: rest) :
    slashes (List.replicate n (.char '/') ++ path) = n := by
  induction n with
  | zero => exact slashes_eq_zero h
  | succ n ih => rw [List.replicate_succ, List.cons_append, slashes_cons, ih]

/-! ### Normal forms -/

/-- Joined parts do not begin with a slash: they would be cut into an empty part first. -/
theorem join_ne_slash (path rest : Text) : [.char '/'].intercalate (parts path) ≠ .char '/' :: rest := by
  intro hjoin
  by_cases h : parts path = []
  · rw [h] at hjoin
    cases hjoin
  · have hsplit := split_join h
    rw [hjoin] at hsplit
    have hempty : [] ∈ parts path := by
      rw [← hsplit]
      exact List.mem_cons_self
    exact (mem_parts.1 hempty).2.1 rfl

/-- The normal form of a path is made of the slashes that it keeps and of its parts, or is a dot if there
are neither. -/
theorem normal_cases (path : Text) :
    normal path =
        List.replicate (keptSlashes (slashes path)) (.char '/') ++ [.char '/'].intercalate (parts path) ∨
      normal path = [.char '.'] ∧ keptSlashes (slashes path) = 0 ∧ parts path = [] := by
  rw [normal, root_eq]
  by_cases hempty : List.replicate (keptSlashes (slashes path)) (.char '/') ++ [.char '/'].intercalate (parts path) = []
  · right
    obtain ⟨hroot, hjoin⟩ := List.append_eq_nil_iff.1 hempty
    have hparts : parts path = [] := by
      rw [← parts_join, hjoin]
      rfl
    exact ⟨by simp [hempty], (List.replicate_eq_nil_iff (CodePoint.char '/')).1 hroot, hparts⟩
  · left
    simp [hempty]

theorem parts_normal (path : Text) : parts (normal path) = parts path := by
  obtain hnormal | ⟨hnormal, -, hparts⟩ := normal_cases path
  · rw [hnormal, parts_replicate_append, parts_join]
  · rw [hnormal, hparts]
    rfl

theorem slashes_normal (path : Text) : slashes (normal path) = keptSlashes (slashes path) := by
  obtain hnormal | ⟨hnormal, hslashes, -⟩ := normal_cases path
  · rw [hnormal]
    exact slashes_replicate_append _ (join_ne_slash path)
  · rw [hnormal, hslashes]
    rfl

/-- **A normal form** is its own normal form. -/
theorem normal_normal (path : Text) : normal (normal path) = normal path := by
  have hroot : root (normal path) = root path := by
    rw [root_eq, slashes_normal, keptSlashes_keptSlashes, root_eq]
  rw [normal, hroot, parts_normal, normal]

/-- Behind its slashes the normal form of a path that has parts holds nothing else. -/
theorem split_drop_normal {path : Text} (h : parts path ≠ []) :
    Text.split '/' ((normal path).drop (slashes (normal path))) = parts path := by
  obtain hnormal | ⟨-, -, hnone⟩ := normal_cases path
  · rw [slashes_normal, hnormal, List.drop_left' (List.length_replicate ..)]
    exact split_join h
  · exact absurd hnone h

end Path

/-! ### Input paths -/

namespace Converter

theorem inputPath_eq_ok {given path : Text} {w w' : Workspace}
    (h : (inputPath (.str given)).run w = .ok path w') :
    Text.has ".sql".toText given = true ∧ path = Path.normal given := by
  rw [inputPath_eq] at h
  cases hgiven : Text.has ".sql".toText given with
  | true =>
    rw [inputPath?_of_has hgiven] at h
    cases h
    exact ⟨rfl, rfl⟩
  | false =>
    obtain ⟨e, he⟩ := inputPath?_of_no_dump hgiven
    rw [he] at h
    cases h

/-- **An input path that is accepted** stays accepted in the normal form that it yields. That form holds
`.sql` as well, is its own normal form, has the same parts and nothing else between its slashes, and begins
with two slashes exactly where the path does, with one where the path begins with one or with more than two. -/
theorem inputPath_settled {given path : Text} {w w' : Workspace}
    (h : (inputPath (.str given)).run w = .ok path w') :
    Text.has ".sql".toText path = true ∧
    inputPath (.str path) = pure path ∧
    Path.parts path = Path.parts given ∧
    Text.split '/' (path.drop (Path.slashes path)) = Path.parts given ∧
    (Path.slashes path = 2 ↔ Path.slashes given = 2) ∧
    (Path.slashes path = 1 ↔ Path.slashes given = 1 ∨ 3 ≤ Path.slashes given) := by
  obtain ⟨hgiven, rfl⟩ := inputPath_eq_ok h
  have hslash : .char '/' ∉ ".sql".toText := by decide
  have hdot : ¬ ".sql".toText <:+: [.char '.'] := by decide
  have hsql : Text.has ".sql".toText (Path.normal given) = true := by
    rw [Path.has_iff_exists_part hslash hdot, Path.parts_normal, ← Path.has_iff_exists_part hslash hdot]
    exact hgiven
  have hparts : Path.parts given ≠ [] := by
    obtain ⟨part, hpart, -⟩ := (Path.has_iff_exists_part hslash hdot given).1 hgiven
    exact List.ne_nil_of_mem hpart
  have hagain : inputPath (.str (Path.normal given)) = pure (Path.normal given) := by
    rw [inputPath_eq, inputPath?_of_has hsql, Path.normal_normal]
  refine ⟨hsql, hagain, Path.parts_normal given, Path.split_drop_normal hparts, ?_, ?_⟩
  · rw [Path.slashes_normal]
    exact Path.keptSlashes_eq_two_iff
  · rw [Path.slashes_normal]
    exact Path.keptSlashes_eq_one_iff

/-- The one `.sql` is a part of its own beside dots, behind two slashes. -/
theorem inputPath_settled_of_dots :
    let given := "//.//./.sql/.//a/../".toText
    let path := "//.sql/a/..".toText
    (inputPath (.str given)).run {} = .ok path {} ∧
      inputPath (.str path) = pure path ∧
      Path.parts path = [".sql".toText, "a".toText, "..".toText] ∧
      Path.slashes path = 2 := by
  intro given path
  have hrun : (inputPath (.str given)).run {} = .ok path {} := rfl
  obtain ⟨-, hagain, hparts, -, htwo, -⟩ := inputPath_settled hrun
  refine ⟨hrun, hagain, ?_, ?_⟩
  · rw [hparts]
    decide
  · rw [htwo]
    decide

end Converter
end TableStructs
