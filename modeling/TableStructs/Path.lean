import TableStructs.Encoding.Utf8

/-!
File paths as texts, their bytes, and their normal form: no empty parts, no parts that are a single
dot, no slash at the end. Two dots stay, since what they mean depends on the files. Exactly two
slashes at the start stay two; any other number of them is one.
-/
namespace TableStructs.Path

/-- The bytes of a path, by which files go. -/
def bytes (path : Text) : Except Encoding.EncodeError (List UInt8) :=
  Encoding.encodeBy Encoding.keptBytes? path

/-- What stands between slashes, single dots included. -/
def steps (path : Text) : List Text := (Text.split '/' path).filter fun part => !part.isEmpty

/-- The parts between slashes that name something. -/
def parts (path : Text) : List Text := (steps path).filter fun part => part ≠ [.char '.']

/-- Whether a path ends in a slash, by which it asks for a directory. -/
def endsInSlash (path : Text) : Bool := path.getLast? = some (.char '/')

/-- The slashes that a path keeps at its start. -/
def root (path : Text) : Text :=
  match path with
  | .char '/' :: .char '/' :: .char '/' :: _ => [.char '/']
  | .char '/' :: .char '/' :: _ => [.char '/', .char '/']
  | .char '/' :: _ => [.char '/']
  | _ => []

/-- Whether a path begins at the root. -/
def isAbsolute (path : Text) : Bool := !(root path).isEmpty

/-- The normal form of a path; a path that names nothing is the current place, a dot. -/
def normal (path : Text) : Text :=
  let kept := root path ++ [.char '/'].intercalate (parts path)
  if kept.isEmpty then [.char '.'] else kept

theorem eq_slash_of_mem_root {path : Text} {c : CodePoint} (h : c ∈ root path) : c = .char '/' := by
  unfold root at h
  split at h <;> simp_all

/-- The normal form of a path has no characters of its own, but for slashes and a dot. -/
theorem mem_normal {path : Text} {c : CodePoint} (h : c ∈ normal path) :
    c = .char '.' ∨ c = .char '/' ∨ c ∈ path := by
  unfold normal at h
  simp only at h
  split at h
  · exact .inl (List.mem_singleton.1 h)
  · obtain hroot | hparts := List.mem_append.1 h
    · exact .inr (.inl (eq_slash_of_mem_root hroot))
    · obtain hslash | ⟨part, hpart, hc⟩ := Text.mem_intercalate hparts
      · exact .inr (.inl (List.mem_singleton.1 hslash))
      · have hpiece : part ∈ Text.split '/' path := (List.mem_filter.1 (List.mem_filter.1 hpart).1).1
        exact .inr (.inr (Text.subset_of_mem_split hpiece hc))

/-- A path can be handed to the files in its normal form if it can be as it is. -/
theorem contains_zero_normal {path : Text} (h : .char '\x00' ∉ path) :
    (normal path).contains '\x00' = false := by
  rw [← Bool.not_eq_true, List.contains_iff_mem]
  intro hzero
  obtain hdot | hslash | hpath := mem_normal hzero
  · exact absurd hdot (by decide)
  · exact absurd hslash (by decide)
  · exact h hpath

end TableStructs.Path
