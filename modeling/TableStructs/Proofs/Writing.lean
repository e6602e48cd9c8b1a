import TableStructs.Proofs.Outcome

/-!
Writing an output file. A text is written in two steps: the file is made anew, without content, and
then the encoded text is put into it. `writeText_spec` says what comes of both steps together, and
what is there afterwards: between the two stands the encoding, so a text that cannot be encoded
leaves an empty file. Whether a file can be written depends on where files and directories are, but
not on what the files hold (`FileTree.outline`).
-/
namespace TableStructs

namespace FileTree
variable {t : FileTree} {place : Location}

/-! ### Writing a file twice -/

theorem entryAt_of_find {l : Location} {e : Option Entry} (h : t.find l = .ok e) : t.entryAt l = e := by
  unfold find at h
  split at h
  · cases h
  · exact Except.ok.inj h

theorem find_put_of_ne {l : Location} (h : l ≠ place) (e : Entry) : (t.put place e).find l = t.find l := by
  rw [find, entryAt_put_of_ne t e h, find]

theorem find_put_self {e : Option Entry} (h : t.find place = .ok e) (new : Entry) :
    (t.put place new).find place = .ok (some new) := by
  unfold find at h ⊢
  split
  · next hlong =>
    rw [if_pos hlong] at h
    cases h
  · rw [entryAt_put_self]

/-- A walk passes directories only, so it does not meet a new entry where none has been. -/
theorem walk_put (h : t.entryAt place ≠ some .directory) (e : Entry) {start l : Location}
    {steps : List Text} (hwalk : t.walk start steps = .ok l) :
    (t.put place e).walk start steps = .ok l := by
  induction steps generalizing start with
  | nil => exact hwalk
  | cons part rest ih =>
    rw [walk] at hwalk ⊢
    cases hfind : t.find start with
    | error fault =>
      rw [hfind] at hwalk
      cases hwalk
    | ok found =>
      have hentry := entryAt_of_find hfind
      rw [hfind] at hwalk
      match found with
      | none => cases hwalk
      | some (.file bytes) => cases hwalk
      | some .directory =>
        have hne : start ≠ place := fun hs => h (hs ▸ hentry)
        rw [find_put_of_ne hne, hfind]
        exact ih hwalk

theorem locate_put (h : t.entryAt place ≠ some .directory) (e : Entry) {path : Text} {l : Location}
    (hl : t.locate path = .ok l) : (t.put place e).locate path = .ok l := by
  unfold locate at hl ⊢
  cases hbytes : Path.bytes path with
  | error fault =>
    rw [hbytes] at hl
    cases hl
  | ok bytes =>
    rw [hbytes] at hl
    simp only at hl ⊢
    split at hl
    · cases hl
    split at hl
    · cases hl
    · rw [if_neg ‹_›, if_neg ‹_›]
      exact walk_put h e hl

/-- What there is at the place for a file. -/
theorem of_placeForFile {path : Text} (h : t.placeForFile path = .ok place) :
    t.locate path = .ok place ∧ Path.endsInSlash path = false ∧
      ∃ found, t.find place = .ok found ∧ found ≠ some .directory := by
  unfold placeForFile at h
  cases hl : t.locate path with
  | error fault =>
    rw [hl] at h
    cases h
  | ok l =>
    rw [hl] at h
    simp only at h
    split at h
    · cases h
    · next hslash =>
      split at h
      · cases h
      · cases h
      · next found hdirectory hfound =>
        cases h
        exact ⟨rfl, eq_false_of_ne_true hslash, found, hfound, hdirectory⟩

theorem placeForFile_put {path : Text} (h : t.placeForFile path = .ok place) (bytes : List UInt8) :
    (t.put place (.file bytes)).placeForFile path = .ok place := by
  obtain ⟨hl, hslash, found, hfound, hdirectory⟩ := of_placeForFile h
  have hentry : t.entryAt place ≠ some .directory := by
    rw [entryAt_of_find hfound]
    exact hdirectory
  rw [placeForFile, locate_put hentry _ hl]
  simp [hslash, find_put_self hfound]

theorem put_put (t : FileTree) (place : Location) (e e' : Entry) :
    (t.put place e).put place e' = t.put place e' := by
  unfold put
  congr 1
  funext l
  by_cases hl : l = place <;> simp [hl]

end FileTree

/-! ### Trees without content -/

/-- An entry without the content of a file. -/
def Entry.outline : Entry → Entry
  | file _ => file []
  | directory => directory

namespace FileTree
variable {t : FileTree} {place : Location}

/-- The tree with all its files empty: where there is a file, where a directory, and where nothing. -/
def outline (t : FileTree) : FileTree := { t with entryAt := fun l => (t.entryAt l).map Entry.outline }

theorem find_outline (t : FileTree) (l : Location) :
    t.outline.find l = (t.find l).map (·.map Entry.outline) := by
  unfold find outline
  split <;> rfl

theorem walk_outline (t : FileTree) (start : Location) (steps : List Text) :
    t.outline.walk start steps = t.walk start steps := by
  induction steps generalizing start with
  | nil => rfl
  | cons part rest ih =>
    rw [walk, walk, find_outline]
    match t.find start with
    | .error fault => rfl
    | .ok none => rfl
    | .ok (some (.file bytes)) => rfl
    | .ok (some .directory) => exact ih _

/-- Whether a file can be written, and where, does not depend on what files hold. -/
theorem placeForFile_outline (t : FileTree) (path : Text) :
    t.outline.placeForFile path = t.placeForFile path := by
  have hlocate : t.outline.locate path = t.locate path := by
    unfold locate
    rw [walk_outline]
    rfl
  rw [placeForFile, placeForFile, hlocate]
  cases t.locate path with
  | error fault => rfl
  | ok l =>
    simp only [find_outline]
    match t.find l with
    | .error fault => rfl
    | .ok none => rfl
    | .ok (some (.file bytes)) => rfl
    | .ok (some .directory) => rfl

/-- New content of a file does not change the outline. -/
theorem outline_put_file {bytes : List UInt8} (h : t.entryAt place = some (.file bytes))
    (new : List UInt8) : (t.put place (.file new)).outline = t.outline := by
  unfold outline put
  congr 1
  funext l
  by_cases hl : l = place
  · simp [hl, h, Entry.outline]
  · simp [hl]

end FileTree

/-! ### Writing a text -/

namespace Action

theorem run_writeBytes (path : Text) (bytes : List UInt8) (w : Workspace) :
    (writeBytes path bytes).run w =
      match pathFailure? path with
      | some f => .error f w
      | none =>
        match w.files.placeForFile path with
        | .ok place => .ok () { w with files := w.files.put place (.file bytes) }
        | .error fault => .error (.file ⟨fault, path⟩) w := by
  unfold writeBytes FileTree.write
  rw [EStateM.run_bind, usablePath_run]
  cases pathFailure? path with
  | some f => rfl
  | none =>
    cases hp : w.files.placeForFile path <;>
      simp [EStateM.run_bind, hp, ofFiles]
    all_goals rfl

/-- What writing a text comes to, and the files afterwards. -/
def writing (encodings : Encoding.Registry) (files : FileTree) (path text encoding : Text) :
    Except Failure Unit × FileTree :=
  let path := Path.normal path
  match openFailure? path encoding with
  | some f => (.error f, files)
  | none =>
    match files.placeForFile path with
    | .error fault => (.error (.file ⟨fault, path⟩), files)
    | .ok place =>
      match encodings encoding with
      | .error fault => (.error (.encodingName fault encoding), files.put place (.file []))
      | .ok encoding =>
        match encoding.write text with
        | .error e => (.error (.encode e), files.put place (.file []))
        | .ok bytes => (.ok (), files.put place (.file bytes))

theorem run_writeText (path text encoding : Text) (w : Workspace) :
    (writeText path text encoding).run w =
      match writing w.encodings w.files path text encoding with
      | (.ok (), files) => .ok () { w with files }
      | (.error f, files) => .error f { w with files } := by
  unfold writeText writing openFailure?
  simp only [EStateM.run_bind, usableName_run, run_writeBytes]
  cases nameFailure? encoding with
  | some f => rfl
  | none =>
    simp only [Option.none_or]
    cases hpath : pathFailure? (Path.normal path) with
    | some f => rfl
    | none =>
      simp only
      cases hplace : w.files.placeForFile (Path.normal path) with
      | error fault => rfl
      | ok place =>
        simp only [getEncoding_run]
        cases w.encodings encoding with
        | error fault => rfl
        | ok encoding =>
          simp only
          cases encoding.write text with
          | error e => rfl
          | ok bytes =>
            simp only [run_writeBytes, hpath, FileTree.placeForFile_put hplace, FileTree.put_put]

theorem writeText_spec (path text encoding : Text) (w : Workspace) :
    outcome (writeText path text encoding) w = writing w.encodings w.files path text encoding := by
  unfold outcome result after
  rw [run_writeText]
  rcases writing w.encodings w.files path text encoding with ⟨_ | _, files⟩ <;> rfl

/-- Writing a text in the encoding of the settings. -/
theorem writeText_settings_spec {w : Workspace} {settings : Settings} (h : w.settings? = .ok settings)
    (path text : Text) :
    outcome (do writeText path text (← getSettings).encoding) w =
      writing w.encodings w.files path text settings.encoding := by
  rw [Quiet.getSettings.outcome_bind, result_getSettings h, ← Quiet.getSettings.files w,
    ← Quiet.getSettings.encodings w]
  exact writeText_spec path text settings.encoding (getSettings.after w)

end Action

/-! ### The output of a conversion -/

namespace Converter
open TableStructs.Action

/-- What writing the output of a conversion comes to, and the files afterwards. -/
def outputting (encodings : Encoding.Registry) (files : FileTree) (settings : Settings)
    (output : Json.Value) (go : Text) : Except Failure Unit × FileTree :=
  if output.holds then
    match output with
    | .str path => writing encodings files path go settings.encoding
    | other => (.error (.notPath other.kind), files)
  else (.ok (), files)

/-- Writing the output of a conversion, whichever part of the program does it. -/
theorem writeOutput_spec {w : Workspace} {settings : Settings} (h : w.settings? = .ok settings)
    (source : Log.Source) (output : Json.Value) (go : Text) :
    (writeOutput source output go).outcome w = outputting w.encodings w.files settings output go := by
  unfold writeOutput outputting
  split
  · rw [(Quiet.note _).outcome_bind, result_of_run (note_run _ w), after_of_run (note_run _ w)]
    cases output with
    | str path =>
      exact writeText_settings_spec (w := { w with log := w.log ++ [.writing source path] }) h path go
    | _ => rfl
  · rfl

/-- Where the output goes decides whether it can be written, not what files hold. -/
theorem outputting_of_outline {t u : FileTree} (h : t.outline = u.outline) (encodings : Encoding.Registry)
    (settings : Settings) (output : Json.Value) (go : Text) :
    (outputting encodings t settings output go).1 = (outputting encodings u settings output go).1 := by
  have hplace (path : Text) : t.placeForFile path = u.placeForFile path := by
    rw [← t.placeForFile_outline, h, u.placeForFile_outline]
  unfold outputting
  split
  · cases output with
    | str path =>
      simp only [writing, hplace]
      split
      · rfl
      cases u.placeForFile (Path.normal path) with
      | error fault => rfl
      | ok place =>
        cases encodings settings.encoding with
        | error fault => rfl
        | ok encoding =>
          simp only
          cases encoding.write go <;> rfl
    | _ => rfl
  · rfl

end Converter
end TableStructs
