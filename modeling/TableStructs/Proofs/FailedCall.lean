import TableStructs.Proofs.Call

/-!
What a conversion without a success leaves behind. A call that is answered with a failure has changed
no files. A failure that comes out of the call has changed none either, with one exception: an output
that cannot be encoded, or whose encoding is not known, leaves an empty file in its place, since the
file is opened before its text is encoded.
-/
namespace TableStructs

namespace Converter
variable {encodings : Encoding.Registry} {files files' : FileTree} {settings : Settings}
  {output path : Json.Value} {f : Failure}

theorem inputPath?_error (h : inputPath? path = .error f) :
    (∃ e, f = .usage e) ∨ ∃ kind, f = .notPath kind := by
  unfold inputPath? at h
  split at h
  · exact .inl ⟨_, (Except.error.inj h).symm⟩
  split at h
  · exact .inl ⟨_, (Except.error.inj h).symm⟩
  split at h
  · cases h
  · exact .inr ⟨_, (Except.error.inj h).symm⟩

/-- An output is refused before the file is opened, or else it cannot be encoded and the file is
empty. -/
theorem outputting_error {go : Text} (h : outputting encodings files settings output go = (.error f, files')) :
    (files' = files ∧ ((∃ kind, f = .notPath kind) ∨ (∃ e, f = .file e) ∨
      ∃ path, output.holds = true ∧ output = .str path ∧
        Action.openFailure? (Path.normal path) settings.encoding = some f)) ∨
      ∃ path, output = .str path ∧ Action.openFailure? (Path.normal path) settings.encoding = none ∧
        files.write (Path.normal path) [] = .ok files' ∧
        ((∃ e, f = .encode e) ∨
          ∃ fault, f = .encodingName fault settings.encoding ∧
            encodings settings.encoding = .error fault) := by
  unfold outputting at h
  split at h
  · next holds =>
    cases output with
    | str path =>
      simp only [Action.writing] at h
      cases hopen : Action.openFailure? (Path.normal path) settings.encoding with
      | some f' =>
        rw [hopen] at h
        cases h
        exact .inl ⟨rfl, .inr (.inr ⟨path, holds, rfl, hopen⟩)⟩
      | none =>
        rw [hopen] at h
        simp only at h
        cases hplace : files.placeForFile (Path.normal path) with
        | error fault =>
          rw [hplace] at h
          cases h
          exact .inl ⟨rfl, .inr (.inl ⟨_, rfl⟩)⟩
        | ok place =>
          have hwrite : files.write (Path.normal path) [] = .ok (files.put place (.file [])) := by
            rw [FileTree.write, hplace]
          rw [hplace] at h
          cases hname : encodings settings.encoding with
          | error fault =>
            rw [hname] at h
            cases h
            exact .inr ⟨path, rfl, hopen, hwrite, .inr ⟨fault, rfl, rfl⟩⟩
          | ok encoding =>
            rw [hname] at h
            simp only at h
            split at h
            · cases h
              exact .inr ⟨path, rfl, hopen, hwrite, .inl ⟨_, rfl⟩⟩
            · cases h
    | _ =>
      cases h
      exact .inl ⟨rfl, .inl ⟨_, rfl⟩⟩
  · cases h

end Converter

namespace Tool
open TableStructs.Action
variable {c : Converter} {arguments : Json.Members} {w : Workspace} {settings : Settings}
  {encodings : Encoding.Registry} {files files' : FileTree} {f : Failure}

/-- The output file of a conversion has been opened, but nothing has been written to it. -/
def Emptied (arguments : Json.Members) (files files' : FileTree) : Prop :=
  ∃ path, argument arguments "output_file" = .str path ∧ files.write (Path.normal path) [] = .ok files'

/-- Every path that a conversion opens, and the name of the encoding, can be handed on. -/
def Openable (w : Workspace) (arguments : Json.Members) : Prop :=
  ∃ settings, w.settings? = .ok settings ∧
    ∀ path, Opens arguments path → openFailure? (Path.normal path) settings.encoding = none

/-- The files before and after a conversion that failed. A path that cannot be encoded is noticed in
time, and an unknown encoding is if the input is a file, which is read with it. -/
def FilesAfter (w : Workspace) (arguments : Json.Members) (files' : FileTree) : Failure → Prop
  | .encode _ =>
    Openable w arguments ∧ Emptied arguments w.files files' ∨
      ¬ Openable w arguments ∧ files' = w.files
  | .encodingName _ _ =>
    if (argument arguments "sql_content").holds then Emptied arguments w.files files'
    else files' = w.files
  | _ => files' = w.files

/-! ### Failures before the output -/

theorem linesIn_error {path encoding : Text} (h : linesIn encodings files path encoding = .error f) :
    openFailure? path encoding = some f ∨ (∃ e, f = .file e) ∨ ∃ fault, f = .encodingName fault encoding := by
  unfold linesIn at h
  split at h
  · next hopen => exact .inl (hopen.trans (congrArg some (Except.error.inj h)))
  split at h
  · exact .inr (.inl ⟨_, (Except.error.inj h).symm⟩)
  split at h
  · exact .inr (.inr ⟨_, (Except.error.inj h).symm⟩)
  · cases h

section
variable (hsettings : w.settings? = .ok settings)
include hsettings

/-- A path that cannot be handed on leaves the files as they are. -/
theorem filesAfter_of_openFailure? {path : Text} (hpath : Opens arguments path)
    (h : openFailure? (Path.normal path) settings.encoding = some f) : FilesAfter w arguments w.files f := by
  obtain rfl | ⟨e, rfl⟩ := openFailure?_eq_some h
  · rfl
  · refine .inr ⟨?_, rfl⟩
    rintro ⟨settings', hsettings', hopen⟩
    obtain rfl : settings = settings' := Except.ok.inj (hsettings.symm.trans hsettings')
    rw [hopen path hpath] at h
    cases h

theorem filesAfter_of_input?_error (h : input? w.encodings w.files settings arguments = .error f) :
    FilesAfter w arguments w.files f := by
  unfold input? at h
  simp only at h
  split at h
  · split at h
    · cases h
    · cases h
      rfl
  · next hcontent =>
    split at h
    · next hpath =>
      cases h
      obtain ⟨e, rfl⟩ | ⟨kind, rfl⟩ := Converter.inputPath?_error hpath
      · rfl
      · rfl
    · next hpath =>
      obtain ⟨path, harg, rfl⟩ := Converter.inputPath?_eq_ok hpath
      obtain hopen | ⟨e, rfl⟩ | ⟨fault, rfl⟩ := linesIn_error h
      · exact filesAfter_of_openFailure? hsettings (.input (eq_false_of_ne_true hcontent) harg) hopen
      · rfl
      · exact (if_neg hcontent).mpr rfl

theorem filesAfter_of_source?_error (h : source? c w.encodings w.files settings arguments = .error f) :
    FilesAfter w arguments w.files f := by
  unfold source? at h
  split at h
  · unfold Converter.goSource? at h
    split at h
    · cases h
      rfl
    · cases h
      rfl
    · cases h
  · next hinput =>
    cases h
    exact filesAfter_of_input?_error hsettings hinput

end

/-- An input that could be read from a file shows that its path and the encoding can be used. -/
theorem openable_of_source? {go : Text} (h : source? c encodings files settings arguments = .ok go)
    (hfile : (argument arguments "sql_content").holds = false) :
    (∀ path, argument arguments "input_path" = .str path →
        openFailure? (Path.normal path) settings.encoding = none) ∧
      ∃ encoding, encodings settings.encoding = .ok encoding := by
  unfold source? at h
  split at h
  · next hinput =>
    obtain ⟨path, bytes, encoding, harg, hopen, -, hname, -⟩ := input?_of_file hinput hfile
    refine ⟨fun path' harg' => ?_, encoding, hname⟩
    obtain rfl : path = path' := Json.Value.str.inj (harg.symm.trans harg')
    exact hopen
  · cases h

/-! ### The whole call -/

theorem runConvert_outcome (c : Converter) (arguments : Json.Members) (w : Workspace) :
    (∃ output go files', (runConvert c arguments).outcome w = (.ok (.generated output go), files')) ∨
      ∃ f files', (runConvert c arguments).outcome w = (.error f, files') ∧
        FilesAfter w arguments files' f := by
  cases hsettings : w.settings? with
  | error word =>
    rw [runConvert_unset hsettings]
    exact .inr ⟨_, _, rfl, rfl⟩
  | ok settings =>
    rw [runConvert_spec hsettings]
    cases hsource : source? c w.encodings w.files settings arguments with
    | error f => exact .inr ⟨_, _, rfl, filesAfter_of_source?_error hsettings hsource⟩
    | ok go =>
      simp only [conversion]
      obtain ⟨written, files', hout⟩ : ∃ written files',
          Converter.outputting w.encodings w.files settings (argument arguments "output_file") go =
            (written, files') := ⟨_, _, rfl⟩
      rw [hout]
      cases written with
      | ok _ => exact .inl ⟨_, _, _, rfl⟩
      | error f =>
        refine .inr ⟨_, _, rfl, ?_⟩
        obtain ⟨rfl, hf⟩ | ⟨path, harg, hopen, hwrite, ⟨e, rfl⟩ | ⟨fault, rfl, hname⟩⟩ :=
          Converter.outputting_error hout
        · obtain ⟨kind, rfl⟩ | ⟨e, rfl⟩ | ⟨path, holds, harg, hopen⟩ := hf
          · rfl
          · rfl
          · exact filesAfter_of_openFailure? hsettings (.output holds harg) hopen
        · refine .inl ⟨⟨settings, hsettings, ?_⟩, path, harg, hwrite⟩
          rintro path' (⟨hcontent, hinput⟩ | ⟨-, houtput⟩)
          · exact (openable_of_source? hsource hcontent).1 path' hinput
          · obtain rfl : path = path' := Json.Value.str.inj (harg.symm.trans houtput)
            exact hopen
        · cases hcontent : (argument arguments "sql_content").holds with
          | true => exact (if_pos hcontent).mpr ⟨path, harg, hwrite⟩
          | false =>
            obtain ⟨encoding, hok⟩ := (openable_of_source? hsource hcontent).2
            rw [hok] at hname
            cases hname

/-- A failure with which a tool answers has nothing to do with an encoding that cannot be used. -/
theorem FilesAfter.eq_of_isAnswer (h : FilesAfter w arguments files' f) (hf : f.isAnswer) :
    files' = w.files := by
  cases f with
  | encode e => cases hf
  | encodingName fault name => cases hf
  | _ => exact h

/-- **The files after a conversion.** If the call does not end in a success, it is either answered
with a failure, and the files are as they were; or a failure comes out of it, and they are as they
were unless the output could not be encoded or its encoding is not known, which leaves its file empty.

In a `FileTree` a file that has been opened can be written in full. On a disk that is full, or for a file
that grows too large, the writing itself fails: the call is answered with that failure, and the output
file, opened before, does not hold what it held. Such failures are not covered here. -/
theorem files_after_conversion (c : Converter) (arguments : Json.Members) (w : Workspace) :
    (∃ output go files', (call c convert.name arguments).outcome w =
        (.ok (.generated output go), files')) ∨
      (∃ f, (call c convert.name arguments).outcome w = (.ok (.failed f), w.files)) ∨
      ∃ f files', (call c convert.name arguments).outcome w = (.error f, files') ∧
        FilesAfter w arguments files' f := by
  rw [call_spec, run]
  obtain ⟨output, go, files', hrun⟩ | ⟨f, files', hrun, hfiles⟩ := runConvert_outcome c arguments w
  · rw [hrun]
    exact .inl ⟨output, go, files', rfl⟩
  · rw [hrun, Prod.map_apply, answered]
    cases hf : f.isAnswer with
    | true => exact .inr (.inl ⟨f, by rw [hfiles.eq_of_isAnswer hf]; rfl⟩)
    | false => exact .inr (.inr ⟨f, files', rfl, hfiles⟩)

/-- **An output that cannot be encoded** empties the file that it was to replace: the call fails, and
what the file held is gone. -/
theorem unencodable_output_empties :
    let w : Workspace :=
      { files := FileTree.empty.put [.ofText "out.go".toText, .ofText "work".toText] (.file "old".toUTF8.toList)
        environment := [("SQL2GO_ENCODING".toText, "ascii".toText)] }
    let arguments : Json.Members :=
      [("sql_content".toText, .str "CREATE TABLE café (\n  x text\n);".toText),
        ("output_file".toText, .str "out.go".toText)]
    w.files.read "out.go".toText = .ok "old".toUTF8.toList ∧
      (call {} convert.name arguments).result w =
        .error (.encode <| .text
          { encoding := "ascii".toText, first := .char 'é', start := 8, count := 1,
            reason := "ordinal not in range(128)".toText }) ∧
      ((call {} convert.name arguments).after w).files.read "out.go".toText = .ok [] := by
  refine ⟨by decide +kernel, ?_, by decide +kernel⟩
  rfl

end Tool
end TableStructs
