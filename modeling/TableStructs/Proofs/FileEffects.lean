import TableStructs.Proofs.Call
import TableStructs.Proofs.Decoding

/-!
What calls do to files. A call of a tool changes one file at most, the output file of a conversion.
When the conversion succeeds, that file holds the Go source of the reply, as the encoding writes it, and
nothing else; and the source is the one that the call would have answered with if no output had been asked
for. The files enter into the source as they are before the call, so the output may be the input's own file.
UTF-8, ASCII and Latin-1 write the bytes of a text; other encodings need not (`files_after_unended_label`).
-/
namespace TableStructs

/-! ### Output files -/

/-- An output file names a place. -/
def FileTree.Names (files : FileTree) (output : Json.Value) (place : Location) : Prop :=
  ∃ path, output = .str path ∧ files.locate (Path.normal path) = .ok place

namespace Action
variable {encodings : Encoding.Registry} {files : FileTree} {path text encoding : Text}

/-- Writing a text changes nothing, or puts a file in its place. -/
theorem writing_files (encodings : Encoding.Registry) (files : FileTree) (path text encoding : Text) :
    (writing encodings files path text encoding).2 = files ∨
      ∃ place bytes, files.locate (Path.normal path) = .ok place ∧
        (writing encodings files path text encoding).2 = files.put place (.file bytes) := by
  unfold writing
  simp only
  split
  · exact .inl rfl
  cases hplace : files.placeForFile (Path.normal path) with
  | error fault => exact .inl rfl
  | ok place =>
    have hlocate := (FileTree.of_placeForFile hplace).1
    simp only
    split
    · exact .inr ⟨place, [], hlocate, rfl⟩
    split
    · exact .inr ⟨place, [], hlocate, rfl⟩
    · next bytes _ => exact .inr ⟨place, bytes, hlocate, rfl⟩

/-- What is there when a text has been written. -/
theorem writing_eq_ok {files' : FileTree}
    (h : writing encodings files path text encoding = (.ok (), files')) :
    ∃ place encoding' bytes, files.placeForFile (Path.normal path) = .ok place ∧
      encodings encoding = .ok encoding' ∧ encoding'.write text = .ok bytes ∧
      files' = files.put place (.file bytes) := by
  unfold writing at h
  simp only at h
  split at h
  · cases h
  cases hplace : files.placeForFile (Path.normal path) with
  | error fault =>
    rw [hplace] at h
    cases h
  | ok place =>
    rw [hplace] at h
    simp only at h
    split at h
    · cases h
    next encoding' hname =>
    split at h
    · cases h
    next bytes hbytes =>
    cases h
    exact ⟨place, encoding', bytes, rfl, hname, hbytes, rfl⟩

end Action

/-- A file that has been put in its place is read back. -/
theorem FileTree.read_put {files : FileTree} {path : Text} {place : Location}
    (h : files.placeForFile path = .ok place) (bytes : List UInt8) :
    (files.put place (.file bytes)).read path = .ok bytes := by
  obtain ⟨hlocate, hslash, found, hfound, -⟩ := of_placeForFile (placeForFile_put h bytes)
  obtain ⟨-, -, found', hfound', -⟩ := of_placeForFile h
  have hfollow : (files.put place (.file bytes)).follow path = .ok (some (.file bytes)) := by
    rw [follow, hlocate]
    simp only [Except.bind, find_put_self hfound', hslash]
    rfl
  rw [read, hfollow]

namespace Converter
variable {encodings : Encoding.Registry} {files files' : FileTree} {settings : Settings}
  {output : Json.Value} {go : Text}

/-- **Only the output file changes.** -/
theorem outputting_files (encodings : Encoding.Registry) (files : FileTree) (settings : Settings)
    (output : Json.Value) (go : Text) :
    (outputting encodings files settings output go).2 = files ∨
      ∃ place bytes, output.holds = true ∧ files.Names output place ∧
        (outputting encodings files settings output go).2 = files.put place (.file bytes) := by
  unfold outputting
  split
  · next holds =>
    cases output with
    | str path =>
      refine (Action.writing_files encodings files path go settings.encoding).imp_right ?_
      rintro ⟨place, bytes, hlocate, hput⟩
      exact ⟨place, bytes, holds, ⟨path, rfl, hlocate⟩, hput⟩
    | _ => exact .inl rfl
  · exact .inl rfl

/-- The files with the source in a file of its own, as the encoding of the settings writes it. -/
def Wrote (encodings : Encoding.Registry) (files : FileTree) (settings : Settings) (path go : Text)
    (files' : FileTree) : Prop :=
  ∃ place encoding bytes, files.locate (Path.normal path) = .ok place ∧
    encodings settings.encoding = .ok encoding ∧ encoding.write go = .ok bytes ∧
    (encoding ∈ [Encoding.utf8, Encoding.ascii, Encoding.latin1] → encoding.encode go = .ok bytes) ∧
    files' = files.put place (.file bytes) ∧ files'.read (Path.normal path) = .ok bytes

theorem outputting_eq_ok (h : outputting encodings files settings output go = (.ok (), files'))
    (holds : output.holds = true) :
    ∃ path, output = .str path ∧ Wrote encodings files settings path go files' := by
  unfold outputting at h
  rw [if_pos holds] at h
  cases output with
  | str path =>
    obtain ⟨place, encoding, bytes, hplace, hname, hbytes, rfl⟩ := Action.writing_eq_ok h
    have hencode (hmem : encoding ∈ [Encoding.utf8, Encoding.ascii, Encoding.latin1]) :
        encoding.encode go = .ok bytes := by
      rw [← (Encoding.faithful_of_mem hmem).write, hbytes]
    exact ⟨path, rfl, place, encoding, bytes, (FileTree.of_placeForFile hplace).1, hname, hbytes, hencode, rfl,
      FileTree.read_put hplace bytes⟩
  | _ => cases h

end Converter

namespace Tool
open TableStructs.Action
variable {c : Converter} {arguments : Json.Members} {w : Workspace} {settings : Settings}

/-! ### Arguments without an output -/

/-- The arguments, but for the one with the given name. -/
def without (name : Text) (arguments : Json.Members) : Json.Members :=
  arguments.filter fun m => m.1 ≠ name

theorem lookup_without {name other : Text} (h : other ≠ name) (arguments : Json.Members) :
    (without name arguments).lookup other = arguments.lookup other := by
  induction arguments with
  | nil => rfl
  | cons m arguments ih =>
    obtain ⟨key, value⟩ := m
    unfold without at ih ⊢
    by_cases hkey : key = name
    · have hne : (other == key) = false := by simpa [hkey] using h
      rw [List.filter_cons_of_neg (by simp [hkey]), List.lookup_cons, hne]
      exact ih
    · rw [List.filter_cons_of_pos (by simp [hkey]), List.lookup_cons, List.lookup_cons, ih]

theorem lookup_without_self (name : Text) (arguments : Json.Members) :
    (without name arguments).lookup name = none := by
  rw [List.lookup_eq_none_iff]
  intro m hm
  have hne : m.1 ≠ name := of_decide_eq_true (List.mem_filter.1 hm).2
  exact bne_iff_ne.2 hne.symm

/-- The source does not depend on the output. -/
theorem source?_without_output (c : Converter) (encodings : Encoding.Registry) (files : FileTree)
    (settings : Settings) (arguments : Json.Members) :
    source? c encodings files settings (without "output_file".toText arguments) =
      source? c encodings files settings arguments := by
  have hlookup : ∀ other ≠ "output_file".toText,
      (without "output_file".toText arguments).lookup other = arguments.lookup other :=
    fun _ h => lookup_without h arguments
  unfold source? input? isTagged argument
  rw [hlookup _ (by decide), hlookup _ (by decide), hlookup _ (by decide)]

/-! ### What a call leaves -/

theorem quiet_runCheck (c : Converter) (arguments : Json.Members) : Quiet (runCheck c arguments) := by
  rw [runCheck_eq]
  refine (quiet_input arguments).bind fun input => ?_
  split
  · exact .throw _
  · exact .pure _

/-- The files after a conversion: as they were, or with the output file in its place. -/
theorem conversion_files (encodings : Encoding.Registry) (files : FileTree) (settings : Settings)
    (output : Json.Value) (source : Except Failure Text) :
    (conversion encodings files settings output source).2 = files ∨
      ∃ place bytes, output.holds = true ∧ files.Names output place ∧
        (conversion encodings files settings output source).2 = files.put place (.file bytes) := by
  cases source with
  | error f => exact .inl rfl
  | ok go => exact Converter.outputting_files encodings files settings output go

/-- The files after a call: as they were, or with the output file of a conversion in its place. -/
theorem call_files (c : Converter) (name : Text) (arguments : Json.Members) (w : Workspace) :
    ((call c name arguments).after w).files = w.files ∨
      ∃ place bytes, name = convert.name ∧ (argument arguments "output_file").holds = true ∧
        w.files.Names (argument arguments "output_file") place ∧
        ((call c name arguments).after w).files = w.files.put place (.file bytes) := by
  obtain ⟨tool, rfl⟩ | hunknown := name_or_unknown name
  · have hfiles : ((call c tool.name arguments).after w).files = ((tool.run c arguments).after w).files :=
      congrArg Prod.snd (call_spec c tool arguments w)
    rw [hfiles]
    cases tool with
    | convert =>
      have houtcome : ((convert.run c arguments).after w).files = ((runConvert c arguments).outcome w).2 := rfl
      rw [houtcome]
      cases hsettings : w.settings? with
      | error word => exact .inl (congrArg Prod.snd (runConvert_unset hsettings))
      | ok settings =>
        rw [runConvert_spec hsettings]
        refine (conversion_files ..).imp_right ?_
        rintro ⟨place, bytes, holds, hplace, hput⟩
        exact ⟨place, bytes, rfl, holds, hplace, hput⟩
    | check => exact .inl ((quiet_runCheck c arguments).files w)
    | mapType => exact .inl (congrArg Prod.snd (runMapType_spec c arguments w))
  · rw [after_of_run (call_unknown hunknown c arguments w)]
    exact .inl rfl

/-! ### What a success leaves -/

/-- Only a conversion is answered with Go source. -/
theorem name_of_generated {name : Text} {shown : Option Text} {go : Text}
    (h : (call c name arguments).result w = .ok (.generated shown go)) : name = convert.name := by
  obtain ⟨tool, rfl⟩ | hunknown := name_or_unknown name
  · have hrun : (tool.run c arguments).result w = .ok (.generated shown go) :=
      eq_ok_of_answered ((congrArg Prod.fst (call_spec c tool arguments w)).symm.trans h) (by simp)
    cases tool with
    | convert => rfl
    | check =>
      rw [run, runCheck, result_bind] at hrun
      split at hrun <;> cases hrun
    | mapType =>
      have hmapped : (runMapType c arguments).result w = mapped? c arguments :=
        congrArg Prod.fst (runMapType_spec c arguments w)
      rw [run, hmapped, mapped?] at hrun
      repeat' split at hrun
      all_goals cases hrun
  · rw [result_of_run (call_unknown hunknown c arguments w)] at h
    cases h

/-- A conversion comes to a reply with its source, when this has been written. -/
theorem conversion_eq_ok {encodings : Encoding.Registry} {files files' : FileTree} {output : Json.Value}
    {source : Except Failure Text} {r : Reply}
    (h : conversion encodings files settings output source = (.ok r, files')) :
    ∃ go, source = .ok go ∧ r = generated output go ∧
      Converter.outputting encodings files settings output go = (.ok (), files') := by
  cases source with
  | error f => cases h
  | ok go =>
    simp only [conversion, Prod.mk.injEq] at h
    obtain ⟨hreply, rfl⟩ := h
    cases hwritten : (Converter.outputting encodings files settings output go).1 with
    | error f =>
      rw [hwritten] at hreply
      cases hreply
    | ok _ =>
      rw [hwritten] at hreply
      exact ⟨go, rfl, (Except.ok.inj hreply).symm, Prod.ext hwritten rfl⟩

/-- A successful conversion has read the settings, has its source and has written its output. -/
theorem of_generated {shown : Option Text} {go : Text}
    (h : (call c convert.name arguments).result w = .ok (.generated shown go)) :
    ∃ settings, w.settings? = .ok settings ∧ source? c w.encodings w.files settings arguments = .ok go ∧
      .generated shown go = generated (argument arguments "output_file") go ∧
      Converter.outputting w.encodings w.files settings (argument arguments "output_file") go =
        (.ok (), ((call c convert.name arguments).after w).files) := by
  have hcall := call_spec c convert arguments w
  have hrun : (runConvert c arguments).outcome w =
      (.ok (.generated shown go), ((call c convert.name arguments).after w).files) :=
    Prod.ext (eq_ok_of_answered ((congrArg Prod.fst hcall).symm.trans h) (by simp))
      (congrArg Prod.snd hcall).symm
  cases hsettings : w.settings? with
  | error word =>
    rw [runConvert_unset hsettings] at hrun
    cases hrun
  | ok settings =>
    rw [runConvert_spec hsettings] at hrun
    obtain ⟨go', hsource, hreply, hwritten⟩ := conversion_eq_ok hrun
    obtain rfl : go = go' := (Reply.generated.inj hreply).2
    exact ⟨settings, rfl, hsource, hreply, hwritten⟩

/-- **The files after a call.** Only a conversion that is given an output file can change any file,
and only this one. When the conversion succeeds, its file holds what the encoding of the settings writes for
the Go source that is shown, and nothing else; and the same source is shown when no output is asked for. -/
theorem files_after_call (c : Converter) (name : Text) (arguments : Json.Members) (w : Workspace) :
    let output := argument arguments "output_file"
    let after := ((call c name arguments).after w).files
    (name ≠ convert.name ∨ output.holds = false → after = w.files) ∧
    after.here = w.files.here ∧
    (∀ place, ¬ w.files.Names output place → after.entryAt place = w.files.entryAt place) ∧
    ∀ shown go, output.holds = true → (call c name arguments).result w = .ok (.generated shown go) →
      (∃ path settings, output = .str path ∧ shown = some path ∧ w.settings? = .ok settings ∧
        Converter.Wrote w.encodings w.files settings path go after) ∧
      (call c name (without "output_file".toText arguments)).result w = .ok (.generated none go) := by
  intro output after
  refine ⟨fun hnone => ?_, ?_, fun place hplace => ?_, fun shown go holds hgo => ?_⟩
  · obtain hsame | ⟨place, bytes, rfl, holds, -, -⟩ := call_files c name arguments w
    · exact hsame
    · obtain hname | hfalse := hnone
      · exact absurd rfl hname
      · exact absurd (hfalse.symm.trans holds) (by decide)
  · obtain hsame | ⟨place, bytes, -, -, -, hput⟩ := call_files c name arguments w
    · exact congrArg FileTree.here hsame
    · exact (congrArg FileTree.here hput).trans rfl
  · obtain hsame | ⟨place', bytes, -, -, hplace', hput⟩ := call_files c name arguments w
    · exact congrArg (·.entryAt place) hsame
    · have hne : place ≠ place' := fun h => hplace (h ▸ hplace')
      exact (congrArg (·.entryAt place) hput).trans (FileTree.entryAt_put_of_ne _ _ hne)
  · obtain rfl := name_of_generated hgo
    obtain ⟨settings, hsettings, hsource, hreply, hwritten⟩ := of_generated hgo
    constructor
    · obtain ⟨path, hpath, hwrote⟩ := Converter.outputting_eq_ok hwritten holds
      refine ⟨path, settings, hpath, ?_, hsettings, hwrote⟩
      have hshown : generated output go = .generated (some path) go := by
        rw [generated, if_pos holds]
        exact congrArg (fun v : Json.Value => Reply.generated (some v.shown) go) hpath
      exact (Reply.generated.inj (hreply.trans hshown)).1
    · have halone : (argument (without "output_file".toText arguments) "output_file").holds = false := by
        rw [argument, lookup_without_self]
        rfl
      rw [result_convert_alone hsettings halone, source?_without_output, hsource]
      rfl

/-- A dump that is overwritten with its own Go source: it has been read before. -/
theorem files_after_overwriting_the_dump :
    let path : Json.Value := .str "m.sql".toText
    let input : Json.Members := [("input_path".toText, path)]
    let arguments : Json.Members := ("output_file".toText, path) :: input
    let w : Workspace :=
      { files := FileTree.empty.put [.ofText "m.sql".toText, .ofText "work".toText]
          (.file "CREATE TABLE s (\n  id bigint\n);\n".toUTF8.toList) }
    let go := "type S struct \x7b\n  Id int64\n\x7d\n\n".toText
    (call {} convert.name arguments).result w = .ok (.generated (some "m.sql".toText) go) ∧
      Converter.Wrote w.encodings w.files {} "m.sql".toText go
        ((call {} convert.name arguments).after w).files ∧
      (call {} convert.name input).result w = .ok (.generated none go) := by
  intro path input arguments w go
  have hsettings : w.settings? = .ok {} := rfl
  have hsource : source? {} w.encodings w.files {} arguments = .ok go := by decide +kernel
  have hwritten : (Converter.outputting w.encodings w.files {} path go).1 = .ok () := by decide +kernel
  have hgo : (call {} convert.name arguments).result w = .ok (.generated (some "m.sql".toText) go) := by
    rw [result_convert hsettings, hsource]
    exact congrArg (fun x : Except Failure Unit => answered (x.map fun _ => generated path go)) hwritten
  have hinput : without "output_file".toText arguments = input := rfl
  obtain ⟨-, -, -, hsuccess⟩ := files_after_call {} convert.name arguments w
  obtain ⟨⟨path', settings, hpath, -, hread, hwrote⟩, halone⟩ := hsuccess _ go rfl hgo
  obtain rfl : path' = "m.sql".toText := Json.Value.str.inj hpath.symm
  obtain rfl : settings = {} := Except.ok.inj (hread.symm.trans hsettings)
  exact ⟨hgo, hwrote, hinput ▸ halone⟩

/-- **A last label that no dot ends** is not written by IDNA: the conversion succeeds, its source has
bytes, and the file is empty. -/
theorem files_after_unended_label :
    let w : Workspace := { environment := [("SQL2GO_ENCODING".toText, "idna".toText)] }
    let arguments : Json.Members :=
      [("sql_content".toText, .str "CREATE TABLE t (\n);".toText), ("output_file".toText, .str "t.go".toText)]
    let go := "type T struct \x7b\n\x7d\n\n".toText
    let encoding := Encoding.idna Encoding.Idna.asciiOnly
    w.encodings "idna".toText = .ok encoding ∧
      encoding.encode go = .ok "type T struct \x7b\n\x7d\n\n".toUTF8.toList ∧
      (call {} convert.name arguments).result w = .ok (.generated (some "t.go".toText) go) ∧
      ((call {} convert.name arguments).after w).files.read "t.go".toText = .ok [] := by
  intro w arguments go encoding
  have hsettings : w.settings? = .ok { encoding := "idna".toText } := by decide +kernel
  have hsource : source? {} w.encodings w.files { encoding := "idna".toText } arguments = .ok go := by
    decide +kernel
  have hwritten : (Converter.outputting w.encodings w.files { encoding := "idna".toText }
      (.str "t.go".toText) go).1 = .ok () := by
    decide +kernel
  have hread : (Converter.outputting w.encodings w.files { encoding := "idna".toText }
      (.str "t.go".toText) go).2.read "t.go".toText = .ok [] := by
    decide +kernel
  have houtcome : (call {} convert.name arguments).outcome w =
      Prod.map answered id (conversion w.encodings w.files { encoding := "idna".toText }
        (.str "t.go".toText) (.ok go)) := by
    rw [call_spec, run, runConvert_spec hsettings, hsource]
    rfl
  refine ⟨rfl, by decide +kernel, ?_, ?_⟩
  · refine (congrArg Prod.fst houtcome).trans ?_
    simp only [conversion, Prod.map_apply, hwritten]
    rfl
  · exact (congrArg (fun o => o.2.read "t.go".toText) houtcome).trans hread

end Tool
end TableStructs
