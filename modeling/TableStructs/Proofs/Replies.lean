import TableStructs.Proofs.Marks
import TableStructs.Proofs.TwoTools
import TableStructs.Schema

/-!
What calls are answered with. Where the arguments fit the tool's description, no path among them holds the
code point zero and files are in UTF-8, every call is answered, and the beginning of the reply tells what
has become of it, unless a text with surrogates is to be encoded (`call_reports`). A usage error comes
before everything else; then the lines are read and used as far as the file can be decoded; the output
comes last.

Two texts with surrogates can end a call without an answer: a path that is used, since files go by
bytes, and the source that is to be written (`Raises`).
-/
namespace TableStructs

/-- A file that can be read has a path with bytes. -/
theorem FileTree.bytes_of_read {files : FileTree} {path : Text} {content : List UInt8}
    (h : files.read path = .ok content) : ∃ bytes, Path.bytes path = .ok bytes := by
  cases hbytes : Path.bytes path with
  | ok bytes => exact ⟨bytes, rfl⟩
  | error e =>
    have hlocate : files.locate path = .error .missing := by rw [locate, hbytes]
    rw [read, follow, hlocate] at h
    cases h

theorem FileTree.bytes_of_locate {files : FileTree} {path : Text} {place : Location}
    (h : files.locate path = .ok place) : ∃ bytes, Path.bytes path = .ok bytes := by
  unfold locate at h
  split at h
  · cases h
  · next bytes hbytes => exact ⟨bytes, hbytes⟩

namespace Tool
open TableStructs.Action Reply
variable {c : Converter} {tool : Tool} {arguments : Json.Members} {w : Workspace}
  {settings : Settings} {encodings : Encoding.Registry} {files : FileTree} {output : Json.Value}

/-! ### The marks that calls earn -/

/-- A dump is given as a text. -/
def HasText (arguments : Json.Members) : Prop :=
  ∃ text, argument arguments "sql_content" = .str text ∧ text ≠ []

/-- A dump is given by its path. -/
structure HasPath (arguments : Json.Members) (path : Text) : Prop where
  noText : ¬ HasText arguments
  given : argument arguments "input_path" = .str path
  isDump : Text.has ".sql".toText path = true

/-- No dump is given, neither as a text nor by a path. -/
structure Dumpless (arguments : Json.Members) : Prop where
  noText : ¬ HasText arguments
  noDump : ∀ path, argument arguments "input_path" = .str path → Text.has ".sql".toText path = false

/-- What there is to read of the dump that is given, up to where its file cannot be decoded. -/
inductive Input (files : FileTree) (arguments : Json.Members) : Lines → Prop
  | text {text : Text} (hcontent : argument arguments "sql_content" = .str text) (htext : text ≠ []) :
      Input files arguments { lines := Text.lines .inline text }
  | file {path : Text} {bytes : List UInt8} (hpath : HasPath arguments path)
      (hread : files.read (Path.normal path) = .ok bytes) :
      Input files arguments (Encoding.utf8.fileLines bytes)

/-- The lines of the dump that is given, all of which can be read. -/
inductive Dump (files : FileTree) (arguments : Json.Members) : List Text → Prop
  | text {text : Text} (hcontent : argument arguments "sql_content" = .str text) (htext : text ≠ []) :
      Dump files arguments (Text.lines .inline text)
  | file {path text : Text} {bytes : List UInt8} (hpath : HasPath arguments path)
      (hread : files.read (Path.normal path) = .ok bytes)
      (htext : Encoding.utf8.text? bytes = some text) : Dump files arguments (Text.lines .ofFile text)

/-- Lines can be converted. -/
def Parses (c : Converter) (settings : Settings) (arguments : Json.Members) (lines : List Text) : Prop :=
  ∃ structs, (TableStructs.convert c.types (isTagged settings arguments) lines).result = .ok structs

/-- The output can be written, if one is asked for. -/
def Writable (files : FileTree) (output : Json.Value) : Prop :=
  ∀ path, output = .str path → path ≠ [] → ∀ bytes, ∃ files', files.write (Path.normal path) bytes = .ok files'

/-- The mark that a call of a tool earns, if it does not run into its files. -/
inductive Earns (c : Converter) (files : FileTree) (settings : Settings) (arguments : Json.Members) :
    Tool → Mark → Prop
  | converted {lines : List Text} (hdump : Dump files arguments lines)
      (hparses : Parses c settings arguments lines)
      (hwritable : Writable files (argument arguments "output_file")) :
      Earns c files settings arguments convert .success
  /-- A line in error counts before what cannot be decoded behind it. -/
  | broken {input : Lines} (hinput : Input files arguments input)
      (hparses : ¬ Parses c settings arguments input.lines) :
      Earns c files settings arguments convert .conversion
  | valid {lines : List Text} (hdump : Dump files arguments lines)
      (hparses : Parses c settings arguments lines) : Earns c files settings arguments check .success
  /-- A line in error is reported. -/
  | invalid {lines : List Text} (hdump : Dump files arguments lines)
      (hparses : ¬ Parses c settings arguments lines) : Earns c files settings arguments check .invalid
  | dumpless {tool : Tool} (htool : tool ≠ mapType) (h : Dumpless arguments) :
      Earns c files settings arguments tool .usage
  | mapped {given go : Text} (hgiven : argument arguments "sql_type" = .str given)
      (htype : Text.trim given ≠ []) (hgo : c.types.goType? (Text.trim given) = some go) :
      Earns c files settings arguments mapType .mapped
  | unmapped {given : Text} (hgiven : argument arguments "sql_type" = .str given)
      (htype : Text.trim given ≠ []) (hgo : c.types.goType? (Text.trim given) = none) :
      Earns c files settings arguments mapType .conversion
  | typeless {given : Text} (hgiven : argument arguments "sql_type" = .str given)
      (htype : Text.trim given = []) : Earns c files settings arguments mapType .usage

/-- The call of a tool has to encode a text that cannot be encoded. -/
inductive Raises (c : Converter) (files : FileTree) (settings : Settings) (arguments : Json.Members) :
    Tool → Encoding.EncodeError → Prop
  /-- The path of the dump has no bytes. -/
  | input {tool : Tool} {path : Text} {e : Encoding.EncodeError} (htool : tool ≠ mapType)
      (hpath : HasPath arguments path) (hbytes : Path.bytes (Path.normal path) = .error e) :
      Raises c files settings arguments tool e
  /-- The path of the output has none. -/
  | output {lines : List Text} {path : Text} {e : Encoding.EncodeError} (hdump : Dump files arguments lines)
      (hparses : Parses c settings arguments lines)
      (houtput : argument arguments "output_file" = .str path) (hne : path ≠ [])
      (hbytes : Path.bytes (Path.normal path) = .error e) : Raises c files settings arguments convert e
  /-- The output can be written, but not the source. -/
  | source {lines : List Text} {structs : List Struct} {e : Encoding.EncodeError}
      (hdump : Dump files arguments lines)
      (hparses : (TableStructs.convert c.types (isTagged settings arguments) lines).result = .ok structs)
      (houtput : (argument arguments "output_file").holds = true)
      (hwritable : Writable files (argument arguments "output_file"))
      (hgo : Encoding.utf8.encode (goSource (c.key settings) structs) = .error e) :
      Raises c files settings arguments convert e

/-! ### Arguments that fit -/

/-- A value that is a text, or not there. -/
def IsText (v : Json.Value) : Prop := v = .null ∨ ∃ s, v = .str s

theorem IsText.holds_iff {v : Json.Value} (h : IsText v) :
    v.holds = true ↔ ∃ s, v = .str s ∧ s ≠ [] := by
  obtain rfl | ⟨s, rfl⟩ := h
  · simp [Json.Value.holds]
  · simp [Json.Value.holds]

/-- A value that is a path, or not there. -/
structure IsPath (v : Json.Value) : Prop where
  isText : IsText v
  noZero : ∀ path, v = .str path → .char '\x00' ∉ path

namespace Fits

theorem eq_str {a : Argument} {v : Json.Value} (h : tool.Fits arguments) (ha : a ∈ tool.parameters)
    (htype : a.type = .string) (hv : arguments.lookup a.name = some v) : ∃ s, v = .str s := by
  have hadmits := h.admits a ha v hv
  rw [htype] at hadmits
  cases v with
  | str s => exact ⟨s, rfl⟩
  | _ => cases hadmits

theorem isText {name : String} (h : tool.Fits arguments)
    (ha : ∃ a ∈ tool.parameters, a.name = name.toText ∧ a.type = .string) :
    IsText (argument arguments name) := by
  obtain ⟨a, ha, hname, htype⟩ := ha
  unfold argument
  cases hv : arguments.lookup name.toText with
  | none => exact .inl rfl
  | some v => exact .inr (h.eq_str ha htype (hname ▸ hv))

/-- The type that is to be looked up is there. -/
theorem sqlType (h : mapType.Fits arguments) : ∃ s, argument arguments "sql_type" = .str s := by
  obtain ⟨a, ha, hname, htype, hrequired⟩ : ∃ a ∈ mapType.parameters,
      a.name = "sql_type".toText ∧ a.type = .string ∧ a.required = true := by
    decide +kernel
  obtain ⟨v, hv⟩ := Option.isSome_iff_exists.1 (h.given a ha hrequired)
  obtain ⟨s, rfl⟩ := h.eq_str ha htype hv
  rw [argument, ← hname, hv]
  exact ⟨s, rfl⟩

end Fits

/-- The arguments that give a dump are a text and a path. -/
structure Readable (arguments : Json.Members) : Prop where
  content : IsText (argument arguments "sql_content")
  path : IsPath (argument arguments "input_path")

/-! ### Inputs -/

theorem Dump.input {lines : List Text} (h : Dump files arguments lines) :
    Input files arguments { lines } := by
  cases h with
  | text hcontent htext => exact .text hcontent htext
  | file hpath hread htext =>
    exact Encoding.fileLines_of_read (Encoding.read_utf8.2 htext) ▸ .file hpath hread

/-- Where a file cannot be decoded is an answer. -/
theorem Input.failure_bytes {input : Lines} {d : Encoding.DecodeError} (h : Input files arguments input)
    (hfailure : input.failure = some d) : ∃ bad, d = .bytes bad := by
  cases h with
  | text => cases hfailure
  | file hpath hread => exact Encoding.readParts_utf8_failure hfailure

theorem Input.dump {input : Lines} (h : Input files arguments input) (hwhole : input.failure = none) :
    Dump files arguments input.lines := by
  cases h with
  | text hcontent htext => exact .text hcontent htext
  | @file path bytes hpath hread =>
    have hdecoded : Encoding.utf8.read bytes = { text := (Encoding.utf8.read bytes).text } := by
      rw [← hwhole]
      rfl
    rw [Encoding.fileLines_of_read hdecoded]
    exact .file hpath hread (Encoding.read_utf8.1 hdecoded)

/-- A path without the code point zero can be handed on if it has bytes. -/
theorem pathFailure?_of_noZero {path : Text} (h : .char '\x00' ∉ path) :
    pathFailure? (Path.normal path) =
      match Path.bytes (Path.normal path) with
      | .error e => some (.encode e)
      | .ok _ => none := by
  rw [pathFailure?, Path.contains_zero_normal h]
  rfl

namespace Readable

theorem holds_iff (h : Readable arguments) :
    (argument arguments "sql_content").holds = true ↔ HasText arguments := h.content.holds_iff

/-- Without a text, the input is a file. -/
theorem input?_of_noText (h : Readable arguments) (hno : ¬ HasText arguments) :
    input? encodings files settings arguments =
      match Converter.inputPath? (argument arguments "input_path") with
      | .error f => .error f
      | .ok path => linesIn encodings files path settings.encoding :=
  if_neg (mt h.holds_iff.1 hno)

theorem input?_of_path {path : Text} (h : Readable arguments) (hpath : HasPath arguments path) :
    input? encodings files settings arguments =
      linesIn encodings files (Path.normal path) settings.encoding := by
  rw [h.input?_of_noText hpath.noText, hpath.given, Converter.inputPath?_of_has hpath.isDump]

theorem input?_of_dumpless (h : Readable arguments) (hdumpless : Dumpless arguments) :
    ∃ e, input? encodings files settings arguments = .error (.usage e) := by
  rw [h.input?_of_noText hdumpless.noText]
  obtain hnull | ⟨path, hpath⟩ := h.path.isText
  · rw [hnull]
    exact ⟨.noInput, rfl⟩
  · obtain ⟨e, he⟩ := Converter.inputPath?_of_no_dump (hdumpless.noDump path hpath)
    rw [hpath, he]
    exact ⟨e, rfl⟩

section
variable (hencoding : Supports encodings settings.encoding Encoding.utf8)
include hencoding

theorem openFailure?_eq {path : Text} (h : Readable arguments) (hpath : HasPath arguments path) :
    openFailure? (Path.normal path) settings.encoding =
      match Path.bytes (Path.normal path) with
      | .error e => some (.encode e)
      | .ok _ => none := by
  rw [openFailure?, hencoding.usable, Option.none_or, pathFailure?_of_noZero (h.path.noZero _ hpath.given)]

theorem input?_of_input {input : Lines} (h : Readable arguments) (hinput : Input files arguments input) :
    input? encodings files settings arguments = .ok input := by
  cases hinput with
  | text hcontent htext =>
    have holds := h.holds_iff.2 ⟨_, hcontent, htext⟩
    rw [input?, if_pos holds, hcontent]
  | file hpath hread =>
    obtain ⟨bytes, hbytes⟩ := FileTree.bytes_of_read hread
    rw [h.input?_of_path hpath, linesIn, h.openFailure?_eq hencoding hpath, hbytes, hread, hencoding.known]

theorem input?_of_bytes_error {path : Text} {e : Encoding.EncodeError} (h : Readable arguments)
    (hpath : HasPath arguments path) (hbytes : Path.bytes (Path.normal path) = .error e) :
    input? encodings files settings arguments = .error (.encode e) := by
  rw [h.input?_of_path hpath, linesIn, h.openFailure?_eq hencoding hpath, hbytes]

/-- There is no dump, or its path has no bytes, or its file cannot be opened, or it can be read. -/
theorem input_cases (h : Readable arguments) (files : FileTree) :
    Dumpless arguments ∨
      (∃ path e, HasPath arguments path ∧ Path.bytes (Path.normal path) = .error e) ∨
      (∃ e, input? encodings files settings arguments = .error (.file e)) ∨
      ∃ input, Input files arguments input := by
  by_cases htext : HasText arguments
  · obtain ⟨text, hcontent, htext⟩ := htext
    exact .inr (.inr (.inr ⟨_, .text hcontent htext⟩))
  by_cases hpath : ∃ path, HasPath arguments path
  · obtain ⟨path, hpath⟩ := hpath
    cases hbytes : Path.bytes (Path.normal path) with
    | error e => exact .inr (.inl ⟨path, e, hpath, hbytes⟩)
    | ok bytes =>
      cases hread : files.read (Path.normal path) with
      | ok bytes => exact .inr (.inr (.inr ⟨_, .file hpath hread⟩))
      | error e =>
        rw [h.input?_of_path hpath, linesIn, h.openFailure?_eq hencoding hpath, hbytes, hread]
        exact .inr (.inr (.inl ⟨e, rfl⟩))
  · refine .inl ⟨htext, fun path hgiven => ?_⟩
    rw [← Bool.not_eq_true]
    exact fun hdump => hpath ⟨path, htext, hgiven, hdump⟩

end

end Readable

/-! ### Outputs -/

/-- Writing to a path needs a place there. -/
theorem writable_str_iff {path : Text} :
    Writable files (.str path) ↔ path = [] ∨ ∃ place, files.placeForFile (Path.normal path) = .ok place := by
  constructor
  · intro h
    refine or_iff_not_imp_left.2 fun hne => ?_
    obtain ⟨files', hwrite⟩ := h path rfl hne []
    rw [FileTree.write] at hwrite
    split at hwrite
    · cases hwrite
    · next place hplace => exact ⟨place, hplace⟩
  · rintro (rfl | ⟨place, hplace⟩) path' hpath' hne bytes
    · exact absurd (Json.Value.str.inj hpath').symm hne
    · refine ⟨files.put place (.file bytes), ?_⟩
      rw [← Json.Value.str.inj hpath', FileTree.write, hplace]

section
variable (hencoding : Supports encodings settings.encoding Encoding.utf8)
include hencoding

/-- What comes of an output, stage by stage. -/
theorem outputting_str {path : Text} (hne : path ≠ []) (hzero : .char '\x00' ∉ path) (go : Text) :
    (Converter.outputting encodings files settings (.str path) go).1 =
      match Path.bytes (Path.normal path) with
      | .error e => .error (.encode e)
      | .ok _ =>
        match files.placeForFile (Path.normal path) with
        | .error fault => .error (.file ⟨fault, Path.normal path⟩)
        | .ok _ =>
          match Encoding.utf8.encode go with
          | .error e => .error (.encode e)
          | .ok _ => .ok () := by
  have holds : (Json.Value.str path).holds = true := by simp [Json.Value.holds, hne]
  have hwrite : Encoding.utf8.write go = Encoding.utf8.encode go := rfl
  rw [Converter.outputting, if_pos holds]
  simp only [Action.writing, openFailure?, hencoding.usable, Option.none_or, pathFailure?_of_noZero hzero]
  cases Path.bytes (Path.normal path) with
  | error e => rfl
  | ok bytes =>
    simp only [hencoding.known, hwrite]
    cases files.placeForFile (Path.normal path) with
    | error fault => rfl
    | ok place => cases Encoding.utf8.encode go <;> rfl

/-- Where the output can be written, it is left to the source whether it is. -/
theorem outputting_of_writable (h : IsPath output) (hwritable : Writable files output) (go : Text) :
    (Converter.outputting encodings files settings output go).1 =
      if output.holds then
        match Encoding.utf8.encode go with
        | .error e => .error (.encode e)
        | .ok _ => .ok ()
      else .ok () := by
  cases holds : output.holds with
  | false => simp [Converter.outputting, holds]
  | true =>
    obtain ⟨path, rfl, hne⟩ := h.isText.holds_iff.1 holds
    obtain hnil | ⟨place, hplace⟩ := writable_str_iff.1 hwritable
    · exact absurd hnil hne
    · obtain ⟨bytes, hbytes⟩ := FileTree.bytes_of_locate (FileTree.of_placeForFile hplace).1
      rw [outputting_str hencoding hne (h.noZero path rfl), hbytes, hplace]
      rfl

/-- An output that cannot be written ends in its path's failure to be encoded, or in one with files. -/
theorem outputting_of_not_writable (h : IsPath output) (hwritable : ¬ Writable files output) (go : Text) :
    (∃ path e, output = .str path ∧ path ≠ [] ∧ Path.bytes (Path.normal path) = .error e) ∨
      ∃ e, (Converter.outputting encodings files settings output go).1 = .error (.file e) := by
  obtain rfl | ⟨path, rfl⟩ := h.isText
  · exact absurd nofun hwritable
  rw [writable_str_iff, not_or] at hwritable
  obtain ⟨hne, hplace⟩ := hwritable
  rw [outputting_str hencoding hne (h.noZero path rfl)]
  cases hbytes : Path.bytes (Path.normal path) with
  | error e => exact .inl ⟨path, e, rfl, hne, hbytes⟩
  | ok bytes =>
    simp only
    cases hp : files.placeForFile (Path.normal path) with
    | ok place => exact absurd ⟨place, hp⟩ hplace
    | error fault => exact .inr ⟨_, rfl⟩

end

/-! ### Sources and reports -/

/-- A report finds a dump valid if it can be converted. -/
theorem isValid_iff_parses (settings : Settings) (arguments : Json.Members) (lines : List Text) :
    (TableStructs.check c.types lines).isValid = true ↔ Parses c settings arguments lines := by
  constructor
  · intro hvalid
    cases hconvert : (TableStructs.convert c.types (isTagged settings arguments) lines).result with
    | ok structs => exact ⟨structs, hconvert⟩
    | error e =>
      rw [(first_error_of_convert hconvert).1] at hvalid
      cases hvalid
  · rintro ⟨structs, hconvert⟩
    exact isValid_of_convert hconvert

section
variable (hreadable : Readable arguments) (hencoding : Supports encodings settings.encoding Encoding.utf8)
include hreadable hencoding

theorem source?_of_dump {lines : List Text} {structs : List Struct} (hdump : Dump files arguments lines)
    (hparses : (TableStructs.convert c.types (isTagged settings arguments) lines).result = .ok structs) :
    source? c encodings files settings arguments = .ok (goSource (c.key settings) structs) := by
  rw [source?, hreadable.input?_of_input hencoding hdump.input]
  simp only [Converter.goSource?, hparses]

theorem source?_of_broken {input : Lines} (hinput : Input files arguments input)
    (hparses : ¬ Parses c settings arguments input.lines) :
    ∃ e, source? c encodings files settings arguments = .error (.line e) := by
  rw [source?, hreadable.input?_of_input hencoding hinput]
  cases hconvert : (TableStructs.convert c.types (isTagged settings arguments) input.lines).result with
  | ok structs => exact absurd ⟨structs, hconvert⟩ hparses
  | error e =>
    simp only [Converter.goSource?, hconvert]
    exact ⟨e, rfl⟩

theorem source?_of_undecodable {input : Lines} {d : Encoding.DecodeError}
    (hinput : Input files arguments input) (hfailure : input.failure = some d)
    (hparses : Parses c settings arguments input.lines) :
    source? c encodings files settings arguments = .error (.decode d) := by
  obtain ⟨structs, hconvert⟩ := hparses
  rw [source?, hreadable.input?_of_input hencoding hinput]
  simp only [Converter.goSource?, hconvert, hfailure]

theorem report?_of_dump {lines : List Text} (hdump : Dump files arguments lines) :
    report? c encodings files settings arguments = .ok (TableStructs.check c.types lines) := by
  rw [report?, hreadable.input?_of_input hencoding hdump.input]

theorem report?_of_undecodable {input : Lines} {d : Encoding.DecodeError}
    (hinput : Input files arguments input) (hfailure : input.failure = some d) :
    report? c encodings files settings arguments = .error (.decode d) := by
  rw [report?, hreadable.input?_of_input hencoding hinput]
  simp only [hfailure]

end

/-! ### Replies -/

section
variable (hsettings : w.settings? = .ok settings)
  (hencoding : Supports w.encodings settings.encoding Encoding.utf8) (hreadable : Readable arguments)
include hsettings hencoding hreadable

/-- A text that cannot be encoded ends a conversion. -/
theorem Raises.of_convert {e : Encoding.EncodeError} (houtput : IsPath (argument arguments "output_file"))
    (h : Raises c w.files settings arguments convert e) :
    (call c convert.name arguments).result w = .error (.encode e) := by
  rw [result_convert hsettings]
  cases h with
  | input _ hpath hbytes =>
    rw [source?, hreadable.input?_of_bytes_error hencoding hpath hbytes]
    rfl
  | output hdump hparses hgiven hne hbytes =>
    obtain ⟨structs, hconvert⟩ := hparses
    have hzero := houtput.noZero _ hgiven
    rw [source?_of_dump hreadable hencoding hdump hconvert, conversion, hgiven,
      outputting_str hencoding hne hzero, hbytes]
    rfl
  | source hdump hconvert hholds hwritable hgo =>
    rw [source?_of_dump hreadable hencoding hdump hconvert, conversion,
      outputting_of_writable hencoding houtput hwritable, if_pos hholds, hgo]
    rfl

/-- A path that cannot be encoded ends a check. -/
theorem Raises.of_check {e : Encoding.EncodeError} (h : Raises c w.files settings arguments check e) :
    (call c check.name arguments).result w = .error (.encode e) := by
  rw [result_check hsettings]
  cases h with
  | input _ hpath hbytes =>
    rw [report?, hreadable.input?_of_bytes_error hencoding hpath hbytes]
    rfl

theorem Earns.of_convert {m : Mark} (houtput : IsPath (argument arguments "output_file"))
    (hnot : ∀ e, ¬ Raises c w.files settings arguments convert e)
    (h : Earns c w.files settings arguments convert m) :
    ∃ r, (call c convert.name arguments).result w = .ok r ∧ r.mark = m := by
  rw [result_convert hsettings]
  cases h with
  | converted hdump hparses hwritable =>
    obtain ⟨structs, hconvert⟩ := hparses
    have hwritten : (Converter.outputting w.encodings w.files settings (argument arguments "output_file")
        (goSource (c.key settings) structs)).1 = .ok () := by
      rw [outputting_of_writable hencoding houtput hwritable]
      split
      · next holds =>
        cases hgo : Encoding.utf8.encode (goSource (c.key settings) structs) with
        | error e => exact absurd (.source hdump hconvert holds hwritable hgo) (hnot e)
        | ok bytes => rfl
      · rfl
    rw [source?_of_dump hreadable hencoding hdump hconvert, conversion, hwritten]
    exact ⟨_, rfl, rfl⟩
  | broken hinput hparses =>
    obtain ⟨e, he⟩ := source?_of_broken hreadable hencoding hinput hparses
    rw [he]
    exact ⟨_, rfl, rfl⟩
  | dumpless _ hdumpless =>
    obtain ⟨e, he⟩ := hreadable.input?_of_dumpless hdumpless
    rw [source?, he]
    exact ⟨_, rfl, rfl⟩

theorem Earns.of_check {m : Mark} (h : Earns c w.files settings arguments check m) :
    ∃ r, (call c check.name arguments).result w = .ok r ∧ r.mark = m := by
  rw [result_check hsettings]
  cases h with
  | valid hdump hparses =>
    rw [report?_of_dump hreadable hencoding hdump]
    exact ⟨_, rfl, if_pos ((isValid_iff_parses settings arguments _).2 hparses)⟩
  | invalid hdump hparses =>
    rw [report?_of_dump hreadable hencoding hdump]
    exact ⟨_, rfl, if_neg (mt (isValid_iff_parses settings arguments _).1 hparses)⟩
  | dumpless _ hdumpless =>
    obtain ⟨e, he⟩ := hreadable.input?_of_dumpless hdumpless
    rw [report?, he]
    exact ⟨_, rfl, rfl⟩

/-- A conversion has to encode what cannot be encoded, or it earns a mark, or it runs into a file: the
input cannot be opened or decoded, or there is no place for the output. -/
theorem convert_cases (c : Converter) (houtput : IsPath (argument arguments "output_file")) :
    (∃ e, Raises c w.files settings arguments convert e) ∨
      (∃ m, Earns c w.files settings arguments convert m) ∨
      ∃ f, (call c convert.name arguments).result w = .ok (.failed f) ∧ markOf f = .io := by
  rw [result_convert hsettings]
  -- The stages of a conversion in their order: the input, its lines, the failure behind them, the output.
  obtain hdumpless | ⟨path, e, hpath, hbytes⟩ | ⟨e, he⟩ | ⟨input, hinput⟩ :=
    hreadable.input_cases hencoding w.files
  · exact .inr (.inl ⟨_, .dumpless (by decide) hdumpless⟩)
  · exact .inl ⟨e, .input (by decide) hpath hbytes⟩
  · rw [source?, he]
    exact .inr (.inr ⟨.file e, rfl, rfl⟩)
  by_cases hparses : Parses c settings arguments input.lines
  · cases hfailure : input.failure with
    | some d =>
      obtain ⟨bad, rfl⟩ := hinput.failure_bytes hfailure
      rw [source?_of_undecodable hreadable hencoding hinput hfailure hparses]
      exact .inr (.inr ⟨.decode (.bytes bad), rfl, rfl⟩)
    | none =>
      have hdump := hinput.dump hfailure
      by_cases hwritable : Writable w.files (argument arguments "output_file")
      · exact .inr (.inl ⟨_, .converted hdump hparses hwritable⟩)
      · obtain ⟨structs, hconvert⟩ := hparses
        obtain ⟨path, e, hgiven, hne, hbytes⟩ | ⟨e, he⟩ :=
          outputting_of_not_writable hencoding houtput hwritable (goSource (c.key settings) structs)
        · exact .inl ⟨e, .output hdump ⟨structs, hconvert⟩ hgiven hne hbytes⟩
        · rw [source?_of_dump hreadable hencoding hdump hconvert, conversion, he]
          exact .inr (.inr ⟨.file e, rfl, rfl⟩)
  · exact .inr (.inl ⟨_, .broken hinput hparses⟩)

/-- A check has to encode a path that cannot be encoded, or it earns a mark, or the input cannot be opened or
decoded. -/
theorem check_cases (c : Converter) :
    (∃ e, Raises c w.files settings arguments check e) ∨
      (∃ m, Earns c w.files settings arguments check m) ∨
      ∃ f, (call c check.name arguments).result w = .ok (.failed f) ∧ markOf f = .io := by
  rw [result_check hsettings]
  obtain hdumpless | ⟨path, e, hpath, hbytes⟩ | ⟨e, he⟩ | ⟨input, hinput⟩ :=
    hreadable.input_cases hencoding w.files
  · exact .inr (.inl ⟨_, .dumpless (by decide) hdumpless⟩)
  · exact .inl ⟨e, .input (by decide) hpath hbytes⟩
  · rw [report?, he]
    exact .inr (.inr ⟨.file e, rfl, rfl⟩)
  cases hfailure : input.failure with
  | some d =>
    obtain ⟨bad, rfl⟩ := hinput.failure_bytes hfailure
    rw [report?_of_undecodable hreadable hencoding hinput hfailure]
    exact .inr (.inr ⟨.decode (.bytes bad), rfl, rfl⟩)
  | none =>
    have hdump := hinput.dump hfailure
    by_cases hparses : Parses c settings arguments input.lines
    · exact .inr (.inl ⟨_, .valid hdump hparses⟩)
    · exact .inr (.inl ⟨_, .invalid hdump hparses⟩)

end

theorem Earns.of_mapType {m : Mark} (h : Earns c files settings arguments mapType m) (w : Workspace) :
    ∃ r, (call c mapType.name arguments).result w = .ok r ∧ r.mark = m := by
  rw [result_mapType]
  cases h with
  | dumpless htool _ => exact absurd rfl htool
  | mapped hgiven htype hgo =>
    rw [mapped?_of_given hgiven, if_neg (mt List.isEmpty_iff.1 htype), hgo]
    exact ⟨_, rfl, rfl⟩
  | unmapped hgiven htype hgo =>
    rw [mapped?_of_given hgiven, if_neg (mt List.isEmpty_iff.1 htype), hgo]
    exact ⟨_, rfl, rfl⟩
  | typeless hgiven htype =>
    rw [mapped?_of_given hgiven, if_pos (List.isEmpty_iff.2 htype)]
    exact ⟨_, rfl, rfl⟩

/-- Looking up a type cannot run into a file. -/
theorem mapType_earns (hfits : mapType.Fits arguments) (c : Converter) (files : FileTree)
    (settings : Settings) : ∃ m, Earns c files settings arguments mapType m := by
  obtain ⟨given, hgiven⟩ := hfits.sqlType
  by_cases htype : Text.trim given = []
  · exact ⟨_, .typeless hgiven htype⟩
  · cases hgo : c.types.goType? (Text.trim given) with
    | some go => exact ⟨_, .mapped hgiven htype hgo⟩
    | none => exact ⟨_, .unmapped hgiven htype hgo⟩

/-- No call earns the mark of a failure with files. -/
theorem Earns.ne_io {m : Mark} (h : Earns c files settings arguments tool m) : m ≠ .io := by
  cases h <;> decide

theorem Fits.readable (h : tool.Fits arguments) (htool : tool ≠ mapType)
    (hzero : ∀ path, argument arguments "input_path" = .str path → .char '\x00' ∉ path) : Readable arguments := by
  have hparameters : ∀ name ∈ ["input_path", "sql_content"],
      ∃ a ∈ tool.parameters, a.name = name.toText ∧ a.type = .string := by
    cases tool with
    | mapType => exact absurd rfl htool
    | _ => decide +kernel
  exact ⟨h.isText (hparameters _ (by decide)), h.isText (hparameters _ (by decide)), hzero⟩

/-- What comes out of the call of a tool: the failure to encode a text, or a reply that has the mark that the
call earns, or else that of a failure with files. -/
def Reports (c : Converter) (w : Workspace) (settings : Settings) (arguments : Json.Members) (tool : Tool) :
    Prop :=
  (∃ e, Raises c w.files settings arguments tool e ∧
      (call c tool.name arguments).result w = .error (.encode e)) ∨
    (∀ e, ¬ Raises c w.files settings arguments tool e) ∧
      ∃ reply, (call c tool.name arguments).Returns w reply ∧
        (∀ m ≠ Mark.io, m.text <+: reply.text ↔ Earns c w.files settings arguments tool m) ∧
        (Mark.io.text <+: reply.text ↔ ∀ m, ¬ Earns c w.files settings arguments tool m)

theorem reports_of_earns
    (hraises : ∀ e, Raises c w.files settings arguments tool e →
      (call c tool.name arguments).result w = .error (.encode e))
    (hearns : (∀ e, ¬ Raises c w.files settings arguments tool e) →
      ∀ m, Earns c w.files settings arguments tool m →
        ∃ r, (call c tool.name arguments).result w = .ok r ∧ r.mark = m)
    (htotal : (∃ e, Raises c w.files settings arguments tool e) ∨
      (∃ m, Earns c w.files settings arguments tool m) ∨
      ∃ f, (call c tool.name arguments).result w = .ok (.failed f) ∧ markOf f = .io) :
    Reports c w settings arguments tool := by
  by_cases h : ∃ e, Raises c w.files settings arguments tool e
  · obtain ⟨e, he⟩ := h
    exact .inl ⟨e, he, hraises e he⟩
  have hnot : ∀ e, ¬ Raises c w.files settings arguments tool e := not_exists.1 h
  refine .inr ⟨hnot, ?_⟩
  -- The call has one reply, so all marks that it earns are the mark of this one.
  have hmark {r : Reply} (hr : (call c tool.name arguments).result w = .ok r) {m : Mark}
      (h : Earns c w.files settings arguments tool m) : m = r.mark := by
    obtain ⟨r', hr', rfl⟩ := hearns hnot m h
    cases hr.symm.trans hr'
    rfl
  simp only [returns_iff_result, text_prefix_iff]
  obtain hsome | ⟨n, hn⟩ | ⟨f, hf, hio⟩ := htotal
  · exact absurd hsome h
  · obtain ⟨r, hr, rfl⟩ := hearns hnot n hn
    refine ⟨r, hr, fun m _ => ⟨fun h => h ▸ hn, hmark hr⟩, fun h => absurd h.symm hn.ne_io, fun h => ?_⟩
    exact absurd hn (h _)
  · have hnone (m : Mark) : ¬ Earns c w.files settings arguments tool m := fun h =>
      h.ne_io ((hmark hf h).trans hio)
    refine ⟨_, hf, fun m hm => ⟨fun h => absurd (h.trans hio) hm, fun h => absurd h (hnone m)⟩, ?_⟩
    exact ⟨fun _ => hnone, fun _ => hio.symm⟩

/-- **Every call is answered**, and the beginning of the reply tells what has become of it: the reply
has the mark that the call earns, or else that of a failure with files. Only a text that cannot be encoded
ends a call without an answer. -/
theorem call_reports (c : Converter) {w : Workspace} {settings : Settings} {name : Text}
    {arguments : Json.Members} (hsettings : w.settings? = .ok settings)
    (hencoding : Supports w.encodings settings.encoding Encoding.utf8)
    (harguments : (ofName? name).bind (·.complaint? arguments) = none)
    (hzero : ∀ key ∈ ["input_path", "output_file"], ∀ path, argument arguments key = .str path →
      .char '\x00' ∉ path) :
    match ofName? name with
    | none => ∃ reply, (call c name arguments).Returns w reply ∧ reply.text = "Unknown tool: ".toText ++ name
    | some tool => name = tool.name ∧ Reports c w settings arguments tool := by
  obtain ⟨tool, rfl⟩ | hunknown := name_or_unknown name
  · rw [ofName?_name] at harguments ⊢
    have hfits := complaint?_eq_none_iff.1 harguments
    refine ⟨rfl, ?_⟩
    cases tool with
    | convert =>
      have hreadable := hfits.readable (by decide) (hzero "input_path" (by decide))
      have houtput : IsPath (argument arguments "output_file") :=
        ⟨hfits.isText (by decide +kernel), hzero "output_file" (by decide)⟩
      exact reports_of_earns (fun e h => h.of_convert hsettings hencoding hreadable houtput)
        (fun hnot m h => h.of_convert hsettings hencoding hreadable houtput hnot)
        (convert_cases hsettings hencoding hreadable c houtput)
    | check =>
      have hreadable := hfits.readable (by decide) (hzero "input_path" (by decide))
      exact reports_of_earns (fun e h => h.of_check hsettings hencoding hreadable)
        (fun _ m h => h.of_check hsettings hencoding hreadable) (check_cases hsettings hencoding hreadable c)
    | mapType =>
      have hnot : ∀ e, ¬ Raises c w.files settings arguments mapType e := by
        rintro e ⟨htool, -, -⟩
        exact htool rfl
      exact reports_of_earns (fun e h => absurd h (hnot e)) (fun _ m h => h.of_mapType w)
        (.inr (.inl (mapType_earns hfits c w.files settings)))
  · rw [hunknown]
    exact ⟨_, returns_iff_result.2 (result_of_run (call_unknown hunknown c arguments w)), rfl⟩

/-- A dump in a file that is converted into another file. -/
theorem call_reports_success :
    let dump := "CREATE TABLE s (\n  id bigint\n);\n"
    let w : Workspace :=
      { files := FileTree.empty.put [.ofText "m.sql".toText, .ofText "work".toText]
          (.file dump.toUTF8.toList) }
    let arguments : Json.Members :=
      [("input_path".toText, .str "m.sql".toText), ("output_file".toText, .str "s.go".toText)]
    ∃ reply, (call {} convert.name arguments).Returns w reply ∧ "✅".toText <+: reply.text := by
  intro dump w arguments
  have hsettings : w.settings? = .ok {} := rfl
  have hencoding : Supports w.encodings "utf-8".toText Encoding.utf8 := ⟨by decide +kernel, rfl⟩
  have hinput : argument arguments "input_path" = .str "m.sql".toText := rfl
  have houtput : argument arguments "output_file" = .str "s.go".toText := rfl
  have hzero : ∀ key ∈ ["input_path", "output_file"], ∀ path, argument arguments key = .str path →
      .char '\x00' ∉ path := by
    intro key hkey path hpath
    obtain rfl | rfl := List.mem_pair.1 hkey
    · rw [← Json.Value.str.inj (hinput.symm.trans hpath)]
      decide
    · rw [← Json.Value.str.inj (houtput.symm.trans hpath)]
      decide
  have hdump : Dump w.files arguments (Text.lines .ofFile dump.toText) := by
    have hno : ¬ HasText arguments := by
      rintro ⟨text, hcontent, -⟩
      have hnull : argument arguments "sql_content" = .null := rfl
      rw [hnull] at hcontent
      cases hcontent
    have hread : w.files.read (Path.normal "m.sql".toText) =
        .ok dump.toUTF8.toList := by
      decide +kernel
    exact .file ⟨hno, hinput, by decide⟩ hread (by decide +kernel)
  have hsource : source? {} w.encodings w.files {} arguments =
      .ok "type S struct \x7b\n  Id int64\n\x7d\n\n".toText := by
    decide +kernel
  have hwritten : (Converter.outputting w.encodings w.files {} (.str "s.go".toText)
      "type S struct \x7b\n  Id int64\n\x7d\n\n".toText).1 = .ok () := by
    decide +kernel
  have hparses : Parses {} {} arguments (Text.lines .ofFile dump.toText) := by
    have hok :
        (TableStructs.convert TypeTable.builtin false (Text.lines .ofFile dump.toText)).result.isOk = true := by
      decide +kernel
    cases hconvert : (TableStructs.convert TypeTable.builtin false (Text.lines .ofFile dump.toText)).result with
    | ok structs => exact ⟨structs, hconvert⟩
    | error e =>
      rw [hconvert] at hok
      cases hok
  have hwritable : Writable w.files (argument arguments "output_file") := by
    have hplace : w.files.placeForFile (Path.normal "s.go".toText) =
        .ok [.ofText "s.go".toText, .ofText "work".toText] := by
      decide +kernel
    exact houtput ▸ writable_str_iff.2 (.inr ⟨_, hplace⟩)
  have harguments : (ofName? convert.name).bind (·.complaint? arguments) = none := by decide +kernel
  obtain ⟨-, ⟨e, -, hfailed⟩ | ⟨-, reply, hreturns, hmarks, -⟩⟩ :=
    call_reports {} hsettings hencoding harguments hzero
  · rw [result_convert hsettings, hsource, houtput, conversion, hwritten] at hfailed
    cases hfailed
  · exact ⟨reply, hreturns, (hmarks .success (by decide)).2 (.converted hdump hparses hwritable)⟩

/-- **A surrogate in a path** ends the call: the path has no bytes, and no tool answers with that. -/
theorem surrogate_in_path_comes_out :
    let arguments : Json.Members := [("input_path".toText, .str (.surrogate 0 :: ".sql".toText))]
    let w : Workspace := {}
    w.settings? = .ok {} ∧ Supports w.encodings "utf-8".toText Encoding.utf8 ∧
      (ofName? convert.name).bind (·.complaint? arguments) = none ∧
      .char '\x00' ∉ .surrogate 0 :: ".sql".toText ∧
      (call {} convert.name arguments).result w =
        .error (.encode <| .text
          { encoding := "utf-8".toText, first := .surrogate 0, start := 0, count := 1,
            reason := "surrogates not allowed".toText }) := by
  intro arguments w
  have hsettings : w.settings? = .ok {} := rfl
  have hsource : source? {} w.encodings w.files {} arguments =
      .error (.encode <| .text
        { encoding := "utf-8".toText, first := .surrogate 0, start := 0, count := 1,
          reason := "surrogates not allowed".toText }) := by
    decide +kernel
  refine ⟨hsettings, ⟨by decide +kernel, rfl⟩, by decide +kernel, by decide +kernel, ?_⟩
  rw [result_convert_alone hsettings rfl, hsource]
  rfl

end Tool
end TableStructs
