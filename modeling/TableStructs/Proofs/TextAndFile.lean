import TableStructs.Proofs.Call
import TableStructs.Proofs.Decoding
import TableStructs.Proofs.LineEnds
import TableStructs.Proofs.Padding

/-!
A dump as a text among the arguments and as a file. A call that is given the one answers as a call
that is given the other, and neither depends on how the lines end, if the encoding reads the text back
from the file. The file's lines are those of the text, up to the line feeds that they keep; no line is
read differently for its line feed (`sayTheSame_append`), so the passes over the lines agree, and with
them what comes out of the calls. An encoding that writes two texts alike can read back but one of them,
and then the calls differ (`call_of_joined_labels`).
-/
namespace TableStructs

/-- The lines of a file say the same as those of the text in it. -/
theorem sayTheSame_ofFile {s : Text} (h : s.PlainEnds) :
    List.Forall₂ SayTheSame (Text.lines .ofFile s) (Text.lines .inline s) := by
  refine (Text.lines_ofFile h).imp ?_
  rintro line line' (rfl | rfl)
  · exact sayTheSame_append rfl line'
  · exact fun _ _ _ => rfl

theorem sayTheSame_refl (lines : List Text) : List.Forall₂ SayTheSame lines lines :=
  List.forall₂_same.2 fun _ _ _ _ _ => rfl

namespace Tool
open TableStructs.Action
variable {c : Converter} {settings : Settings} {encoding : Encoding} {encodings : Encoding.Registry}
  {files : FileTree} {text given given' : Text} {arguments arguments' : Json.Members} {w w' : Workspace}

/-- The arguments give the text itself, or else the path of a dump that holds it. -/
inductive Supplies (files : FileTree) (encoding : Encoding) (text : Text) (arguments : Json.Members) :
    Prop
  | inline (hcontent : argument arguments "sql_content" = .str text)
  | file {path : Text} {bytes : List UInt8}
      (hcontent : (argument arguments "sql_content").holds = false)
      (hpath : argument arguments "input_path" = .str path)
      (hname : Text.has ".sql".toText path = true)
      (hopen : pathFailure? (Path.normal path) = none)
      (hread : files.read (Path.normal path) = .ok bytes)
      (hbytes : encoding.encode text = .ok bytes)

/-- The arguments ask for the same, apart from the input. -/
structure SameRequest (arguments arguments' : Json.Members) : Prop where
  output : argument arguments "output_file" = argument arguments' "output_file"
  tags : arguments.lookup "include_json".toText = arguments'.lookup "include_json".toText

/-- However a text is given, the lines of the input say what the text's own lines say. -/
theorem Supplies.input? (h : Supplies files encoding text arguments)
    (hencoding : Supports encodings settings.encoding encoding) (hback : encoding.ReadsBack text)
    (htext : text ≠ []) (hends : text.PlainEnds) :
    ∃ lines, input? encodings files settings arguments = .ok { lines } ∧
      List.Forall₂ SayTheSame lines (Text.lines .inline text) := by
  cases h with
  | inline hcontent =>
    refine ⟨_, ?_, sayTheSame_refl _⟩
    obtain ⟨c, rest, rfl⟩ := List.exists_cons_of_ne_nil htext
    rw [Tool.input?, hcontent]
    rfl
  | file hcontent hpath hname hopen hread hbytes =>
    refine ⟨_, ?_, sayTheSame_ofFile hends⟩
    have hopen' := openFailure?_eq_none_iff.2 ⟨hencoding.usable, hopen⟩
    have hlines := Encoding.fileLines_of_read (hback _ hbytes)
    simp only [Tool.input?, hcontent, hpath, Converter.inputPath?_of_has hname, linesIn, hopen', hread,
      hencoding.known, hlines, Bool.false_eq_true, if_false]

theorem goSource?_congr {xs ys : List Text} (h : List.Forall₂ SayTheSame xs ys) (tagged : Bool) :
    c.goSource? settings tagged { lines := xs } = c.goSource? settings tagged { lines := ys } := by
  rw [Converter.goSource?, Converter.goSource?, convert_congr h]

section
variable (h : Supplies files encoding given arguments)
  (hencoding : Supports encodings settings.encoding encoding) (hback : encoding.ReadsBack given)
  (htext : text ≠ []) (hends : text.PlainEnds) (hgiven : Text.SameButEnds text given)
include h hencoding hback htext hends hgiven

theorem Supplies.source? :
    source? c encodings files settings arguments =
      c.goSource? settings (isTagged settings arguments) { lines := Text.lines .inline text } := by
  obtain ⟨lines, hinput, hlines⟩ := h.input? hencoding hback (hgiven.ne_nil htext) (hgiven.plainEnds hends)
  rw [hgiven.lines_eq rfl] at hlines
  rw [Tool.source?, hinput]
  exact goSource?_congr hlines _

theorem Supplies.report? :
    report? c encodings files settings arguments = .ok (TableStructs.check c.types (Text.lines .inline text)) := by
  obtain ⟨lines, hinput, hlines⟩ := h.input? hencoding hback (hgiven.ne_nil htext) (hgiven.plainEnds hends)
  rw [hgiven.lines_eq rfl] at hlines
  rw [Tool.report?, hinput]
  exact congrArg Except.ok (check_congr hlines c.types)

end

/-- Whether a conversion succeeds does not depend on what files hold. -/
theorem conversion_of_outline {t u : FileTree} (h : t.outline = u.outline) (output : Json.Value)
    (source : Except Failure Text) :
    (conversion encodings t settings output source).1 =
      (conversion encodings u settings output source).1 := by
  cases source with
  | error f => rfl
  | ok go => simp only [conversion, Converter.outputting_of_outline h]

/-- **A text and a file** with the text in it are the same to both tools, in the text itself or with
other line ends, if the encoding reads back what it has written: the calls are answered with the same
reply, or the same failure comes out of them. UTF-8, ASCII and Latin-1 read back every text. Files may
hold different content where the two calls are made, so that the one can have its text in a file and the
other one cannot; where they do not, the calls also leave the same files. -/
theorem call_of_supplies (c : Converter) (hw : w.settings? = .ok settings)
    (hw' : w'.settings? = .ok settings) (hfiles : w.files.outline = w'.files.outline)
    (hencodings : w.encodings = w'.encodings) (hencoding : Supports w.encodings settings.encoding encoding)
    (hback : encoding ∈ [Encoding.utf8, Encoding.ascii, Encoding.latin1] ∨
      encoding.ReadsBack given ∧ encoding.ReadsBack given')
    (htext : text ≠ []) (hends : text.PlainEnds)
    (hgiven : Text.SameButEnds text given) (hgiven' : Text.SameButEnds text given')
    (h : Supplies w.files encoding given arguments) (h' : Supplies w'.files encoding given' arguments')
    (hsame : SameRequest arguments arguments') {tool : Tool} (htool : tool ≠ .mapType) :
    (call c tool.name arguments).result w = (call c tool.name arguments').result w' ∧
      (w.files = w'.files →
        (call c tool.name arguments).outcome w = (call c tool.name arguments').outcome w') := by
  obtain ⟨hread, hread'⟩ : encoding.ReadsBack given ∧ encoding.ReadsBack given' :=
    hback.elim (fun hmem => ⟨(Encoding.faithful_of_mem hmem).read _, (Encoding.faithful_of_mem hmem).read _⟩) id
  have hencoding' : Supports w'.encodings settings.encoding encoding := hencodings ▸ hencoding
  show ((call c tool.name arguments).outcome w).1 = ((call c tool.name arguments').outcome w').1 ∧ _
  rw [call_spec, call_spec]
  cases tool with
  | convert =>
    have htags : isTagged settings arguments = isTagged settings arguments' := by
      rw [isTagged, hsame.tags, isTagged]
    rw [run, run, runConvert_spec hw, runConvert_spec hw', h.source? hencoding hread htext hends hgiven,
      h'.source? hencoding' hread' htext hends hgiven', htags, hsame.output, ← hencodings]
    exact ⟨congrArg answered (conversion_of_outline hfiles _ _), fun hfiles => by rw [hfiles]⟩
  | check =>
    rw [run, run, runCheck_spec hw, runCheck_spec hw', h.report? hencoding hread htext hends hgiven,
      h'.report? hencoding' hread' htext hends hgiven']
    exact ⟨rfl, fun hfiles => by rw [hfiles]⟩
  | mapType => exact absurd rfl htool

/-- A dump as a text, where the file is empty, and as that file, where it holds the dump with other
line ends. -/
theorem call_of_dump_in_file :
    let text := "CREATE TABLE users (\n  id bigint,\n  name money\n);\n".toText
    let bytes := "CREATE TABLE users (\r\n  id bigint,\r\n  name money\r\n);\r\n".toUTF8.toList
    let place : Location := [.ofText "m.sql".toText, .ofText "work".toText]
    let w : Workspace := { files := FileTree.empty.put place (.file []) }
    let w' : Workspace := { w with files := w.files.put place (.file bytes) }
    (call {} convert.name [("sql_content".toText, .str text)]).result w =
      (call {} convert.name [("input_path".toText, .str "m.sql".toText)]).result w' := by
  intro text bytes place w w'
  have hfiles : w'.files.outline = w.files.outline :=
    FileTree.outline_put_file (FileTree.entryAt_put_self FileTree.empty place (.file [])) bytes
  have hsettings : w.settings? = .ok {} := rfl
  have hsettings' : w'.settings? = .ok {} := rfl
  have hinline : Supplies w.files Encoding.utf8 text [("sql_content".toText, .str text)] := .inline rfl
  have hpath : argument [("input_path".toText, .str "m.sql".toText)] "input_path" =
      .str "m.sql".toText := rfl
  have hread : w'.files.read (Path.normal "m.sql".toText) = .ok bytes := by decide +kernel
  have hfile : Supplies w'.files Encoding.utf8 (Text.withEnds [.char '\r', .char '\n'] text)
      [("input_path".toText, .str "m.sql".toText)] :=
    .file rfl hpath (by decide) (by decide +kernel) hread (by decide +kernel)
  have hencoding : Supports w.encodings "utf-8".toText Encoding.utf8 := ⟨by decide +kernel, rfl⟩
  have hends : Text.PlainEnds text := by decide +kernel
  have hreturn : .char '\r' ∉ text := by decide +kernel
  have hback : Encoding.utf8 ∈ [Encoding.utf8, Encoding.ascii, Encoding.latin1] := List.mem_cons_self
  exact (call_of_supplies {} hsettings hsettings' hfiles.symm rfl hencoding (.inl hback) (by decide +kernel)
    hends (.inl rfl)
    (.inr ⟨hreturn, .inl rfl⟩) hinline hfile ⟨rfl, rfl⟩ (by decide)).1

/-- **Dots that are written alike** are read as one dot: to IDNA an ideographic full stop parts a name
into labels, as a full stop does, and what it has written is read with a full stop. In the text it is part
of the table's name; in the file the name is what follows it. -/
theorem call_of_joined_labels :
    let text := "CREATE TABLE a。b (\n  x text\n);".toText
    let bytes := "CREATE TABLE a.b (\n  x text\n);".toUTF8.toList
    let w : Workspace :=
      { files := FileTree.empty.put [.ofText "m.sql".toText, .ofText "work".toText] (.file bytes)
        environment := [("SQL2GO_ENCODING".toText, "idna".toText)] }
    let encoding := Encoding.idna Encoding.Idna.asciiOnly
    w.settings? = .ok { encoding := "idna".toText } ∧ Supports w.encodings "idna".toText encoding ∧
      text.PlainEnds ∧
      Supplies w.files encoding text [("sql_content".toText, .str text)] ∧
      Supplies w.files encoding text [("input_path".toText, .str "m.sql".toText)] ∧
      (call {} convert.name [("sql_content".toText, .str text)]).result w =
        .ok (.generated none "type A。b struct \x7b\n  X string\n\x7d\n\n".toText) ∧
      (call {} convert.name [("input_path".toText, .str "m.sql".toText)]).result w =
        .ok (.generated none "type B struct \x7b\n  X string\n\x7d\n\n".toText) := by
  intro text bytes w encoding
  have hsettings : w.settings? = .ok { encoding := "idna".toText } := by decide +kernel
  have hpath : argument [("input_path".toText, .str "m.sql".toText)] "input_path" =
      .str "m.sql".toText := rfl
  have hread : w.files.read (Path.normal "m.sql".toText) = .ok bytes := by decide +kernel
  have hbytes : encoding.encode text = .ok bytes := by decide +kernel
  have hinline : source? {} w.encodings w.files { encoding := "idna".toText } [("sql_content".toText, .str text)] =
      .ok "type A。b struct \x7b\n  X string\n\x7d\n\n".toText := by
    decide +kernel
  have hfile : source? {} w.encodings w.files { encoding := "idna".toText }
      [("input_path".toText, .str "m.sql".toText)] =
        .ok "type B struct \x7b\n  X string\n\x7d\n\n".toText := by
    decide +kernel
  refine ⟨hsettings, ⟨by decide +kernel, rfl⟩, by decide +kernel, .inline rfl,
    .file rfl hpath (by decide) (by decide +kernel) hread hbytes, ?_, ?_⟩
  · rw [result_convert_alone hsettings rfl, hinline]
    rfl
  · rw [result_convert_alone hsettings rfl, hfile]
    rfl

end Tool
end TableStructs
