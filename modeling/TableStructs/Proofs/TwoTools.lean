import TableStructs.Proofs.Agreement
import TableStructs.Proofs.Call
import TableStructs.Proofs.Decoding

/-!
A conversion and a check of the same input, side by side. Without an output file the two calls differ
in one thing only: a conversion reads its lines as they come, so that a line in error can stop it
before the file turns out not to be decodable, while a check has to have all lines first. Otherwise
they share their failures, and the check's report agrees with the conversion (`Accord`). The failure to
decode is the answer of the check, or comes out of it if the encoding gives no place for it
(`rule_comes_out_of_check`).
-/
namespace TableStructs

/-! ### Reports with problems -/

namespace Report

/-- What stands before an error in a report: nothing, or the name of its table. -/
def IsLead (lead : Text) : Prop :=
  lead = [] ∨ ∃ table, lead = "Table '".toText ++ table ++ "': ".toText

/-- How the reply of a check begins that has found problems. -/
def failedHeading (problems : Nat) : Text :=
  "❌ **Dump validation failed!**\n\n".toText ++ "🚨 **Errors found".toText ++ Reply.counted problems

end Report

section
variable {types : TypeTable} {tagged : Bool} {lines : List Text}

/-- The first error in the report on a dump that does not convert is the conversion's. -/
theorem first_error_of_convert {e : LineError} (h : (convert types tagged lines).result = .error e) :
    (check types lines).isValid = false ∧
      ∃ lead, Report.IsLead lead ∧ (check types lines).errors.head? = some (lead ++ e.message) := by
  obtain ⟨before, line, rest, rfl, hstop⟩ := convert_stop h
  have hfirst := check_of_stopsAt hstop rest
  have hproblem {p : Problem} (hp : (check types (before ++ line :: rest)).problems.head? = some p) :
      (check types (before ++ line :: rest)).isValid = false ∧
        (check types (before ++ line :: rest)).errors.head? = some p.message := by
    obtain ⟨others, hothers⟩ := List.head?_eq_some_iff.1 hp
    rw [Report.isValid, Report.errors, hothers]
    exact ⟨rfl, rfl⟩
  split at hfirst
  · obtain ⟨hvalid, herror⟩ := hproblem hfirst
    exact ⟨hvalid, [], .inl rfl, herror⟩
  · obtain ⟨table, -, hcolumn⟩ := hfirst
    obtain ⟨hvalid, herror⟩ := hproblem hcolumn
    exact ⟨hvalid, _, .inr ⟨table, rfl⟩, herror⟩

theorem isValid_of_convert {structs : List Struct}
    (h : (convert types tagged lines).result = .ok structs) : (check types lines).isValid = true := by
  rw [Report.isValid, (check_of_convert_ok h).1]
  rfl

end

/-- A failure of opening or reading a file that a tool answers with. -/
def Failure.isOfFile : Failure → Bool
  | .file _ | .decode _ => true
  | _ => false

namespace Tool
open TableStructs.Action
variable {c : Converter} {arguments : Json.Members} {w : Workspace} {settings : Settings}
  {encodings : Encoding.Registry} {files : FileTree} {converted checked : Except Failure Reply}

/-- The input is a file that cannot be decoded, and a conversion stops with `e` at a line that is
complete in the text of the parts before the one in error. -/
def Overtakes (c : Converter) (encodings : Encoding.Registry) (files : FileTree) (settings : Settings)
    (arguments : Json.Members) (e : LineError) (d : Encoding.DecodeError) : Prop :=
  ∃ path bytes encoding text, (argument arguments "sql_content").holds = false ∧
    argument arguments "input_path" = .str path ∧ files.read (Path.normal path) = .ok bytes ∧
    encodings settings.encoding = .ok encoding ∧ encoding.read bytes = { text, failure := some d } ∧
    ∃ before line rest, (({} : Text.Cut).feed .ofFile text).lines = before ++ line :: rest ∧
      Conversion.StopsAt c.types (isTagged settings arguments) before line e

/-- What comes out of a conversion and of a check with the same arguments. -/
structure Accord (c : Converter) (encodings : Encoding.Registry) (files : FileTree) (settings : Settings)
    (arguments : Json.Members) (converted checked : Except Failure Reply) : Prop where
  /-- The conversion succeeds where the check finds the dump valid. -/
  success : (∃ output go, converted = .ok (.generated output go)) ↔
    ∃ r, checked = .ok (.checked r) ∧ r.isValid = true
  /-- Both refuse the same arguments. -/
  usage : ∀ e, converted = .ok (.failed (.usage e)) ↔ checked = .ok (.failed (.usage e))
  /-- Where the check finds problems, the conversion fails with the first of them. -/
  invalid : ∀ r, checked = .ok (.checked r) → r.isValid = false →
    ∃ e lead, converted = .ok (.failed (.line e)) ∧ Report.IsLead lead ∧
      r.errors.head? = some (lead ++ e.message) ∧
      Report.failedHeading r.problems.length ++ "- ".toText ++ (lead ++ e.message) ++ [.char '\n'] <+:
        Reply.text (.checked r)
  /-- Where the conversion fails with its file, the check does too. -/
  unread : ∀ f, f.isOfFile = true → converted = .ok (.failed f) → checked = .ok (.failed f)
  /-- Where the check fails with its file, the conversion does too, or a line in error comes first. -/
  overtaken : ∀ f, f.isOfFile = true → checked = .ok (.failed f) → converted = .ok (.failed f) ∨
    ∃ e d, f = .decode d ∧ converted = .ok (.failed (.line e)) ∧
      Overtakes c encodings files settings arguments e d
  /-- What comes out of the conversion comes out of the check. -/
  raised : ∀ f, converted = .error f → checked = .error f
  /-- What comes out of the check comes out of the conversion, or it is a rule of the encoding that the
  file breaks, and a line in error comes first. -/
  raised_or_overtaken : ∀ f, checked = .error f → converted = .error f ∨
    ∃ e reason, f = .decode (.rule reason) ∧ converted = .ok (.failed (.line e)) ∧
      Overtakes c encodings files settings arguments e (.rule reason)

namespace Accord

/-- All lines of the input could be used. -/
theorem valid {output : Option Text} {go : Text} {r : Report} (h : r.isValid = true) :
    Accord c encodings files settings arguments (answered (.ok (.generated output go)))
      (answered (.ok (.checked r))) where
  success := ⟨fun _ => ⟨r, rfl, h⟩, fun _ => ⟨output, go, rfl⟩⟩
  usage _ := ⟨nofun, nofun⟩
  invalid r' hr' hinvalid := by
    cases hr'
    rw [h] at hinvalid
    cases hinvalid
  unread _ _ := nofun
  overtaken _ _ := nofun
  raised _ := nofun
  raised_or_overtaken _ := nofun

end Accord

end Tool
end TableStructs
