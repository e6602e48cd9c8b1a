import TableStructs.Tool
import Mathlib.Data.List.Basic

/-!
How replies begin. A client gets one text and tells from its beginning what has become of the call. No
beginning is that of another, so each reply has exactly one mark (`text_prefix_iff`).
-/
namespace TableStructs.Reply

/-- What the beginning of a reply tells. -/
inductive Mark
  | success
  | invalid
  | mapped
  | unknown
  | usage
  | conversion
  | io
deriving DecidableEq

/-- All marks. -/
def Mark.all : List Mark := [success, invalid, mapped, unknown, usage, conversion, io]

/-- The beginning itself. -/
def Mark.text : Mark → Text
  | success => "✅".toText
  | invalid => "❌ **Dump validation failed!**".toText
  | mapped => "\x60".toText
  | unknown => "Unknown tool: ".toText
  | usage => "❌ **Usage error:** ".toText
  | conversion => "❌ **Conversion failed:** ".toText
  | io => "❌ **I/O error:** ".toText

/-- The mark of the reply with a failure. -/
def markOf : Failure → Mark
  | .usage _ => .usage
  | .line _ => .conversion
  | _ => .io

/-- The mark of a reply. -/
def mark : Reply → Mark
  | generated _ _ => .success
  | checked report => if report.isValid then .success else .invalid
  | mapped _ _ => .mapped
  | unknownTool _ => .unknown
  | failed f => markOf f

theorem heading_eq (f : Failure) : heading f = (markOf f).text := by
  cases f <;> rfl

/-- A reply begins with its mark. -/
theorem begins_with_mark (r : Reply) : r.mark.text <+: r.text := by
  cases r with
  | generated output go =>
    unfold text
    simp only [List.append_assoc]
    cases output with
    | some path =>
      have hmark : Mark.success.text <+: "✅ **Go structs generated.** Writing to ".toText := by decide +kernel
      simp only [List.append_assoc]
      exact hmark.trans (List.prefix_append _ _)
    | none =>
      have hmark : Mark.success.text <+: "✅ **Go structs generated:**\n\n".toText := by decide +kernel
      exact hmark.trans (List.prefix_append _ _)
  | checked report =>
    unfold text reportText mark
    simp only [List.append_assoc]
    cases report.isValid with
    | true =>
      have hmark : Mark.success.text <+: "✅ **Dump validation passed!**\n\n".toText := by decide +kernel
      exact hmark.trans (List.prefix_append _ _)
    | false =>
      have hmark : Mark.invalid.text <+: "❌ **Dump validation failed!**\n\n".toText := by decide +kernel
      simp only [Bool.false_eq_true, if_false, List.append_assoc]
      exact hmark.trans (List.prefix_append _ _)
  | mapped sqlType goType =>
    unfold text
    simp only [List.append_assoc]
    exact List.prefix_append _ _
  | unknownTool name => exact List.prefix_append _ _
  | failed f =>
    show (markOf f).text <+: heading f ++ f.message
    rw [heading_eq]
    exact List.prefix_append _ _

/-- No mark begins another. -/
theorem Mark.eq_of_prefix {m n : Mark} (h : m.text <+: n.text) : m = n := by
  have hmem (m : Mark) : m ∈ all := by cases m <;> decide
  have hall : ∀ m ∈ all, ∀ n ∈ all, m.text <+: n.text → m = n := by decide +kernel
  exact hall m (hmem m) n (hmem n) h

/-- **A reply begins with one mark only**, its own. -/
theorem text_prefix_iff (m : Mark) (r : Reply) : m.text <+: r.text ↔ m = r.mark := by
  constructor
  · intro h
    obtain hmark | hmark := List.prefix_or_prefix_of_prefix h (begins_with_mark r)
    · exact Mark.eq_of_prefix hmark
    · exact (Mark.eq_of_prefix hmark).symm
  · rintro rfl
    exact begins_with_mark r

end TableStructs.Reply
