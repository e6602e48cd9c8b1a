import TableStructs.Proofs.Call
import TableStructs.Proofs.ColumnLine
import TableStructs.Proofs.Marks

/-!
Looking up a type, and meeting it in a dump. The tool trims what it is given; a pass cuts the type out
of a column line, behind one space and before the next, and takes one comma off its end. Both then
ask the same table about the same text. What the tool shows tells its Go type (`shows_iff`,
`fails_iff`), and so does what the line does inside an open table (`adds_iff`, `stops_iff`), so each
tells the other.
-/
namespace TableStructs

/-! ### Column lines in a dump -/

namespace Printed.ColumnLine
open Conversion

section
variable {l : ColumnLine} {types : TypeTable} {tagged : Bool} {before : List Text} {table : Text}
  (hmark : Text.has headerMark l.text = false)
  (hpass : ∃ structs, (convert types tagged before).result = .ok structs)
  (hopen : openTable types tagged before = some table)
include hmark hpass hopen

/-- A conversion that has come to a column line, with a table open. -/
theorem reading_of_open :
    ∃ s : State, ({} : State).run types tagged before = (s, none) ∧ s.current.isSome = true ∧
      Reading.ofLine types tagged l.text s.current.isSome =
        match types.goType? l.sqlType.text with
        | some go => .adds (Field.ofColumn tagged l.column go)
        | none => .faulty (.unmapped l.sqlType.text none) := by
  obtain ⟨structs, hok⟩ := hpass
  obtain ⟨s, hrun, -⟩ := convert_ok_iff.1 hok
  have hcurrent : s.current.isSome = true := by
    rw [openTable, hrun] at hopen
    obtain ⟨t, ht, -⟩ := Option.map_eq_some_iff.1 hopen
    exact Option.isSome_iff_exists.2 ⟨t, ht⟩
  refine ⟨s, hrun, hcurrent, ?_⟩
  rw [hcurrent]
  exact l.reading_text types tagged hmark

/-- A column line adds a field of a Go type if and only if that is the Go type of its type. -/
theorem adds_iff {go : Text} :
    (∃ f, AddsAt types tagged before l.text f ∧ f.goType = go) ↔
      types.goType? l.sqlType.text = some go := by
  obtain ⟨s, hrun, hcurrent, hread⟩ := reading_of_open hmark hpass hopen
  constructor
  · rintro ⟨f, hadds, rfl⟩
    obtain ⟨t, ht, -, hreads⟩ := addsAt_iff.1 hadds
    obtain rfl : s = t := (Prod.mk.inj (hrun.symm.trans ht)).1
    rw [hread] at hreads
    cases hgo : types.goType? l.sqlType.text with
    | none =>
      rw [hgo] at hreads
      cases hreads
    | some go =>
      rw [hgo] at hreads
      cases hreads
      rfl
  · intro hgo
    rw [hgo] at hread
    exact ⟨_, addsAt_iff.2 ⟨s, hrun, hcurrent, hread⟩, rfl⟩

/-- A conversion stops at a column line for the type on it if and only if this has no Go type. -/
theorem stops_iff :
    StopsAt types tagged before l.text
        (.unmapped l.sqlType.text (some ((before.length + 1 : Nat) : Int))) ↔
      types.goType? l.sqlType.text = none := by
  obtain ⟨s, hrun, hcurrent, hread⟩ := reading_of_open hmark hpass hopen
  constructor
  · intro hstops
    obtain ⟨t, e, ht, herror, -⟩ := stopsAt_iff.1 hstops
    obtain rfl : s = t := (Prod.mk.inj (hrun.symm.trans ht)).1
    cases hgo : types.goType? l.sqlType.text with
    | none => rfl
    | some go =>
      rw [hread, hgo] at herror
      cases herror
  · intro hgo
    rw [hgo] at hread
    exact stopsAt_iff.2 ⟨s, _, hrun, by rw [hread]; rfl, rfl⟩

end

end Printed.ColumnLine

/-! ### Calls -/

/-- What is shown about a type tells its Go type. -/
theorem Reply.goType_of_text {sqlType go go' : Text}
    (h : (mapped sqlType go).text = (mapped sqlType go').text) : go = go' := by
  unfold text at h
  exact List.append_cancel_left (List.append_cancel_right h)

namespace Tool

section
variable {c : Converter} {arguments : Json.Members} {word : Printed.Word} {left right : Text}
  (hleft : left.all Text.isBlank = true) (hright : right.all Text.isBlank = true)
  (hgiven : argument arguments "sql_type" = .str (left ++ word.text ++ right))
include hleft hright hgiven

/-- The tool looks a word up as it is, whatever white space stands around it. -/
theorem mapped?_padded :
    mapped? c arguments =
      match c.types.goType? word.text with
      | some go => .ok (.mapped word.text go)
      | none => .error (.line (.unmapped word.text none)) := by
  have htrim : Text.trim (left ++ word.text ++ right) = word.text := by
    rw [Text.trim_padded hleft hright, word.trim_text]
  have hmapped := mapped?_of_given (c := c) hgiven
  rw [htrim, if_neg (mt List.isEmpty_iff.1 word.ne_nil)] at hmapped
  exact hmapped

theorem result_of_mapped {go : Text} (hgo : c.types.goType? word.text = some go) (w : Workspace) :
    (call c mapType.name arguments).result w = .ok (.mapped word.text go) := by
  rw [result_mapType, mapped?_padded hleft hright hgiven, hgo]
  rfl

theorem result_of_unmapped (hgo : c.types.goType? word.text = none) (w : Workspace) :
    (call c mapType.name arguments).result w = .ok (.failed (.line (.unmapped word.text none))) := by
  rw [result_mapType, mapped?_padded hleft hright hgiven, hgo]
  rfl

/-- The tool shows a Go type if and only if that is the Go type of the word. -/
theorem shows_iff (w : Workspace) {go : Text} :
    (∃ r, (call c mapType.name arguments).result w = .ok r ∧
      r.text = (Reply.mapped word.text go).text) ↔ c.types.goType? word.text = some go := by
  constructor
  · rintro ⟨r, hr, htext⟩
    cases hgo : c.types.goType? word.text with
    | none =>
      rw [result_of_unmapped hleft hright hgiven hgo] at hr
      -- What shows a type does not begin as what tells of a failure.
      have hmark := (Reply.text_prefix_iff .mapped (.mapped word.text go)).2 rfl
      rw [← htext, Reply.text_prefix_iff, ← Except.ok.inj hr] at hmark
      cases hmark
    | some go' =>
      rw [result_of_mapped hleft hright hgiven hgo] at hr
      rw [← Except.ok.inj hr] at htext
      rw [Reply.goType_of_text htext]
  · intro hgo
    exact ⟨_, result_of_mapped hleft hright hgiven hgo w, rfl⟩

/-- The tool answers that a conversion has failed if and only if the word has no Go type. -/
theorem fails_iff (w : Workspace) :
    (∃ r, (call c mapType.name arguments).result w = .ok r ∧ Reply.Mark.conversion.text <+: r.text) ↔
      c.types.goType? word.text = none := by
  constructor
  · rintro ⟨r, hr, hmark⟩
    cases hgo : c.types.goType? word.text with
    | none => rfl
    | some go =>
      rw [result_of_mapped hleft hright hgiven hgo] at hr
      rw [Reply.text_prefix_iff, ← Except.ok.inj hr] at hmark
      cases hmark
  · intro hgo
    exact ⟨_, result_of_unmapped hleft hright hgiven hgo w, (Reply.text_prefix_iff _ _).2 rfl⟩

end

/-- **Looking up a type and meeting it in a dump agree.** Given the type of a column line, with any
white space around it, the tool shows a Go type if and only if the line, wherever it stands inside an
open table, adds a field of this Go type; and it answers that it has failed if and only if the
conversion stops at the line for exactly that type. -/
theorem lookup_agrees_with_column (c : Converter) (tagged : Bool) (l : Printed.ColumnLine)
    (hmark : Text.has headerMark l.text = false) {before : List Text} {table : Text}
    (hpass : ∃ structs, (TableStructs.convert c.types tagged before).result = .ok structs)
    (hopen : Conversion.openTable c.types tagged before = some table) {left right : Text}
    (hleft : left.all Text.isBlank = true) (hright : right.all Text.isBlank = true)
    {arguments : Json.Members}
    (hgiven : argument arguments "sql_type" = .str (left ++ l.sqlType.text ++ right)) (w : Workspace) :
    (∀ go, (∃ r, (call c mapType.name arguments).result w = .ok r ∧
        r.text = (Reply.mapped l.sqlType.text go).text) ↔
      ∃ f, Conversion.AddsAt c.types tagged before l.text f ∧ f.goType = go) ∧
    ((∃ r, (call c mapType.name arguments).result w = .ok r ∧
        Reply.Mark.conversion.text <+: r.text) ↔
      Conversion.StopsAt c.types tagged before l.text
        (.unmapped l.sqlType.text (some ((before.length + 1 : Nat) : Int)))) := by
  constructor
  · intro go
    rw [shows_iff hleft hright hgiven, Printed.ColumnLine.adds_iff hmark hpass hopen]
  · rw [fails_iff hleft hright hgiven, Printed.ColumnLine.stops_iff hmark hpass hopen]

/-- A type between two spaces of a line, behind a table's first column, and the same type between a
tab and a line feed. -/
theorem lookup_agrees_with_total_column :
    let l : Printed.ColumnLine :=
      { indent := "  ".toText, name := .ofText "total".toText (by decide)
        sqlType := .ofText "numeric(10,2)".toText (by decide), comma := false
        more := some "DEFAULT 0 NOT NULL,".toText
        indent_blank := by decide, name_ne := by decide, sqlType_end := by decide }
    let before := ["CREATE TABLE orders (".toText, "  id bigint,".toText]
    let arguments : Json.Members := [("sql_type".toText, .str "\tnumeric(10,2)\n".toText)]
    l.text = "  total numeric(10,2) DEFAULT 0 NOT NULL,".toText ∧
    (∃ r, (call {} mapType.name arguments).result {} = .ok r ∧
      r.text = "\x60numeric(10,2)\x60 → \x60float32\x60".toText) ∧
    ∃ f, Conversion.AddsAt .builtin true before l.text f ∧ f.goType = "float32".toText := by
  intro l before arguments
  have hmark : Text.has headerMark l.text = false := by decide +kernel
  have hpass : ∃ structs, (TableStructs.convert .builtin true before).result = .ok structs :=
    ⟨[], by decide +kernel⟩
  have hopen : Conversion.openTable .builtin true before = some "orders".toText := by decide +kernel
  have hgiven : argument arguments "sql_type" =
      .str ("\t".toText ++ l.sqlType.text ++ "\n".toText) := rfl
  have hgo : TypeTable.builtin.goType? l.sqlType.text = some "float32".toText := by decide +kernel
  have hreply : ∃ r, (call {} mapType.name arguments).result {} = .ok r ∧
      r.text = "\x60numeric(10,2)\x60 → \x60float32\x60".toText :=
    ⟨_, result_of_mapped (by decide) (by decide) hgiven hgo {}, by decide +kernel⟩
  have hagrees := lookup_agrees_with_column {} true l hmark hpass hopen (by decide) (by decide)
    hgiven {}
  exact ⟨by decide +kernel, hreply, (hagrees.1 "float32".toText).1 hreply⟩

end Tool
end TableStructs
