import TableStructs.Proofs.Call
import TableStructs.Proofs.JsonBlock
import TableStructs.Proofs.Messages

/-!
What a report says can be read back from its text. The text is a sequence of lines (`replyLines`): each
error and each warning has a line of its own, because no message holds a line feed, and an empty line
ends the errors and the warnings, because every item begins with a bullet. The structs stand last, as
JSON between two fences.

`Findings.ofText?` reads such a text; whatever the names and types of a dump are made of, it finds what
the report says, but for one thing: a name of a struct may hold two surrogates that together stand for a
character, and in JSON this is the character's own name (`check_reply_tells`). So reports that say
different things have different texts, unless the names of their structs differ in this alone
(`check_reply_joins_surrogates`).
-/
namespace TableStructs

/-! ### The lines of a reply -/

namespace Reply

/-- The first line of the reply on a dump that converts. -/
def passedLine : Text := "✅ **Dump validation passed!**".toText

/-- The line before the structs. -/
def fenceLine : Text := "\x60\x60\x60json".toText

/-- An item of a list. -/
def item (text : Text) : Text := "- ".toText ++ text

end Reply

namespace Report
open Reply

/-- The lines about errors, up to an empty one. -/
def errorLines (r : Report) : List Text :=
  if r.isValid then [passedLine, []]
  else
    ["❌ **Dump validation failed!**".toText, [],
      "🚨 **Errors found (".toText ++ Text.decimal r.problems.length ++ "):**".toText] ++
      r.errors.map item ++ [[]]

/-- The lines with the counts. -/
def summaryLines (r : Report) : List Text :=
  ["📊 **Dump Summary:**".toText, item ("Tables: ".toText ++ Text.decimal r.tableCount),
    item ("Columns: ".toText ++ Text.decimal r.columnCount),
    item ("Skipped constraints: ".toText ++ Text.decimal r.skipped)]

/-- The lines about warnings, behind an empty one, if there are any. -/
def warningLines (r : Report) : List Text :=
  if r.warnings.isEmpty then []
  else
    [[], "⚠️ **Warnings (".toText ++ Text.decimal r.warnings.length ++ "):**".toText] ++
      (r.warnings.map Warning.message).map item

/-- The lines before the structs. -/
def frontLines (r : Report) : List Text :=
  r.errorLines ++ r.summaryLines ++ r.warningLines ++ [[], fenceLine]

/-- The lines of the reply of a check. -/
def replyLines (r : Report) : List Text :=
  r.frontLines ++ Text.split '\n' (Json.countsBlock r.structs) ++ ["\x60\x60\x60".toText]

theorem bullets_eq (items : List Text) : bullets items = (items.map item).flatMap (· ++ [.char '\n']) := by
  rw [List.flatMap_map]
  rfl

theorem counted_eq (n : Nat) :
    counted n = (" (".toText ++ Text.decimal n ++ "):**".toText) ++ [.char '\n'] := by
  have hend : "):**\n".toText = "):**".toText ++ [.char '\n'] := by decide
  rw [counted, hend, ← List.append_assoc]

/-- The text of the lines about errors. -/
theorem flatMap_errorLines (r : Report) :
    r.errorLines.flatMap (· ++ [.char '\n']) =
      if r.isValid then "✅ **Dump validation passed!**\n\n".toText
      else
        "❌ **Dump validation failed!**\n\n".toText ++ "🚨 **Errors found".toText ++
          counted r.problems.length ++ bullets (r.problems.map Problem.message) ++ [.char '\n'] := by
  have hheading : "🚨 **Errors found (".toText = "🚨 **Errors found".toText ++ " (".toText := by decide
  have hfailed : "❌ **Dump validation failed!**\n\n".toText =
      "❌ **Dump validation failed!**".toText ++ [.char '\n', .char '\n'] := by decide
  unfold errorLines
  split
  · decide
  · rw [counted_eq, bullets_eq, hheading, hfailed]
    generalize "❌ **Dump validation failed!**".toText = a, "🚨 **Errors found".toText = b, " (".toText = c,
      "):**".toText = d
    simp [errors]

/-- The text of the lines about warnings. -/
theorem flatMap_warningLines (r : Report) :
    r.warningLines.flatMap (· ++ [.char '\n']) =
      if r.warnings.isEmpty then []
      else
        "\n⚠️ **Warnings".toText ++ counted r.warnings.length ++
          bullets (r.warnings.map Warning.message) := by
  have hheading : "⚠️ **Warnings (".toText = "⚠️ **Warnings".toText ++ " (".toText := by decide
  have hempty : "\n⚠️ **Warnings".toText = .char '\n' :: "⚠️ **Warnings".toText := by decide
  unfold warningLines
  split
  · rfl
  · rw [counted_eq, bullets_eq, hheading, hempty]
    generalize "⚠️ **Warnings".toText = a, " (".toText = b, "):**".toText = c
    simp

theorem flatMap_summaryLines (r : Report) :
    r.summaryLines.flatMap (· ++ [.char '\n']) =
      "📊 **Dump Summary:**\n".toText ++
        bullets
          ["Tables: ".toText ++ Text.decimal r.tableCount,
            "Columns: ".toText ++ Text.decimal r.columnCount,
            "Skipped constraints: ".toText ++ Text.decimal r.skipped] := by
  have hheading : "📊 **Dump Summary:**\n".toText = "📊 **Dump Summary:**".toText ++ [.char '\n'] := by decide
  rw [hheading, bullets_eq]
  rfl

theorem reportText_eq (r : Report) :
    reportText r = r.frontLines.flatMap (· ++ [.char '\n']) ++
      (Json.countsBlock r.structs ++ .char '\n' :: "\x60\x60\x60".toText) := by
  have hfence : [[], fenceLine].flatMap (· ++ [.char '\n']) = "\n\x60\x60\x60json\n".toText := by decide
  have hend : "\n\x60\x60\x60".toText = .char '\n' :: "\x60\x60\x60".toText := by decide
  rw [frontLines, List.flatMap_append, List.flatMap_append, List.flatMap_append, flatMap_errorLines,
    flatMap_summaryLines, flatMap_warningLines, hfence, ← hend]
  unfold reportText
  simp only [List.append_assoc]

theorem break_not_mem_item {text : Text} (h : .char '\n' ∉ text) : .char '\n' ∉ item text :=
  List.not_mem_append (by decide) h

theorem break_not_mem_items {texts : List Text} (h : ∀ text ∈ texts, .char '\n' ∉ text) :
    ∀ line ∈ texts.map item, .char '\n' ∉ line := by
  intro line hline
  obtain ⟨text, htext, rfl⟩ := List.mem_map.1 hline
  exact break_not_mem_item (h text htext)

/-- A number between words. -/
theorem break_not_mem_count {a b : Text} (ha : .char '\n' ∉ a) (hb : .char '\n' ∉ b) (n : Nat) :
    .char '\n' ∉ a ++ Text.decimal n ++ b :=
  List.not_mem_append (List.not_mem_append ha (Text.break_not_mem_decimal n)) hb

theorem break_not_mem_errorLines {r : Report} (h : r.Unbroken) :
    ∀ line ∈ r.errorLines, .char '\n' ∉ line := by
  unfold errorLines
  split
  · decide
  · simp only [List.forall_mem_append, List.forall_mem_cons]
    exact ⟨⟨⟨by decide, by decide, break_not_mem_count (by decide) (by decide) _, nofun⟩,
      break_not_mem_items h.errors⟩, by decide, nofun⟩

theorem break_not_mem_summaryLines (r : Report) : ∀ line ∈ r.summaryLines, .char '\n' ∉ line := by
  have hcount {label : Text} (hlabel : .char '\n' ∉ label) (n : Nat) :
      .char '\n' ∉ item (label ++ Text.decimal n) :=
    break_not_mem_item (List.not_mem_append hlabel (Text.break_not_mem_decimal n))
  unfold summaryLines
  simp only [List.forall_mem_cons]
  exact ⟨by decide, hcount (by decide) _, hcount (by decide) _, hcount (by decide) _, nofun⟩

theorem break_not_mem_warningLines {r : Report} (h : r.Unbroken) :
    ∀ line ∈ r.warningLines, .char '\n' ∉ line := by
  have hmessages : ∀ text ∈ r.warnings.map Warning.message, .char '\n' ∉ text := by
    intro text htext
    obtain ⟨w, hw, rfl⟩ := List.mem_map.1 htext
    exact h.warnings w hw
  unfold warningLines
  split
  · nofun
  · simp only [List.forall_mem_append, List.forall_mem_cons]
    exact ⟨⟨by decide, break_not_mem_count (by decide) (by decide) _, nofun⟩, break_not_mem_items hmessages⟩

theorem break_not_mem_frontLines {r : Report} (h : r.Unbroken) :
    ∀ line ∈ r.frontLines, .char '\n' ∉ line := by
  unfold frontLines
  simp only [List.forall_mem_append]
  exact ⟨⟨⟨break_not_mem_errorLines h, break_not_mem_summaryLines r⟩, break_not_mem_warningLines h⟩, by decide⟩

/-- **The lines of a reply.** -/
theorem split_reportText {r : Report} (h : r.Unbroken) : Text.split '\n' (reportText r) = r.replyLines := by
  have hfence : .char '\n' ∉ "\x60\x60\x60".toText := by decide
  rw [reportText_eq, Text.split_lines (break_not_mem_frontLines h), Text.split_append_cons,
    Text.split_eq_singleton hfence, replyLines, List.append_assoc]

end Report

/-! ### The lines of structs -/

namespace Json

theorem break_not_mem_unit (n : Nat) : .char '\n' ∉ unit n := by
  simp only [unit, List.mem_cons, not_or]
  exact ⟨by decide, by decide, Text.break_not_mem_hex 4 n⟩

theorem break_not_mem_escape (c : CodePoint) : .char '\n' ∉ escape c := by
  unfold escape
  split_ifs with hquote hn hr ht hb hf hplain
  · obtain rfl | rfl : c = .char '"' ∨ c = .char '\\' := by simpa using hquote
    · decide
    · decide
  · decide
  · decide
  · decide
  · decide
  · decide
  · simpa using Ne.symm hn
  · unfold units
    simp only
    split
    · exact break_not_mem_unit _
    · exact List.not_mem_append (break_not_mem_unit _) (break_not_mem_unit _)

theorem break_not_mem_countLine (count : Text × Nat) : .char '\n' ∉ countLine count := by
  have hname : .char '\n' ∉ count.1.flatMap escape := by
    intro h
    obtain ⟨c, -, hc⟩ := List.mem_flatMap.1 h
    exact break_not_mem_escape c hc
  simp only [countLine, string, List.mem_append, List.mem_cons, List.not_mem_nil, or_false, not_or]
  exact ⟨⟨⟨by decide, by decide, hname, by decide⟩, by decide⟩, Text.break_not_mem_decimal _⟩

end Json

/-! ### Reading a reply -/

/-- What a report says. -/
structure Findings where
  isValid : Bool
  errors : List Text
  warnings : List Text
  tableCount : Nat
  columnCount : Nat
  skipped : Nat
  /-- The structs by name with their numbers of columns, in order. -/
  structs : List (Text × Nat)
deriving DecidableEq

/-- The same with pairs of surrogates in the names of structs joined. -/
def Findings.paired (f : Findings) : Findings :=
  { f with structs := f.structs.map fun count => (count.1.paired, count.2) }

/-- What the report says. -/
def Report.findings (r : Report) : Findings where
  isValid := r.isValid
  errors := r.errors
  warnings := r.warnings.map Warning.message
  tableCount := r.tableCount
  columnCount := r.columnCount
  skipped := r.skipped
  structs := r.structs

namespace Findings

/-- The items at the front of some lines, up to an empty line, and what stands behind that one. -/
def readItems (lines : List Text) : List Text × List Text :=
  ((lines.takeWhile (!·.isEmpty)).map (·.drop 2), (lines.dropWhile (!·.isEmpty)).drop 1)

/-- The number in an item behind its label. -/
def readCount (label line : Text) : Nat := Json.digitsValue (line.drop (Reply.item label).length)

/-- The struct in a line of a block of JSON, which a comma may end. -/
def readStruct (line : Text) : Option (Text × Nat) :=
  match Json.parse? ("\x7b\n".toText ++ Text.dropEnd ',' line ++ "\n\x7d".toText) with
  | some (.obj [(name, .int (.ofNat n))]) => some (name, n)
  | _ => none

/-- The structs in the lines of a block of JSON, between those with the braces. -/
def readStructs (block : List Text) : Option (List (Text × Nat)) := (block.drop 1).dropLast.mapM readStruct

/-- Reads the lines behind those about errors. -/
def readBody (isValid : Bool) (errors : List Text) : List Text → Option Findings
  | _ :: tables :: columns :: skipped :: _ :: next :: rest =>
    let (warnings, block) :=
      if next = Reply.fenceLine then ([], rest) else ((readItems rest).1, (readItems rest).2.drop 1)
    (readStructs block.dropLast).map fun structs =>
      { isValid, errors, warnings
        tableCount := readCount "Tables: ".toText tables
        columnCount := readCount "Columns: ".toText columns
        skipped := readCount "Skipped constraints: ".toText skipped
        structs }
  | _ => none

/-- What the text of a reply says. -/
def ofText? (text : Text) : Option Findings :=
  match Text.split '\n' text with
  | first :: _ :: rest =>
    if first = Reply.passedLine then readBody true [] rest
    else readBody false (readItems (rest.drop 1)).1 (readItems (rest.drop 1)).2
  | _ => none

/-- Items are read back from their lines. -/
theorem readItems_map (items rest : List Text) :
    readItems (items.map Reply.item ++ [] :: rest) = (items, rest) := by
  have hitem : ∀ line ∈ items.map Reply.item, (!line.isEmpty) = true := by
    intro line hline
    obtain ⟨text, -, rfl⟩ := List.mem_map.1 hline
    rfl
  have hdrop (text : Text) : (Reply.item text).drop 2 = text := rfl
  unfold readItems
  rw [List.takeWhile_append_of_pos hitem, List.dropWhile_append_of_pos hitem]
  simp [Function.comp_def, hdrop]

theorem readCount_item (label : Text) (n : Nat) :
    readCount label (Reply.item (label ++ Text.decimal n)) = n := by
  have hitem : Reply.item (label ++ Text.decimal n) = Reply.item label ++ Text.decimal n :=
    (List.append_assoc ..).symm
  rw [readCount, hitem, List.drop_left, Json.digitsValue_decimal]

/-- A struct is read back from its line, with pairs of surrogates in its name joined. -/
theorem readStruct_countLine (count : Text × Nat) :
    readStruct (Json.countLine count) = some (count.1.paired, count.2) ∧
      readStruct (Json.countLine count ++ [.char ',']) = some (count.1.paired, count.2) := by
  have hlast : (Json.countLine count).getLast? ≠ some (.char ',') := by
    intro h
    have hne := Text.decimal_ne_nil count.2
    rw [Json.countLine, List.getLast?_append_of_ne_nil _ hne] at h
    exact absurd (Json.isDigit_of_mem_decimal (List.mem_of_getLast? h)) (by decide)
  have hblock : "\x7b\n".toText ++ Json.countLine count ++ "\n\x7d".toText = Json.countsBlock [count] := by
    rw [Json.countsBlock_eq (List.cons_ne_nil count []), List.map_singleton, List.intercalate_singleton]
    rfl
  unfold readStruct
  rw [Text.dropEnd_of_ne hlast, Text.dropEnd_concat, hblock, Json.parse?_countsBlock]
  exact ⟨rfl, rfl⟩

/-- The lines of structs, of which a comma ends all but the last. -/
theorem mapM_readStruct {counts : List (Text × Nat)} (hne : counts ≠ []) :
    ∃ lines, Text.split '\n' (",\n".toText.intercalate (counts.map Json.countLine) ++
        [.char '\n', .char '\x7d']) = lines ++ ["\x7d".toText] ∧
      lines.mapM readStruct = some (counts.map fun count => (count.1.paired, count.2)) := by
  induction counts with
  | nil => exact absurd rfl hne
  | cons count counts ih =>
    have hline := Json.break_not_mem_countLine count
    obtain ⟨hread, hreadComma⟩ := readStruct_countLine count
    cases counts with
    | nil =>
      refine ⟨[Json.countLine count], ?_, by simp [hread]⟩
      rw [List.map_singleton, List.intercalate_singleton, Text.split_append hline]
      rfl
    | cons next counts =>
      obtain ⟨lines, hsplit, hlines⟩ := ih (List.cons_ne_nil next counts)
      refine ⟨(Json.countLine count ++ [.char ',']) :: lines, ?_, ?_⟩
      · have hcomma : .char '\n' ∉ Json.countLine count ++ [.char ','] := List.not_mem_append hline (by decide)
        have hsep (rest : Text) : Json.countLine count ++ ",\n".toText ++ rest =
            (Json.countLine count ++ [.char ',']) ++ .char '\n' :: rest := by
          rw [List.append_assoc, List.append_assoc]
          rfl
        rw [List.map_cons, List.intercalate_cons_of_ne_nil (by simp), List.append_assoc, hsep,
          Text.split_append hcomma, hsplit]
        rfl
      · rw [List.mapM_cons, hreadComma, hlines]
        rfl

theorem readStructs_countsBlock (counts : List (Text × Nat)) :
    readStructs (Text.split '\n' (Json.countsBlock counts)) =
      some (counts.map fun count => (count.1.paired, count.2)) := by
  by_cases hne : counts = []
  · subst hne
    rfl
  · obtain ⟨lines, hsplit, hlines⟩ := mapM_readStruct hne
    have hopen : .char '\n' ∉ "\x7b".toText := by decide
    have hblock : Text.split '\n' (Json.countsBlock counts) = "\x7b".toText :: (lines ++ ["\x7d".toText]) := by
      rw [Json.countsBlock_eq hne, ← hsplit]
      exact Text.split_append hopen _
    rw [readStructs, hblock, List.drop_one, List.tail_cons, List.dropLast_concat, hlines]

/-- The counts are read back, and the next line shows whether there are warnings. -/
theorem readBody_summary (r : Report) (isValid : Bool) (errors : List Text) (next : Text) (rest : List Text) :
    readBody isValid errors (r.summaryLines ++ [] :: next :: rest) =
      let (warnings, block) :=
        if next = Reply.fenceLine then ([], rest) else ((readItems rest).1, (readItems rest).2.drop 1)
      (readStructs block.dropLast).map fun structs =>
        { r.findings with isValid, errors, warnings, structs } := by
  unfold Report.summaryLines
  simp only [List.cons_append, List.nil_append, readBody, readCount_item, Report.findings]

/-- The lines behind those about errors are read back. -/
theorem readBody_lines (r : Report) (isValid : Bool) (errors : List Text) :
    readBody isValid errors (r.summaryLines ++ (r.warningLines ++ [] :: Reply.fenceLine ::
        (Text.split '\n' (Json.countsBlock r.structs) ++ ["\x60\x60\x60".toText]))) =
      some { r.findings.paired with isValid, errors } := by
  generalize hblock : Text.split '\n' (Json.countsBlock r.structs) ++ ["\x60\x60\x60".toText] = block
  have hstructs : readStructs block.dropLast = some (r.structs.map fun count => (count.1.paired, count.2)) := by
    rw [← hblock, List.dropLast_concat, readStructs_countsBlock]
  cases hwarnings : r.warnings with
  | nil =>
    have hlines : r.warningLines = [] := by
      unfold Report.warningLines
      rw [hwarnings]
      rfl
    rw [hlines, List.nil_append, readBody_summary, if_pos rfl]
    simp only [hstructs, Findings.paired, Report.findings, hwarnings]
    rfl
  | cons w warnings =>
    have hlines : r.warningLines =
        [] :: ("⚠️ **Warnings (".toText ++ Text.decimal r.warnings.length ++ "):**".toText) ::
          (r.warnings.map Warning.message).map Reply.item := by
      unfold Report.warningLines
      rw [hwarnings]
      rfl
    have hheading : "⚠️ **Warnings (".toText ++ Text.decimal r.warnings.length ++ "):**".toText ≠
        Reply.fenceLine := by
      intro h
      have hhead : some (CodePoint.char '⚠') = some (.char '\x60') := congrArg List.head? h
      exact absurd hhead (by decide)
    rw [hlines, List.cons_append, List.cons_append, readBody_summary, if_neg hheading, readItems_map]
    simp only [List.drop_one, List.tail_cons, hstructs]
    rfl

/-- **A reply is read back**, if no message holds a line feed. -/
theorem ofText?_reportText {r : Report} (h : r.Unbroken) :
    ofText? (Reply.reportText r) = some r.findings.paired := by
  have hlines : r.replyLines = r.errorLines ++ (r.summaryLines ++ (r.warningLines ++ [] :: Reply.fenceLine ::
      (Text.split '\n' (Json.countsBlock r.structs) ++ ["\x60\x60\x60".toText]))) := by
    simp [Report.replyLines, Report.frontLines]
  have hbody := readBody_lines r
  rw [ofText?, Report.split_reportText h, hlines]
  generalize r.summaryLines ++ _ = body at hbody
  unfold Report.errorLines
  cases hvalid : r.isValid with
  | true =>
    have herrors : r.errors = [] := by rw [Report.errors, List.isEmpty_iff.1 hvalid, List.map_nil]
    simp only [if_true, List.cons_append, List.nil_append, hbody]
    rw [Findings.paired, Report.findings, hvalid, herrors]
  | false =>
    have hfailed : "❌ **Dump validation failed!**".toText ≠ Reply.passedLine := by decide
    simp only [Bool.false_eq_true, if_false, List.cons_append, List.nil_append, List.append_assoc,
      List.drop_one, List.tail_cons, hfailed, readItems_map, hbody]
    rw [Findings.paired, Report.findings, hvalid]

end Findings

/-! ### Calls -/

namespace Tool
open TableStructs.Action
variable {c : Converter} {w : Workspace} {arguments : Json.Members} {given : Lines}

theorem ofDump_of_linesIn {encodings : Encoding.Registry} {files : FileTree} {path encoding : Text}
    (h : linesIn encodings files path encoding = .ok given) : given.OfDump := by
  unfold linesIn at h
  split at h
  · cases h
  split at h
  · cases h
  split at h
  · cases h
  · cases h
    exact .file _ _

/-- What is given to a call is a text or a file. -/
theorem ofDump_of_input (h : (input arguments).Returns w given) : given.OfDump := by
  have hresult := h.result
  unfold input at hresult
  simp only at hresult
  split at hresult
  · rw [result_bind] at hresult
    cases hcontent : argument arguments "sql_content" with
    | str text =>
      rw [hcontent] at hresult
      cases hresult
      exact .text text
    | _ =>
      rw [hcontent] at hresult
      cases hresult
  · rw [result_bind] at hresult
    split at hresult
    · rw [result_bind] at hresult
      split at hresult
      · rw [result_readLines] at hresult
        exact ofDump_of_linesIn hresult
      · cases hresult
    · cases hresult

theorem result_call_check (c : Converter) (arguments : Json.Members) (w : Workspace) :
    (call c check.name arguments).result w = answered ((runCheck c arguments).result w) := by
  show ((call c check.name arguments).outcome w).1 = _
  rw [call_spec, run, Prod.map_apply]
  rfl

/-- A check reports on a dump that is given and can be read to its end. -/
theorem check_returns (h : (input arguments).Returns w given) (hwhole : given.failure = none) (c : Converter) :
    (call c check.name arguments).Returns w (.checked (TableStructs.check c.types given.lines)) := by
  rw [returns_iff_result, result_call_check, runCheck_eq, result_bind, h.result]
  simp only [hwhole]
  rfl

/-- A report is one on a dump that is given. -/
theorem given_of_checked {report : Report} (h : (call c check.name arguments).Returns w (.checked report)) :
    ∃ given : Lines, given.OfDump ∧ report = TableStructs.check c.types given.lines := by
  have hresult := h.result
  rw [result_call_check] at hresult
  have hrun := eq_ok_of_answered hresult nofun
  rw [runCheck_eq, result_bind] at hrun
  split at hrun
  · next given hgiven =>
    have hdump := ofDump_of_input (returns_iff_result.2 hgiven)
    split at hrun
    · cases hrun
    · cases hrun
      exact ⟨given, hdump, rfl⟩
  · cases hrun

/-- **The reply of a check tells all that the report says**, with pairs of surrogates in the names of structs
joined. A check of a dump, given as a text or in a file, replies with a text that has a line for each error
and each warning. The structs stand in it as JSON in ASCII, from which they are read back in their order, and
the text is read back to all that the report says. So a check with the same reply has a report that says the
same. Where no name of a struct holds a pair of surrogates, nothing is joined. -/
theorem check_reply_tells (h : (input arguments).Returns w given) (hwhole : given.failure = none)
    (c : Converter) :
    ∃ report, report = TableStructs.check c.types given.lines ∧
      (call c check.name arguments).Returns w (.checked report) ∧
      Text.split '\n' (Reply.checked report).text = report.replyLines ∧
      (Json.countsBlock report.structs).IsAscii ∧
      Json.parse? (Json.countsBlock report.structs) =
        some (.obj (report.structs.foldl
          (fun members count => Json.put count.1.paired (.int count.2) members) [])) ∧
      Findings.ofText? (Reply.checked report).text = some report.findings.paired ∧
      ((∀ count ∈ report.structs, count.1.hasPair = false) →
        report.findings.paired = report.findings ∧
          Json.parse? (Json.countsBlock report.structs) =
            some (.obj (report.structs.map fun count => (count.1, .int count.2)))) ∧
      ∀ (c' : Converter) (w' : Workspace) (arguments' : Json.Members) (report' : Report),
        (call c' check.name arguments').Returns w' (.checked report') →
        (Reply.checked report').text = (Reply.checked report).text →
          report'.findings.paired = report.findings.paired := by
  have hnames : ((TableStructs.check c.types given.lines).structs.map (·.1)).Nodup := by
    rw [Report.names_of_check]
    exact Report.nodup_eraseDups _
  have hread (c : Converter) {given : Lines} (hgiven : given.OfDump) :
      Findings.ofText? (Reply.checked (TableStructs.check c.types given.lines)).text =
        some (TableStructs.check c.types given.lines).findings.paired :=
    Findings.ofText?_reportText (Report.unbroken_check hgiven c.types)
  have hdump := ofDump_of_input h
  refine ⟨_, rfl, check_returns h hwhole c, Report.split_reportText (Report.unbroken_check hdump c.types),
    Json.isAscii_countsBlock _, Json.parse?_countsBlock _, hread c hdump, fun hpairs => ?_, ?_⟩
  · have hpaired : ∀ count ∈ (TableStructs.check c.types given.lines).structs, count.1.paired = count.1 :=
      fun count hcount => (Text.paired_eq_self_iff _).2 (hpairs count hcount)
    have hsame : (TableStructs.check c.types given.lines).structs.map (·.1.paired) =
        (TableStructs.check c.types given.lines).structs.map (·.1) := List.map_congr_left hpaired
    constructor
    · refine congrArg (fun structs => { Report.findings _ with structs }) ?_
      refine (List.map_congr_left (g := id) fun count hcount => ?_).trans (List.map_id _)
      exact Prod.ext (hpaired count hcount) rfl
    · rw [Json.parse?_countsBlock, Json.foldl_put (hsame ▸ hnames)]
      refine congrArg (fun members => some (Json.Value.obj members)) (List.map_congr_left fun count hcount => ?_)
      rw [hpaired count hcount]
  · intro c' w' arguments' report' h' htext
    obtain ⟨given', hdump', rfl⟩ := given_of_checked h'
    have hsame := (hread c' hdump').symm.trans ((congrArg _ htext).trans (hread c hdump))
    exact Option.some.inj hsame

/-- Names with quotes and code points past the first plane, one of them for two tables. -/
theorem check_reply_tells_of_quotes :
    let text := "CREATE TABLE \"𝒜\x60 (\n x 𝒯\x60,\n y text\n);\nCREATE TABLE \"𝒜\x60s (\n);".toText
    ∃ report, (call {} check.name [("sql_content".toText, .str text)]).Returns {} (.checked report) ∧
      report.structs = [("\"𝒜\x60".toText, 0)] ∧
      Findings.ofText? (Reply.checked report).text = some report.findings := by
  intro text
  have hinput : (input [("sql_content".toText, .str text)]).Returns {} { lines := Text.lines .inline text } :=
    ⟨_, rfl⟩
  obtain ⟨report, hreport, hcall, -, -, -, hread, hpairs, -⟩ := check_reply_tells hinput rfl {}
  have hstructs : report.structs = [("\"𝒜\x60".toText, 0)] := by rw [hreport]; decide +kernel
  have hnone : ∀ count ∈ report.structs, count.1.hasPair = false := by
    rw [hstructs]
    decide
  exact ⟨report, hcall, hstructs, (hpairs hnone).1 ▸ hread⟩

/-- **Two surrogates and a character** have one name in JSON: the replies on two dumps are equal, and the
names of their structs differ. Punycode gives both dumps from files in ASCII. -/
theorem check_reply_joins_surrogates :
    let w : Workspace :=
      { files := (FileTree.empty.put [.ofText "a.sql".toText, .ofText "work".toText]
          (.file "CREATE TABLE  (\n  id bigint\n);-rw11luo2d".toUTF8.toList)).put
          [.ofText "b.sql".toText, .ofText "work".toText]
          (.file "CREATE TABLE  (\n  id bigint\n);-65263a".toUTF8.toList)
        environment := [("SQL2GO_ENCODING".toText, "punycode".toText)] }
    ∃ report report',
      (call {} check.name [("input_path".toText, .str "a.sql".toText)]).result w = .ok (.checked report) ∧
      (call {} check.name [("input_path".toText, .str "b.sql".toText)]).result w = .ok (.checked report') ∧
      (Reply.checked report).text = (Reply.checked report').text ∧
      report.structs = [([.surrogate 0x3D, .surrogate 0x600], 1)] ∧ report'.structs = [("😀".toText, 1)] := by
  intro w
  have hsettings : w.settings? = .ok { encoding := "punycode".toText } := by decide +kernel
  have hreport (name : Text) (file : String)
      (h : input? w.encodings w.files { encoding := "punycode".toText } [("input_path".toText, .str file.toText)] =
        .ok { lines := ["CREATE TABLE ".toText ++ name ++ " (\n".toText, "  id bigint\n".toText, ");".toText] }) :
      (call {} check.name [("input_path".toText, .str file.toText)]).result w =
        .ok (.checked (TableStructs.check .builtin
          ["CREATE TABLE ".toText ++ name ++ " (\n".toText, "  id bigint\n".toText, ");".toText])) := by
    rw [result_check hsettings, report?, h]
    rfl
  refine ⟨_, _, hreport [.surrogate 0x3D, .surrogate 0x600] "a.sql" (by decide +kernel),
    hreport "😀".toText "b.sql" (by decide +kernel), ?_, ?_, ?_⟩
  all_goals decide +kernel

end Tool
end TableStructs
