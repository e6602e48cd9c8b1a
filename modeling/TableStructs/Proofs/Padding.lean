import Mathlib.Data.List.Forall2
import TableStructs.Proofs.Run

/-!
White space around lines. A pass trims what it reads, and no mark begins or ends in white space, so
a line says the same whatever white space stands before it and behind it (`Reading.ofLine_padded`).
Lines that say the same make the same conversion and the same report (`convert_congr`,
`check_congr`). So do lines that differ in white space at their ends (`PaddedAs`), as the lines of a file
and of a given text do.
-/
namespace TableStructs

namespace Text

/-! ### Trimming -/

theorem trimLeft_eq_nil {a : Text} (ha : a.all isBlank = true) : trimLeft a = [] := by
  have h := trimLeft_append_of_blank ha []
  rwa [List.append_nil] at h

/-- White space behind a text stays behind it, unless there is nothing else. -/
theorem trimLeft_append (s b : Text) :
    trimLeft (s ++ b) = if s.all isBlank then trimLeft b else trimLeft s ++ b := by
  induction s with
  | nil => rfl
  | cons c s ih =>
    cases hc : isBlank c with
    | true => simpa [trimLeft, List.dropWhile_cons, hc] using ih
    | false => simp [trimLeft, hc]

theorem trim_padded {a b : Text} (ha : a.all isBlank = true) (hb : b.all isBlank = true) (s : Text) :
    trim (a ++ s ++ b) = trim s := by
  rw [List.append_assoc, trim, trimLeft_append_of_blank ha, trimLeft_append]
  split
  · next hs => rw [trim, trimLeft_eq_nil hb, trimLeft_eq_nil hs]
  · exact trimRight_append_of_blank _ hb

theorem firstWord_padded {a b : Text} (ha : a.all isBlank = true) (hb : b.all isBlank = true)
    (s : Text) : firstWord (a ++ s ++ b) = firstWord s := by
  rw [List.append_assoc, firstWord, trimLeft_append_of_blank ha, trimLeft_append]
  split
  · next hs => rw [firstWord, trimLeft_eq_nil hb, trimLeft_eq_nil hs]
  · cases b with
    | nil => rw [List.append_nil, firstWord]
    | cons c b =>
      simp only [List.all_cons, Bool.and_eq_true] at hb
      have hword : (c :: b).takeWhile (fun c => !isBlank c) = [] := by simp [hb.1]
      rw [firstWord, List.takeWhile_append, hword, List.append_nil]
      split
      · next h => exact (List.takeWhile_prefix _).eq_of_length h |>.symm
      · rfl

/-! ### Finding a mark -/

/-- Behind characters that a mark does not begin with, it is found as on its own. -/
theorem after?_append_left {m : CodePoint} {mark a : Text} (h : m ∉ a) (s : Text) :
    after? (m :: mark) (a ++ s) = after? (m :: mark) s := by
  induction a with
  | nil => rfl
  | cons c a ih =>
    simp only [List.mem_cons, not_or] at h
    have hc : ¬ (m :: mark).isPrefixOf (c :: (a ++ s)) = true := by
      simp [List.isPrefixOf, h.1]
    rw [List.cons_append, after?, if_neg hc, ih h.2]

/-- A mark does not begin in a text and end behind it, where its last character does not occur. -/
theorem prefix_append_iff {mark b : Text} {m : CodePoint} (h : m ∉ b) (s : Text) :
    mark ++ [m] <+: s ++ b ↔ mark ++ [m] <+: s := by
  refine ⟨fun hp => ?_, fun hp => hp.trans (List.prefix_append s b)⟩
  rcases List.prefix_or_prefix_of_prefix hp (List.prefix_append s b) with hs | ⟨rest, hrest⟩
  · exact hs
  · rw [← hrest, List.prefix_append_right_inj] at hp
    rcases List.eq_nil_or_concat rest with rfl | ⟨most, last, rfl⟩
    · exact ⟨[], by rw [List.append_nil, ← hrest, List.append_nil]⟩
    · have hlast : m = last := by
        have := congrArg List.getLast? hrest
        simpa using this.symm
      exact absurd (hp.subset (by simp [hlast])) h

theorem after?_append_right {mark b : Text} {m : CodePoint} (h : m ∉ b) (s : Text) :
    after? (mark ++ [m]) (s ++ b) = (after? (mark ++ [m]) s).map (· ++ b) := by
  induction s with
  | nil =>
    have hnone : after? (mark ++ [m]) b = none := by
      cases hr : after? (mark ++ [m]) b with
      | none => rfl
      | some rest =>
        obtain ⟨before, hb, -⟩ := after?_eq_some_iff.1 hr
        exact absurd (by simp [hb]) h
    simp [hnone, after?]
  | cons c s ih =>
    have hiff : (mark ++ [m]).isPrefixOf (c :: (s ++ b)) = (mark ++ [m]).isPrefixOf (c :: s) := by
      rw [Bool.eq_iff_iff, List.isPrefixOf_iff_prefix, List.isPrefixOf_iff_prefix]
      exact prefix_append_iff h (c :: s)
    rw [List.cons_append, after?, after?, hiff]
    split
    · next hp =>
      have hlength := (List.isPrefixOf_iff_prefix.1 hp).length_le
      rw [Option.map_some, ← List.cons_append, List.drop_append_of_le_length hlength]
    · exact ih

end Text

/-! ### Lines -/

section Lines
variable {a b : Text}

theorem not_mem_of_blank {c : CodePoint} (hc : Text.isBlank c = false) (ha : a.all Text.isBlank = true) :
    c ∉ a := by
  intro h
  rw [List.all_eq_true.1 ha c h] at hc
  cases hc

theorem after?_header_padded (ha : a.all Text.isBlank = true) (hb : b.all Text.isBlank = true)
    (line : Text) :
    Text.after? headerMark (a ++ line ++ b) = (Text.after? headerMark line).map (· ++ b) := by
  have hfirst : headerMark = .char 'C' :: "REATE TABLE".toText := rfl
  have hlast : headerMark = "CREATE TABL".toText ++ [.char 'E'] := rfl
  rw [hlast, Text.after?_append_right (not_mem_of_blank (by decide) hb), ← hlast, hfirst,
    Text.after?_append_left (not_mem_of_blank (by decide) ha)]

theorem tableName?_append (hb : b.all Text.isBlank = true) (rest : Text) :
    tableName? (rest ++ b) = tableName? rest := by
  have h := Text.trim_padded (a := []) rfl hb rest
  rw [List.nil_append] at h
  rw [tableName?, h, tableName?]

namespace Reading

/-- **White space around a line** does not change what the line says. -/
theorem ofLine_padded (ha : a.all Text.isBlank = true) (hb : b.all Text.isBlank = true)
    (types : TypeTable) (tagged : Bool) (line : Text) (inTable : Bool) :
    ofLine types tagged (a ++ line ++ b) inTable = ofLine types tagged line inTable := by
  have hmark : Text.has headerMark (a ++ line ++ b) = Text.has headerMark line := by
    rw [Text.has, after?_header_padded ha hb, Option.isSome_map, Text.has]
  have htable : headerTable? (a ++ line ++ b) = headerTable? line := by
    rw [headerTable?, after?_header_padded ha hb, headerTable?]
    cases Text.after? headerMark line with
    | none => rfl
    | some rest => exact tableName?_append hb rest
  have hkind : LineKind.ofLine (a ++ line ++ b) inTable = LineKind.ofLine line inTable := by
    rw [LineKind.ofLine, hmark, Text.trim_padded ha hb, Text.firstWord_padded ha hb, LineKind.ofLine]
  have hfield : Field.ofLine types tagged (a ++ line ++ b) none = Field.ofLine types tagged line none := by
    simp only [Field.ofLine, Column.ofLine, Column.ofLine?, Text.trim_padded ha hb]
  have hheader : headerTable (a ++ line ++ b) none = headerTable line none := by
    simp only [headerTable, htable, Text.trim_padded ha hb]
  rw [ofLine, hkind, hfield, hheader, Text.trim_padded ha hb, ofLine]

end Reading
end Lines

/-! ### Lines that say the same -/

/-- Two lines say the same, whether or not a table is open. -/
def SayTheSame (line line' : Text) : Prop :=
  ∀ types tagged inTable,
    Reading.ofLine types tagged line inTable = Reading.ofLine types tagged line' inTable

theorem sayTheSame_append {b : Text} (hb : b.all Text.isBlank = true) (line : Text) :
    SayTheSame (line ++ b) line := fun types tagged inTable =>
  Reading.ofLine_padded (a := []) rfl hb types tagged line inTable

namespace Conversion.State

theorem run_congr {xs ys : List Text} (h : List.Forall₂ SayTheSame xs ys) (types : TypeTable)
    (tagged : Bool) (s : State) : s.run types tagged xs = s.run types tagged ys := by
  induction h generalizing s with
  | nil => rfl
  | @cons line line' rest rest' hline _ ih =>
    have hnext : s.next types tagged line = s.next types tagged line' := by
      rw [next_eq, next_eq, hline types tagged s.current.isSome]
    rw [run, run, hnext]
    rcases s.next types tagged line' with ⟨t, _ | e⟩
    · exact ih t
    · rfl

end Conversion.State

theorem convert_congr {xs ys : List Text} (h : List.Forall₂ SayTheSame xs ys) (types : TypeTable)
    (tagged : Bool) : convert types tagged xs = convert types tagged ys := by
  rw [convert, convert, Conversion.State.run_congr h]

namespace Report.State

theorem run_congr {xs ys : List Text} (h : List.Forall₂ SayTheSame xs ys) (types : TypeTable)
    (s : State) : s.run types xs = s.run types ys := by
  induction h generalizing s with
  | nil => rfl
  | @cons line line' rest rest' hline _ ih =>
    have hnext : s.next types line = s.next types line' := by
      rw [next_eq types false, next_eq types false, hline types false s.current.isSome]
    show (s.next types line).run types rest = (s.next types line').run types rest'
    rw [hnext, ih]

end Report.State

theorem check_congr {xs ys : List Text} (h : List.Forall₂ SayTheSame xs ys) (types : TypeTable) :
    check types xs = check types ys := by
  rw [check, check, Report.State.run_congr h]

/-! ### Padded lines -/

/-- A line with white space put before it and behind it: any of it, line ends included, or none. -/
def PaddedAs (line padded : Text) : Prop :=
  ∃ before behind : Text, before.all Text.isBlank = true ∧ behind.all Text.isBlank = true ∧
    padded = before ++ line ++ behind

theorem PaddedAs.sayTheSame {line padded : Text} (h : PaddedAs line padded) : SayTheSame padded line := by
  obtain ⟨before, behind, hbefore, hbehind, rfl⟩ := h
  intro types tagged inTable
  exact Reading.ofLine_padded hbefore hbehind types tagged line inTable

/-- **Padding.** White space put before and behind lines, whatever it is and different for each of them,
changes nothing in a conversion, which has the same structs or fails with the same error, of the same
line, type and number, and notes the same on its way; nor does it change anything that a check reports. -/
theorem padding_changes_nothing {lines padded : List Text} (h : List.Forall₂ PaddedAs lines padded)
    (types : TypeTable) (tagged : Bool) :
    convert types tagged padded = convert types tagged lines ∧
      check types padded = check types lines := by
  have hsame : List.Forall₂ SayTheSame padded lines :=
    (h.imp fun _ _ hline => hline.sayTheSame).flip
  exact ⟨convert_congr hsame types tagged, check_congr hsame types⟩

/-- A dump between line ends, tabs and wide spaces. White space inside a line counts: the two spaces of
the third line stand around an empty type. -/
theorem padding_changes_nothing_of_coins :
    let lines := ["CREATE TABLE coin (".toText, "CONSTRAINT pk".toText, "name  text".toText,
      "worth money".toText, ");".toText]
    let padded := ["\u3000CREATE TABLE coin (\r\n".toText, "\t\x0bCONSTRAINT pk".toText,
      "\u2028 name  text\x85".toText, "worth money\x1c\x0c".toText, "\n);\u2003".toText]
    List.Forall₂ PaddedAs lines padded ∧
      (convert .builtin true padded).result = .error (.unmapped [] (some 3)) ∧
      (check .builtin padded).problems =
        [.column "coin".toText (.unmapped [] (some 3)),
          .column "coin".toText (.unmapped "money".toText (some 4))] ∧
      (check .builtin padded).skipped = 1 := by
  intro lines padded
  have hpadded : List.Forall₂ PaddedAs lines padded :=
    .cons ⟨"\u3000".toText, "\r\n".toText, by decide, by decide, by decide +kernel⟩ <|
    .cons ⟨"\t\x0b".toText, [], by decide, by decide, by decide +kernel⟩ <|
    .cons ⟨"\u2028 ".toText, "\x85".toText, by decide, by decide, by decide +kernel⟩ <|
    .cons ⟨[], "\x1c\x0c".toText, by decide, by decide, by decide +kernel⟩ <|
    .cons ⟨"\n".toText, "\u2003".toText, by decide, by decide, by decide +kernel⟩ .nil
  obtain ⟨hconvert, hcheck⟩ := padding_changes_nothing hpadded .builtin true
  refine ⟨hpadded, ?_, ?_, ?_⟩
  · rw [hconvert]
    decide +kernel
  · rw [hcheck]
    decide +kernel
  · rw [hcheck]
    decide +kernel

end TableStructs
