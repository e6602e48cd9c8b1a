import Mathlib.Data.List.Induction
import TableStructs.Json.Parser
import TableStructs.Json.Printer

/-!
Counts by name, written as JSON and read back. A name may hold any code points: each is escaped on its
own, those past the first plane as a pair of UTF-16 units, and reading takes the escape from the front
of the text and gives the code point back (`readString_escape`). A count is read up to the first
character that is no digit (`readValue_decimal`).

`parse?_countsBlock` says that the object is read back with its members in order, and
`isAscii_countsBlock` that it is written in ASCII.
-/
namespace TableStructs

/-! ### Pairs of surrogates -/

namespace Text

/-- The text with each pair of surrogates as the character that the two stand for. -/
def paired : Text → Text
  | c :: d :: s =>
    if c.isHigh && d.isLow then .ofPair c d :: paired s else c :: paired (d :: s)
  | s => s

theorem paired_cons_of_not_high {c : CodePoint} (h : c.isHigh = false) (s : Text) :
    paired (c :: s) = c :: paired s := by
  cases s with
  | nil => rfl
  | cons d s => simp [paired, h]

theorem paired_cons_of_not_low (c : CodePoint) {d : CodePoint} (h : d.isLow = false) (s : Text) :
    paired (c :: d :: s) = c :: paired (d :: s) := by
  simp [paired, h]

theorem paired_cons_pair {c d : CodePoint} (hc : c.isHigh = true) (hd : d.isLow = true) (s : Text) :
    paired (c :: d :: s) = .ofPair c d :: paired s := by
  simp [paired, hc, hd]

/-- Whether there are two surrogates in the text that together stand for a character. -/
def hasPair : Text → Bool
  | c :: d :: s => c.isHigh && d.isLow || hasPair (d :: s)
  | _ => false

theorem length_paired_le (s : Text) : s.paired.length ≤ s.length := by
  induction s using paired.induct with
  | case1 c d s h ih =>
    rw [paired, if_pos h, List.length_cons, List.length_cons, List.length_cons]
    omega
  | case2 c d s h ih =>
    rw [paired, if_neg h, List.length_cons, show (c :: d :: s).length = (d :: s).length + 1 from rfl]
    omega
  | case3 s h =>
    match s, h with
    | [], _ => exact Nat.le_refl 0
    | [c], _ => exact Nat.le_refl 1
    | c :: d :: s, h => exact absurd rfl (h c d s)

/-- Only such pairs are joined. -/
theorem paired_eq_self_iff (s : Text) : s.paired = s ↔ s.hasPair = false := by
  induction s using paired.induct with
  | case1 c d s h ih =>
    have hlength := length_paired_le s
    have hne : paired (c :: d :: s) ≠ c :: d :: s := by
      intro heq
      have := congrArg List.length heq
      rw [paired, if_pos h] at this
      simp only [List.length_cons] at this
      omega
    simp [hne, hasPair, h]
  | case2 c d s h ih =>
    rw [paired, if_neg h, hasPair, List.cons.injEq, Bool.eq_false_iff.2 h, Bool.false_or, ← ih]
    simp
  | case3 s h =>
    match s, h with
    | [], _ => exact ⟨fun _ => rfl, fun _ => rfl⟩
    | [c], _ => exact ⟨fun _ => rfl, fun _ => rfl⟩
    | c :: d :: s, h => exact absurd rfl (h c d s)

/-! ### Digits -/

/-- The last of several hexadecimal digits. -/
theorem hex_succ (width n : Nat) :
    hex (width + 2) n = hex (width + 1) (n / 16) ++ [.char (n % 16).digitChar] := by
  have hpad (digits : List Char) (c : Char) :
      (digits ++ [c]).leftpad (width + 2) '0' = digits.leftpad (width + 1) '0' ++ [c] := by
    simp [List.leftpad]
  have hlast (digits : List Char) (c : Char) :
      (digits ++ [c]).map CodePoint.char = digits.map CodePoint.char ++ [.char c] := by
    rw [List.map_append, List.map_singleton]
  unfold hex
  by_cases h : n < 16
  · rw [Nat.toDigits_of_lt_base h, Nat.div_eq_of_lt h, Nat.mod_eq_of_lt h, Nat.toDigits_zero]
    simp [List.leftpad, List.replicate_succ']
  · rw [Nat.toDigits_of_base_le (by omega) (Nat.le_of_not_lt h), hpad, hlast]

/-- Four hexadecimal digits. -/
theorem hex_four {n : Nat} (h : n < 0x10000) :
    hex 4 n = [.char (n / 16 / 16 / 16).digitChar, .char (n / 16 / 16 % 16).digitChar,
      .char (n / 16 % 16).digitChar, .char (n % 16).digitChar] := by
  have hfirst : hex 1 (n / 16 / 16 / 16) = [.char (n / 16 / 16 / 16).digitChar] := by
    rw [hex, Nat.toDigits_of_lt_base (by omega)]
    rfl
  rw [hex_succ, hex_succ, hex_succ, hfirst]
  rfl

end Text

namespace Json

theorem hexDigit?_digitChar : ∀ n < 16, hexDigit? n.digitChar = some n := by
  decide

/-- Digits of a unit are read back. -/
theorem unit?_digits {n : Nat} (h : n < 0x10000) :
    unit? (n / 16 / 16 / 16).digitChar (n / 16 / 16 % 16).digitChar (n / 16 % 16).digitChar
      (n % 16).digitChar = some n := by
  have hdigit (k : Nat) : hexDigit? (k % 16).digitChar = some (k % 16) :=
    hexDigit?_digitChar _ (Nat.mod_lt _ (by decide))
  have hfirst := hexDigit?_digitChar (n / 16 / 16 / 16) (by omega)
  simp only [unit?, hdigit, hfirst]
  exact congrArg some (by omega)

theorem readString_unit {n : Nat} (h : n < 0x10000) (read : Text) (high : Option Nat) (rest : Text) :
    readString read high (unit n ++ rest) =
      readString (addUnit read high n).1 (addUnit read high n).2 rest := by
  rw [unit, Text.hex_four h]
  simp only [List.cons_append, List.nil_append, readString, unit?_digits h]

/-- Adds a code point behind `high`, the first unit of a pair that is open. -/
def addPoint (read : Text) (high : Option Nat) (c : CodePoint) : Text × Option Nat :=
  if c.isSurrogate then addUnit read high c.toNat else (c :: settle read high, none)

theorem addUnit_plain {n : Nat} (h : n < 0xD800 ∨ 0xDFFF < n) (read : Text) (high : Option Nat) :
    addUnit read high n = (.ofNat n :: settle read high, none) := by
  have hlow : ¬ (0xDC00 ≤ n && n < 0xE000) = true := by simp; omega
  have hhigh : ¬ (0xD800 ≤ n && n < 0xDC00) = true := by simp; omega
  unfold addUnit
  rw [if_neg hlow, if_neg hhigh]

theorem addUnit_high {n : Nat} (hfirst : 0xD800 ≤ n) (hlast : n < 0xDC00) (read : Text) (high : Option Nat) :
    addUnit read high n = (settle read high, some n) := by
  have hlow : ¬ (0xDC00 ≤ n && n < 0xE000) = true := by simp; omega
  have hhigh : (0xD800 ≤ n && n < 0xDC00) = true := by simp; omega
  unfold addUnit
  rw [if_neg hlow, if_pos hhigh]

theorem addUnit_low {n : Nat} (hfirst : 0xDC00 ≤ n) (hlast : n < 0xE000) (read : Text) (high : Option Nat) :
    addUnit read high n =
      match high with
      | some h => (.ofNat (0x10000 + (h - 0xD800) * 0x400 + (n - 0xDC00)) :: read, none)
      | none => (.ofNat n :: read, none) := by
  have hlow : (0xDC00 ≤ n && n < 0xE000) = true := by simp; omega
  exact if_pos hlow

/-- A surrogate that begins a pair opens one. -/
theorem addPoint_of_high {c : CodePoint} (h : c.isHigh = true) (read : Text) (high : Option Nat) :
    addPoint read high c = (settle read high, some c.toNat) := by
  obtain ⟨hfirst, hlast⟩ := c.isHigh_iff.1 h
  rw [addPoint, if_pos (c.isSurrogate_iff.2 ⟨hfirst, by omega⟩), addUnit_high hfirst hlast]

/-- A surrogate that ends a pair ends one that is open, and any other code point stands for itself. -/
theorem addPoint_of_not_high {c : CodePoint} (h : c.isHigh = false) (read : Text) (high : Option CodePoint) :
    addPoint read (high.map (·.toNat)) c =
      match high with
      | none => (c :: read, none)
      | some d => (if c.isLow then .ofPair d c :: read else c :: d :: read, none) := by
  by_cases hlow : c.isLow = true
  · obtain ⟨hfirst, hlast⟩ := c.isLow_iff.1 hlow
    rw [addPoint, if_pos (c.isSurrogate_iff.2 ⟨by omega, hlast⟩), addUnit_low hfirst hlast]
    cases high with
    | none => simp [c.ofNat_toNat]
    | some d => simp [hlow, CodePoint.ofPair]
  · have hnot : ¬ c.isSurrogate = true := by
      rw [CodePoint.isSurrogate_iff]
      rw [CodePoint.isLow_iff] at hlow
      rw [← Bool.not_eq_true, CodePoint.isHigh_iff] at h
      omega
    rw [addPoint, if_neg hnot]
    cases high with
    | none => rfl
    | some d => simp [settle, hlow, d.ofNat_toNat]

/-- A code point is read back from its units. -/
theorem readString_units (c : CodePoint) (read : Text) (high : Option Nat) (rest : Text) :
    readString read high (units c ++ rest) =
      readString (addPoint read high c).1 (addPoint read high c).2 rest := by
  have hlt := c.toNat_lt
  have hself := c.ofNat_toNat
  have hsurrogate := c.isSurrogate_iff
  unfold units addPoint
  simp only
  split
  · next hplane =>
    rw [readString_unit hplane]
    split
    · rfl
    · next hs => rw [addUnit_plain (by rw [hsurrogate] at hs; omega), hself]
  · next hplane =>
    have hpair : 0x10000 + (c.toNat - 0x10000) / 0x400 * 0x400 + (c.toNat - 0x10000) % 0x400 = c.toNat := by
      omega
    rw [if_neg (by rw [hsurrogate]; omega), List.append_assoc, readString_unit (by omega),
      addUnit_high (by omega) (by omega), readString_unit (by omega), addUnit_low (by omega) (by omega)]
    simp only [Nat.add_sub_cancel_left, hpair, hself]

/-- **One code point** of a text is read back from its escape. -/
theorem readString_escape (c : CodePoint) (read : Text) (high : Option Nat) (rest : Text) :
    readString read high (escape c ++ rest) =
      readString (addPoint read high c).1 (addPoint read high c).2 rest := by
  unfold escape
  split
  · next h =>
    obtain rfl | rfl : c = .char '"' ∨ c = .char '\\' := by simpa using h
    · rfl
    · rfl
  · next hquote =>
    split_ifs with hn hr ht hb hf hplain
    · cases hn; rfl
    · cases hr; rfl
    · cases ht; rfl
    · cases hb; rfl
    · cases hf; rfl
    · obtain ⟨hq, hs⟩ : c ≠ .char '"' ∧ c ≠ .char '\\' := by simpa using hquote
      have hnot : ¬ c.isSurrogate = true := by
        rw [CodePoint.isSurrogate_iff]
        simp only [Bool.and_eq_true, decide_eq_true_eq] at hplain
        omega
      rw [List.singleton_append, readString, addPoint, if_neg hnot]
      · exact hq
      · exact fun _ _ _ _ _ h => absurd h hs
      · exact fun _ _ h => absurd h hs
    · exact readString_units c read high rest

/-- **A text** is read back from what stands behind its first quote, with its pairs of surrogates
joined, also behind a surrogate `high` that may begin a pair. -/
theorem readString_paired (s read rest : Text) :
    readString read none (s.flatMap escape ++ .char '"' :: rest) = some (read.reverse ++ s.paired, rest) ∧
    ∀ high : CodePoint, high.isHigh = true →
      readString read (some high.toNat) (s.flatMap escape ++ .char '"' :: rest) =
        some (read.reverse ++ Text.paired (high :: s), rest) := by
  induction s generalizing read with
  | nil =>
    refine ⟨by simp [readString, settle, Text.paired], fun high _ => ?_⟩
    simp [readString, settle, Text.paired, CodePoint.ofNat_toNat]
  | cons c s ih =>
    simp only [List.flatMap_cons, List.append_assoc, readString_escape]
    cases hc : c.isHigh with
    | true =>
      refine ⟨?_, fun high _ => ?_⟩
      · rw [addPoint_of_high hc]
        exact (ih read).2 c hc
      · rw [addPoint_of_high hc, Text.paired_cons_of_not_low high (CodePoint.isLow_of_isHigh hc)]
        simpa [settle, CodePoint.ofNat_toNat] using (ih (high :: read)).2 c hc
    | false =>
      refine ⟨?_, fun high hhigh => ?_⟩
      · rw [show (none : Option Nat) = (none : Option CodePoint).map (·.toNat) from rfl,
          addPoint_of_not_high hc, Text.paired_cons_of_not_high hc]
        simpa using (ih (c :: read)).1
      · rw [show some high.toNat = (some high).map (·.toNat) from rfl, addPoint_of_not_high hc]
        cases hlow : c.isLow with
        | true =>
          rw [Text.paired_cons_pair hhigh hlow]
          simpa using (ih (.ofPair high c :: read)).1
        | false =>
          rw [Text.paired_cons_of_not_low high hlow, Text.paired_cons_of_not_high hc]
          simpa using (ih (c :: high :: read)).1

theorem readString_text (s read rest : Text) :
    readString read none (s.flatMap escape ++ .char '"' :: rest) = some (read.reverse ++ s.paired, rest) :=
  (readString_paired s read rest).1

/-! ### Numbers -/

/-- Behind a number stands nothing that could belong to it. -/
def EndsNumber (rest : Text) : Prop :=
  ∀ c ∈ rest.head?, c.isDigit = false ∧ c ≠ .char '.' ∧ c ≠ .char 'e' ∧ c ≠ .char 'E'

theorem readDigits_append {digits rest : Text} (hdigits : ∀ c ∈ digits, c.isDigit = true)
    (hrest : EndsNumber rest) : readDigits (digits ++ rest) = (digits, rest) := by
  unfold readDigits
  rw [List.takeWhile_append_of_pos hdigits, List.dropWhile_append_of_pos hdigits]
  cases rest with
  | nil => simp
  | cons c rest => simp [(hrest c rfl).1]

theorem isDigit_of_mem_decimal {n : Nat} {c : CodePoint} (h : c ∈ Text.decimal n) : c.isDigit = true := by
  obtain ⟨d, hd, rfl⟩ := List.mem_map.1 h
  exact Nat.isDigit_of_mem_toDigits (b := 10) (by decide) (by decide) hd

theorem digitsValue_decimal (n : Nat) : digitsValue (Text.decimal n) = n := by
  have hvalue : digitsValue (Text.decimal n) = Nat.ofDigitChars 10 (Nat.toDigits 10 n) 0 := by
    unfold digitsValue Text.decimal Nat.ofDigitChars
    simp only [Nat.mul_comm 10, List.foldl_map, CodePoint.toNat_char]
    rfl
  rw [hvalue, Nat.ofDigitChars_ten_toDigits]

theorem readExponent_of_ends {rest : Text} (h : EndsNumber rest) : readExponent rest = some (none, rest) := by
  cases rest with
  | nil => rfl
  | cons c rest =>
    obtain ⟨-, -, he, hE⟩ := h c rfl
    simp [readExponent, he, hE]

/-- A number is read back from its digits. -/
theorem readNumber_decimal (n : Nat) {rest : Text} (h : EndsNumber rest) :
    readNumber false (Text.decimal n ++ rest) = some (.int n, rest) := by
  have hvalue := digitsValue_decimal n
  unfold readNumber
  rw [readDigits_append (fun c => isDigit_of_mem_decimal) h]
  obtain ⟨d, digits, hdigits⟩ : ∃ d digits, Text.decimal n = d :: digits :=
    List.exists_cons_of_ne_nil (Text.decimal_ne_nil n)
  rw [hdigits] at hvalue ⊢
  have hpointed : ∀ rest' : Text, rest ≠ .char '.' :: rest' := by
    rintro rest' rfl
    exact (h '.' rfl).2.1 rfl
  simp [readExponent_of_ends h, hvalue]

/-- A number behind a space. -/
theorem readValue_decimal (fuel n : Nat) {rest : Text} (h : EndsNumber rest) :
    readValue (fuel + 1) (.char ' ' :: (Text.decimal n ++ rest)) = some (.int n, rest) := by
  have hnumber := readNumber_decimal n h
  obtain ⟨d, digits, hdigits⟩ : ∃ d digits, Text.decimal n = d :: digits :=
    List.exists_cons_of_ne_nil (Text.decimal_ne_nil n)
  have hd : d.isDigit = true := isDigit_of_mem_decimal (hdigits ▸ List.mem_cons_self)
  have hblank : d ≠ .char ' ' ∧ d ≠ .char '\n' ∧ d ≠ .char '\r' ∧ d ≠ .char '\t' := by
    refine ⟨?_, ?_, ?_, ?_⟩ <;> rintro rfl <;> exact absurd hd (by decide)
  have hmark : d ≠ .char '"' ∧ d ≠ .char '[' ∧ d ≠ .char '\x7b' ∧ d ≠ .char '-' := by
    refine ⟨?_, ?_, ?_, ?_⟩ <;> rintro rfl <;> exact absurd hd (by decide)
  rw [hdigits, List.cons_append] at hnumber ⊢
  have hskip : skip (.char ' ' :: d :: (digits ++ rest)) = d :: (digits ++ rest) := by
    simp [skip, hblank]
  rw [readValue, hskip]
  simp [hmark, hd, hnumber]

/-! ### Members -/

/-- The line of a member. -/
def countLine (count : Text × Nat) : Text :=
  [.char ' ', .char ' '] ++ string count.1 ++ [.char ':', .char ' '] ++ Text.decimal count.2

theorem countsBlock_eq {counts : List (Text × Nat)} (h : counts ≠ []) :
    countsBlock counts =
      .char '\x7b' :: .char '\n' ::
        (",\n".toText.intercalate (counts.map countLine) ++ [.char '\n', .char '\x7d']) := by
  rw [countsBlock, List.isEmpty_eq_false_iff.2 h]
  rfl

/-- Behind the indentation of a member's line. -/
theorem skip_countLine (count : Text × Nat) (rest : Text) :
    skip (countLine count ++ rest) =
      .char '"' ::
        (count.1.flatMap escape ++ .char '"' :: .char ':' :: .char ' ' :: (Text.decimal count.2 ++ rest)) := by
  unfold countLine string
  simp [skip]

/-- An object with members is read from its first one on. -/
theorem readValue_members (fuel : Nat) {s rest inner : Text} (hs : skip s = .char '\x7b' :: rest)
    (hrest : skip rest = .char '"' :: inner) :
    readValue (fuel + 1) s =
      (readMembers fuel [] (.char '"' :: inner)).map fun (members, rest) => (.obj members, rest) := by
  rw [readValue, hs]
  simp only [hrest]
  rfl

/-- One member is read: a comma behind it calls for the next one, a closing brace ends the object. -/
theorem readMembers_count (fuel : Nat) (members : Members) {s rest : Text} {count : Text × Nat}
    (hs : skip s = skip (countLine count ++ rest)) (hrest : EndsNumber rest) :
    (∀ next, skip rest = .char ',' :: next →
      readMembers (fuel + 2) members s =
        readMembers (fuel + 1) (put count.1.paired (.int count.2) members) next) ∧
    ∀ behind, skip rest = .char '\x7d' :: behind →
      readMembers (fuel + 2) members s = some (put count.1.paired (.int count.2) members, behind) := by
  have hcolon (rest : Text) : skip (.char ':' :: rest) = .char ':' :: rest := rfl
  rw [readMembers, hs, skip_countLine]
  simp only [readString_text, List.reverse_nil, List.nil_append, hcolon, readValue_decimal fuel count.2 hrest]
  exact ⟨fun next hnext => by simp only [hnext], fun behind hbehind => by simp only [hbehind]⟩

/-- **Members are read back** in their order. -/
theorem readMembers_counts {counts : List (Text × Nat)} (hne : counts ≠ []) (members : Members)
    {fuel : Nat} (hfuel : counts.length < fuel) {s : Text} (rest : Text)
    (hs : skip s = skip (",\n".toText.intercalate (counts.map countLine) ++ .char '\n' :: .char '\x7d' :: rest)) :
    readMembers fuel members s =
      some (counts.foldl (fun members count => put count.1.paired (.int count.2) members) members, rest) := by
  induction counts generalizing members fuel s with
  | nil => exact absurd rfl hne
  | cons count counts ih =>
    obtain ⟨fuel, rfl⟩ : ∃ k, fuel = k + 2 := ⟨fuel - 2, by simp only [List.length_cons] at hfuel; omega⟩
    -- What stands behind a member ends its number: the line of the brace, or a comma.
    cases counts with
    | nil =>
      have hends : EndsNumber (.char '\n' :: .char '\x7d' :: rest) := by
        intro c hc
        obtain rfl := Option.some.inj hc
        decide
      rw [List.map_singleton, List.intercalate_singleton] at hs
      rw [(readMembers_count fuel members hs hends).2 _ rfl]
      rfl
    | cons next counts =>
      have hends : EndsNumber (",\n".toText ++ (",\n".toText.intercalate ((next :: counts).map countLine) ++
          .char '\n' :: .char '\x7d' :: rest)) := by
        intro c hc
        obtain rfl := Option.some.inj hc
        decide
      rw [List.map_cons, List.intercalate_cons_of_ne_nil (by simp), List.append_assoc, List.append_assoc] at hs
      rw [(readMembers_count fuel members hs hends).1 _ rfl, List.foldl_cons]
      refine ih (List.cons_ne_nil next counts) _ ?_ rfl
      simp only [List.length_cons] at hfuel ⊢
      omega

/-- A member with a new name comes last. -/
theorem put_of_not_mem {name : Text} (v : Value) {members : Members} (h : name ∉ members.map (·.1)) :
    put name v members = members ++ [(name, v)] := by
  induction members with
  | nil => rfl
  | cons m members ih =>
    rw [List.map_cons, List.mem_cons, not_or] at h
    rw [put, if_neg (Ne.symm h.1), ih h.2, List.cons_append]

theorem foldl_put {counts : List (Text × Nat)} (h : (counts.map (·.1.paired)).Nodup) :
    counts.foldl (fun members count => put count.1.paired (.int count.2) members) [] =
      counts.map fun count => (count.1.paired, .int count.2) := by
  induction counts using List.reverseRecOn with
  | nil => rfl
  | append_singleton counts count ih =>
    rw [List.map_append, List.nodup_append] at h
    have hnew : count.1.paired ∉ (counts.map fun count => (count.1.paired, Value.int count.2)).map (·.1) := by
      rw [List.map_map]
      exact fun hmem => h.2.2 _ hmem _ List.mem_cons_self rfl
    rw [List.foldl_append, ih h.1, List.foldl_cons, List.foldl_nil, put_of_not_mem _ hnew, List.map_append]
    rfl

theorem length_le_intercalate {sep : Text} {lines : List Text} (h : ∀ line ∈ lines, line ≠ []) :
    lines.length ≤ (sep.intercalate lines).length := by
  induction lines with
  | nil => exact Nat.le_refl 0
  | cons line lines ih =>
    have hline : 0 < line.length := List.length_pos_iff.2 (h line List.mem_cons_self)
    have hrest := ih fun l hl => h l (List.mem_cons_of_mem line hl)
    cases lines with
    | nil => rwa [List.intercalate_singleton]
    | cons next lines =>
      rw [List.intercalate_cons_cons, List.length_append, List.length_append, List.length_cons]
      omega

/-- **Counts by name** are read back in their order, with pairs of surrogates joined. Where this makes two
names one, the later count stands at the earlier place. -/
theorem parse?_countsBlock (counts : List (Text × Nat)) :
    parse? (countsBlock counts) =
      some (.obj (counts.foldl (fun members count => put count.1.paired (.int count.2) members) [])) := by
  by_cases hne : counts = []
  · subst hne
    rfl
  have hlines : ∀ line ∈ counts.map countLine, line ≠ [] := by
    intro line hline
    obtain ⟨count, -, rfl⟩ := List.mem_map.1 hline
    exact List.cons_ne_nil _ _
  have hlength : (counts.map countLine).length ≤ (",\n".toText.intercalate (counts.map countLine)).length :=
    length_le_intercalate hlines
  rw [List.length_map] at hlength
  obtain ⟨s, hs⟩ : ∃ s,
      skip (",\n".toText.intercalate (counts.map countLine) ++ [.char '\n', .char '\x7d']) = .char '"' :: s := by
    obtain ⟨count, counts, rfl⟩ := List.exists_cons_of_ne_nil hne
    cases counts with
    | nil =>
      rw [List.map_singleton, List.intercalate_singleton]
      exact ⟨_, skip_countLine count _⟩
    | cons next counts =>
      rw [List.map_cons, List.map_cons, List.intercalate_cons_cons, List.append_assoc, List.append_assoc]
      exact ⟨_, skip_countLine count _⟩
  have hfuel : counts.length < (countsBlock counts).length := by
    rw [countsBlock_eq hne]
    simp only [List.length_cons, List.length_append]
    omega
  have hmembers := readMembers_counts hne [] hfuel (s := .char '"' :: s) [] hs.symm
  have hopen : skip (countsBlock counts) =
      .char '\x7b' :: .char '\n' ::
        (",\n".toText.intercalate (counts.map countLine) ++ [.char '\n', .char '\x7d']) := by
    rw [countsBlock_eq hne]
    rfl
  rw [parse?, readValue_members _ hopen hs, hmembers]
  rfl

end Json

/-! ### Characters -/

/-- The text is in ASCII. -/
def Text.IsAscii (s : Text) : Prop := ∀ c ∈ s, c.toNat < 0x80

namespace Text.IsAscii
variable {a b : Text}

instance (s : Text) : Decidable s.IsAscii := List.decidableBAll (fun c : CodePoint => c.toNat < 0x80) s

theorem append (ha : IsAscii a) (hb : IsAscii b) : IsAscii (a ++ b) := fun c hc =>
  (List.mem_append.1 hc).elim (ha c) (hb c)

theorem flatMap {f : CodePoint → Text} (h : ∀ c, IsAscii (f c)) (s : Text) : IsAscii (s.flatMap f) := by
  intro c hc
  obtain ⟨d, -, hd⟩ := List.mem_flatMap.1 hc
  exact h d c hd

theorem intercalate {lines : List Text} (ha : IsAscii a) (h : ∀ line ∈ lines, IsAscii line) :
    IsAscii (a.intercalate lines) := by
  intro c hc
  rcases mem_intercalate hc with hc | ⟨line, hline, hc⟩
  · exact ha c hc
  · exact h line hline c hc

theorem decimal (n : Nat) : IsAscii (Text.decimal n) := by
  intro c hc
  have hdigit : c.isDigit = true := Json.isDigit_of_mem_decimal hc
  exact Nat.lt_of_le_of_lt (CodePoint.isDigit_iff.1 hdigit).2 (by decide)

end Text.IsAscii

namespace Json

theorem isAscii_unit {n : Nat} (h : n < 0x10000) : (unit n).IsAscii := by
  have hdigit : ∀ k < 16, k.digitChar.toNat < 0x80 := by decide
  rw [unit, Text.hex_four h]
  simp only [Text.IsAscii, List.forall_mem_cons]
  exact ⟨by decide, by decide, hdigit _ (by omega), hdigit _ (by omega), hdigit _ (by omega),
    hdigit _ (by omega), nofun⟩

theorem isAscii_units (c : CodePoint) : (units c).IsAscii := by
  have hlt := c.toNat_lt
  unfold units
  simp only
  split
  · next hplane => exact isAscii_unit hplane
  · exact (isAscii_unit (by omega)).append (isAscii_unit (by omega))

theorem isAscii_escape (c : CodePoint) : (escape c).IsAscii := by
  unfold escape
  split_ifs with hquote hn hr ht hb hf hplain
  · obtain rfl | rfl : c = .char '"' ∨ c = .char '\\' := by simpa using hquote
    · decide
    · decide
  · decide
  · decide
  · decide
  · decide
  · decide
  · simp only [Bool.and_eq_true, decide_eq_true_eq] at hplain
    intro d hd
    rw [List.mem_singleton.1 hd]
    omega
  · exact isAscii_units c

/-- **Counts by name** are written in ASCII. -/
theorem isAscii_countsBlock (counts : List (Text × Nat)) : (countsBlock counts).IsAscii := by
  have hline : ∀ line ∈ counts.map countLine, line.IsAscii := by
    intro line hline
    obtain ⟨count, -, rfl⟩ := List.mem_map.1 hline
    have hstring : (string count.1).IsAscii :=
      Text.IsAscii.append (a := [.char '"']) (by decide) ((Text.IsAscii.flatMap isAscii_escape _).append (by decide))
    exact (Text.IsAscii.append (Text.IsAscii.append (by decide) hstring) (by decide)).append (.decimal _)
  by_cases hne : counts = []
  · subst hne
    decide
  · rw [countsBlock_eq hne]
    exact Text.IsAscii.append (a := [.char '\x7b', .char '\n']) (by decide)
      ((Text.IsAscii.intercalate (by decide) hline).append (by decide))

end Json
end TableStructs
