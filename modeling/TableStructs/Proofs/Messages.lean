import TableStructs.Proofs.Legible
import TableStructs.Proofs.NameClashes
import TableStructs.Proofs.Warnings

/-!
Messages of a report are lines. The lines of a dump have no line feeds in them, so the names and types
that a message shows as they are have none; where a message shows a whole line, it shows it between
quotes, with every line feed escaped.

A check keeps names for later messages: of the open table, and of the tables closed. `Unbroken` says of
its state that neither what it has said nor what it keeps holds a line feed, and each further line
preserves this (`Unbroken.follow`).
-/
namespace TableStructs

/-! ### Texts without line feeds -/

namespace Text

/-- Digits are digits of the base. -/
theorem mem_toDigits {b : Nat} (hb : 1 < b) {n : Nat} {c : Char} (h : c ∈ Nat.toDigits b n) :
    ∃ k < b, c = k.digitChar := by
  induction n using Nat.strongRecOn with
  | ind n ih =>
    rw [Nat.toDigits_eq_if hb] at h
    split at h
    · next hn => exact ⟨n, hn, List.mem_singleton.1 h⟩
    · next hn =>
      rcases List.mem_append.1 h with h | h
      · exact ih (n / b) (Nat.div_lt_self (by omega) hb) h
      · exact ⟨n % b, Nat.mod_lt _ (by omega), List.mem_singleton.1 h⟩

theorem break_not_mem_toDigits {b : Nat} (hb : 1 < b) (hb' : b ≤ 16) (n : Nat) :
    .char '\n' ∉ (Nat.toDigits b n).map CodePoint.char := by
  intro h
  obtain ⟨c, hc, hbreak⟩ := List.mem_map.1 h
  obtain ⟨k, hk, rfl⟩ := mem_toDigits hb hc
  have hdigit : ∀ k < 16, CodePoint.char k.digitChar ≠ .char '\n' := by decide
  exact hdigit k (by omega) hbreak

theorem break_not_mem_decimal (n : Nat) : .char '\n' ∉ decimal n :=
  break_not_mem_toDigits (by decide) (by decide) n

theorem break_not_mem_hex (width n : Nat) : .char '\n' ∉ hex width n := by
  rw [hex, List.leftpad, List.map_append, List.map_replicate]
  refine List.not_mem_append (fun h => ?_) (break_not_mem_toDigits (by decide) (by decide) n)
  exact absurd (List.eq_of_mem_replicate h) (by decide)

theorem break_not_mem_signed (n : Int) : .char '\n' ∉ signed n := by
  cases n with
  | ofNat n => exact break_not_mem_decimal n
  | negSucc n =>
    rw [signed, List.mem_cons, not_or]
    exact ⟨by decide, break_not_mem_decimal _⟩

theorem break_not_mem_escaped (c : CodePoint) : .char '\n' ∉ escaped c := by
  have hmark {d : CodePoint} (hd : .char '\n' ≠ d) (width n : Nat) :
      .char '\n' ∉ .char '\\' :: d :: hex width n := by
    simp only [List.mem_cons, not_or]
    exact ⟨by decide, hd, break_not_mem_hex width n⟩
  unfold escaped
  simp only
  split_ifs
  · exact hmark (by decide) 2 c.toNat
  · exact hmark (by decide) 4 c.toNat
  · exact hmark (by decide) 8 c.toNat

theorem break_not_mem_quotedChar {quote : CodePoint} (hquote : quote ≠ .char '\n') (c : CodePoint) :
    .char '\n' ∉ quotedChar quote c := by
  unfold quotedChar
  split_ifs with hmark hn hr ht hprint
  · have hc : c ≠ .char '\n' := by
      rintro rfl
      simp [Ne.symm hquote] at hmark
    simpa using Ne.symm hc
  · decide
  · decide
  · decide
  · simpa using Ne.symm hn
  · exact break_not_mem_escaped c

/-- **A text between quotes** has no line feeds in it, whatever the text has. -/
theorem break_not_mem_quoted (s : Text) : .char '\n' ∉ quoted s := by
  have hquote : quoteFor s ≠ .char '\n' := by
    unfold quoteFor
    split <;> decide
  have hinside : .char '\n' ∉ s.flatMap (quotedChar (quoteFor s)) := by
    intro h
    obtain ⟨c, -, hc⟩ := List.mem_flatMap.1 h
    exact break_not_mem_quotedChar hquote c hc
  unfold quoted
  simp only [List.mem_cons, List.mem_append, List.not_mem_nil, or_false, not_or]
  exact ⟨Ne.symm hquote, hinside, Ne.symm hquote⟩

end Text

/-! ### Messages -/

theorem break_not_mem_structName {table : Text} (h : .char '\n' ∉ table) :
    .char '\n' ∉ structName table := fun hc =>
  (mem_structName hc).elim h (by decide)

namespace LineError

theorem break_not_mem_place (number : Option Int) : .char '\n' ∉ place number := by
  cases number with
  | none => exact List.not_mem_nil
  | some n =>
    exact List.not_mem_append (List.not_mem_append (by decide) (Text.break_not_mem_signed n)) (by decide)

/-- A line is shown between quotes, a type as it is. -/
def Unbroken : LineError → Prop
  | malformed _ _ => True
  | unmapped sqlType _ => .char '\n' ∉ sqlType

theorem Unbroken.onLine {e : LineError} (h : e.Unbroken) (n : Nat) : (e.onLine n).Unbroken := by
  cases e <;> exact h

theorem Unbroken.message {e : LineError} (h : e.Unbroken) : .char '\n' ∉ e.message := by
  unfold LineError.message
  cases e with
  | malformed line number =>
    have hwords : .char '\n' ∉ "Malformed column line".toText ∧ .char '\n' ∉ ": ".toText := by decide
    simp only [List.mem_append, not_or]
    exact ⟨⟨⟨hwords.1, break_not_mem_place number⟩, hwords.2⟩, Text.break_not_mem_quoted line⟩
  | unmapped sqlType number =>
    have hwords : .char '\n' ∉ "Unhandled column type".toText ∧ .char '\n' ∉ ": ".toText := by decide
    simp only [List.mem_append, not_or]
    exact ⟨⟨⟨hwords.1, break_not_mem_place number⟩, hwords.2⟩, h⟩

end LineError

/-- The names in a problem hold no line feeds. -/
def Problem.Unbroken : Problem → Prop
  | header e => e.Unbroken
  | column table e => .char '\n' ∉ table ∧ e.Unbroken

theorem Problem.Unbroken.message {p : Problem} (h : p.Unbroken) : .char '\n' ∉ p.message := by
  unfold Problem.message
  cases p with
  | header e => exact LineError.Unbroken.message h
  | column table e =>
    have hwords : .char '\n' ∉ "Table '".toText ∧ .char '\n' ∉ "': ".toText := by decide
    simp only [List.mem_append, not_or]
    exact ⟨⟨⟨hwords.1, h.1⟩, hwords.2⟩, h.2.message⟩

/-- The names in a warning hold no line feeds. -/
def Warning.Unbroken : Warning → Prop
  | unterminated _ table | noColumns table | missingEnd table => .char '\n' ∉ table
  | singularName table struct => .char '\n' ∉ table ∧ .char '\n' ∉ struct
  | nameClash table struct earlier => .char '\n' ∉ table ∧ .char '\n' ∉ struct ∧ .char '\n' ∉ earlier

theorem Warning.Unbroken.message {w : Warning} (h : w.Unbroken) : .char '\n' ∉ w.message := by
  have htable : .char '\n' ∉ "Table '".toText := by decide
  have hquote : .char '\n' ∉ "'".toText := by decide
  unfold Warning.message
  cases w with
  | unterminated line table =>
    simp only [List.mem_append, not_or]
    exact ⟨⟨⟨⟨by decide, Text.break_not_mem_decimal line⟩, by decide⟩, h⟩, hquote⟩
  | noColumns table =>
    simp only [List.mem_append, not_or]
    exact ⟨⟨htable, h⟩, by decide⟩
  | missingEnd table =>
    simp only [List.mem_append, not_or]
    exact ⟨⟨htable, h⟩, by decide⟩
  | singularName table struct =>
    simp only [List.mem_append, not_or]
    exact ⟨⟨⟨⟨htable, h.1⟩, by decide⟩, h.2⟩, hquote⟩
  | nameClash table struct earlier =>
    simp only [List.mem_append, not_or]
    exact ⟨⟨⟨⟨⟨⟨htable, h.1⟩, by decide⟩, h.2.1⟩, by decide⟩, h.2.2⟩, hquote⟩

/-! ### Readings -/

theorem Column.sqlType_subset {line : Text} {column : Column} (h : Column.ofLine? line = some column) :
    column.sqlType ⊆ line := by
  unfold Column.ofLine? at h
  split at h
  · next name sqlType others hsplit =>
    cases h
    have hpiece : sqlType ∈ Text.split ' ' (Text.trim line) := by simp [hsplit]
    exact List.Subset.trans (Text.dropEnd_subset ',' sqlType)
      (List.Subset.trans (Text.subset_of_mem_split hpiece) (Text.trim_subset line))
  · cases h

theorem Field.unbroken_of_error {types : TypeTable} {tagged : Bool} {line : Text} {e : LineError}
    (hline : .char '\n' ∉ line) (h : Field.ofLine types tagged line none = .error e) : e.Unbroken := by
  unfold Field.ofLine Column.ofLine TypeTable.map at h
  cases hcolumn : Column.ofLine? line with
  | none =>
    rw [hcolumn] at h
    cases h
    trivial
  | some column =>
    simp only [hcolumn] at h
    cases hgo : types.goType? column.sqlType with
    | some go => simp [hgo] at h
    | none =>
      simp only [hgo, Except.error.injEq] at h
      subst h
      exact fun hc => hline (Column.sqlType_subset hcolumn hc)

namespace Reading

/-- What a reading gives to say holds no line feed. -/
def Unbroken : Reading → Prop
  | opens table => .char '\n' ∉ table
  | nameless e | faulty e => e.Unbroken
  | closes | adds _ | constraint | nothing => True

theorem unbroken_ofLine {line : Text} (hline : .char '\n' ∉ line) (types : TypeTable) (tagged inTable : Bool) :
    (ofLine types tagged line inTable).Unbroken := by
  unfold ofLine
  cases LineKind.ofLine line inTable with
  | header =>
    unfold headerTable
    cases hname : headerTable? line with
    | none => trivial
    | some table => exact fun hc => hline (headerTable?_subset hname hc)
  | terminator => trivial
  | column =>
    cases hfield : Field.ofLine types tagged line none with
    | ok f => trivial
    | error e => exact Field.unbroken_of_error hline hfield
  | ignorable =>
    simp only
    split <;> trivial

end Reading

/-! ### Reports -/

namespace Report

theorem mem_record {e d : Entry} {es : List Entry} (h : d ∈ record e es) : d = e ∨ d ∈ es := by
  induction es with
  | nil => exact .inl (List.mem_singleton.1 h)
  | cons first rest ih =>
    rw [record] at h
    split at h
    · exact (List.mem_cons.1 h).imp_right (List.mem_cons_of_mem first)
    · rcases List.mem_cons.1 h with rfl | h
      · exact .inr List.mem_cons_self
      · exact (ih h).imp_right (List.mem_cons_of_mem first)

namespace State

/-- Neither what a check has said nor the names that it keeps hold line feeds. -/
structure Unbroken (s : State) : Prop where
  current : ∀ t ∈ s.current, .char '\n' ∉ t.table
  entries : ∀ e ∈ s.entries, .char '\n' ∉ e.table
  problems : ∀ p ∈ s.problems, p.Unbroken
  warnings : ∀ w ∈ s.warnings, w.Unbroken

namespace Unbroken
variable {s : State} {r : Reading}

theorem initial : Unbroken {} := ⟨nofun, nofun, nofun, nofun⟩

theorem current_follow (h : Unbroken s) (hr : r.Unbroken) :
    ∀ t ∈ (s.follow r).current, .char '\n' ∉ t.table := by
  rw [State.current_follow]
  cases r with
  | opens table =>
    intro t ht
    rw [← Option.some.inj ht]
    exact hr
  | nameless e | closes => nofun
  | adds f =>
    intro t ht
    obtain ⟨u, hu, rfl⟩ := Option.map_eq_some_iff.1 ht
    exact h.current u hu
  | faulty e | constraint | nothing => exact h.current

theorem entries_follow (h : Unbroken s) : ∀ e ∈ (s.follow r).entries, .char '\n' ∉ e.table := by
  have hcounted : (s.follow r).entries = _ := congrArg Prod.fst (s.counted_follow r)
  rw [hcounted]
  split
  · next t ht =>
    intro e he
    rcases mem_record he with rfl | he
    · exact h.current t ht
    · exact h.entries e he
  · exact h.entries

theorem problem? (h : Unbroken s) (hr : r.Unbroken) : ∀ p ∈ s.problem? r, p.Unbroken := by
  cases r with
  | nameless e =>
    intro p hp
    rw [← Option.some.inj hp]
    exact LineError.Unbroken.onLine hr _
  | faulty e =>
    intro p hp
    obtain ⟨t, ht, rfl⟩ := Option.map_eq_some_iff.1 hp
    exact ⟨h.current t ht, LineError.Unbroken.onLine hr _⟩
  | _ => nofun

theorem closingWarnings (h : Unbroken s) {t : OpenTable} (ht : .char '\n' ∉ t.table) :
    ∀ w ∈ closingWarnings s.entries t, w.Unbroken := by
  intro w hw
  rcases List.mem_append.1 hw with hw | hw
  · split at hw
    · rwa [List.mem_singleton.1 hw]
    · cases hw
  · split at hw
    · next e he =>
      rw [List.mem_singleton.1 hw]
      exact ⟨ht, break_not_mem_structName ht, h.entries e (List.mem_of_find?_eq_some he)⟩
    · cases hw

theorem leaveWarnings (h : Unbroken s) (n : Nat) : ∀ w ∈ s.leaveWarnings n, w.Unbroken := by
  intro w hw
  obtain ⟨t, ht, rfl⟩ := List.mem_map.1 hw
  exact h.current t (Option.mem_toList.1 ht)

theorem endWarnings (h : Unbroken s) : ∀ w ∈ s.endWarnings, w.Unbroken := by
  intro w hw
  obtain ⟨t, ht, rfl⟩ := List.mem_map.1 hw
  exact h.current t (Option.mem_toList.1 ht)

theorem warningsAt (h : Unbroken s) (hr : r.Unbroken) : ∀ w ∈ s.warningsAt r, w.Unbroken := by
  cases r with
  | opens table =>
    intro w hw
    rcases List.mem_append.1 hw with hw | hw
    · exact h.leaveWarnings _ w hw
    · unfold nameWarnings at hw
      split at hw
      · rw [List.mem_singleton.1 hw]
        exact ⟨hr, break_not_mem_structName hr⟩
      · cases hw
  | nameless e => exact h.leaveWarnings _
  | closes =>
    intro w hw
    obtain ⟨t, ht, hw⟩ := List.mem_flatMap.1 hw
    exact h.closingWarnings (h.current t (Option.mem_toList.1 ht)) w hw
  | _ => nofun

/-- **One line.** A reading without line feeds leaves none in the state. -/
theorem follow (h : Unbroken s) (hr : r.Unbroken) : Unbroken (s.follow r) where
  current := h.current_follow hr
  entries := h.entries_follow
  problems := by
    rw [problems_follow]
    intro p hp
    rcases List.mem_append.1 hp with hp | hp
    · exact h.problems p hp
    · exact h.problem? hr p (Option.mem_toList.1 hp)
  warnings := by
    rw [warnings_follow]
    intro w hw
    rcases List.mem_append.1 hw with hw | hw
    · exact h.warnings w hw
    · exact h.warningsAt hr w hw

/-- **All lines**, none of which has a line feed in it. -/
theorem run (types : TypeTable) (h : Unbroken s) {lines : List Text}
    (hlines : ∀ line ∈ lines, .char '\n' ∉ line) :
    Unbroken (s.run types lines) := by
  induction lines generalizing s with
  | nil => exact h
  | cons line rest ih =>
    have hnext : Unbroken (s.next types line) := by
      rw [next_eq types false]
      exact h.follow (Reading.unbroken_ofLine (hlines line List.mem_cons_self) types false _)
    exact ih hnext fun l hl => hlines l (List.mem_cons_of_mem line hl)

end Unbroken
end State

/-- No message of a report holds a line feed. -/
structure Unbroken (r : Report) : Prop where
  errors : ∀ message ∈ r.errors, .char '\n' ∉ message
  warnings : ∀ w ∈ r.warnings, .char '\n' ∉ w.message

/-- **Messages are lines** in the report on a dump. -/
theorem unbroken_check {input : Lines} (h : input.OfDump) (types : TypeTable) :
    (check types input.lines).Unbroken := by
  obtain ⟨lines, hsame, hlines⟩ := h.unbroken
  have hstate := State.Unbroken.initial.run types hlines
  rw [check_congr hsame, check_eq]
  refine ⟨fun message hmessage => ?_, fun w hw => ?_⟩
  · obtain ⟨p, hp, rfl⟩ := List.mem_map.1 hmessage
    exact (hstate.problems p hp).message
  · exact ((List.mem_append.1 hw).elim (hstate.warnings w) (hstate.endWarnings w)).message

end Report
end TableStructs
