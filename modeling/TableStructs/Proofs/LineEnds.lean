import Mathlib.Data.List.Forall2
import TableStructs.Text.Lines

/-!
A text cut into lines, as an argument and as a file. A file keeps its line feeds, and it ends its
lines at fewer code points. For a text whose line ends are line feeds and carriage returns only,
`lines_ofFile` relates the two line by line; `lines_withEnds` says that it does not matter which of
the two, or both, end its lines. Both follow two cuttings side by side, one code point at a time.
-/
namespace TableStructs.Text

/-- Whether line feeds and carriage returns are the only line ends of a text. -/
def PlainEnds (s : Text) : Prop := ∀ c ∈ s, Breaks.inline.breaks c = true → c = .char '\n'

instance (s : Text) : Decidable (PlainEnds s) := List.decidableBAll _ s

/-- A text with its line feeds written as `ends`. -/
def withEnds (ends : Text) (s : Text) : Text := s.flatMap fun c => if c = .char '\n' then ends else [c]

/-! ### The lines of a text and of a file -/

namespace Cut

/-- A file and a text that have been cut alike: a line of the file keeps its line feed. -/
structure Alike (s t : Cut) : Prop where
  completed : List.Forall₂ (fun line line' => line = line' ++ [.char '\n']) s.completed t.completed
  begun : s.begun = t.begun
  held : s.held = t.held

namespace Alike
variable {s t : Cut}

theorem complete (h : Alike s t) : Alike (s.complete .ofFile) (t.complete .inline) where
  completed := .cons (by simp [h.begun, Breaks.ofFile, Breaks.inline]) h.completed
  begun := rfl
  held := rfl

theorem read (h : Alike s t) {c : CodePoint} (hc : Breaks.inline.breaks c = true → c = .char '\n') :
    Alike (s.read .ofFile c) (t.read .inline c) := by
  have hbreaks : Breaks.ofFile.breaks c = Breaks.inline.breaks c := by
    rw [Bool.eq_iff_iff]
    refine ⟨fun hfeed => ?_, fun hfeed => beq_iff_eq.2 (hc hfeed)⟩
    rw [beq_iff_eq.1 hfeed]
    rfl
  unfold Cut.read
  rw [hbreaks]
  split
  · exact ⟨h.completed, h.begun, rfl⟩
  split
  · exact h.complete
  · exact ⟨h.completed, congrArg (c :: ·) h.begun, h.held⟩

theorem next (h : Alike s t) {c : CodePoint} (hc : Breaks.inline.breaks c = true → c = .char '\n') :
    Alike (s.next .ofFile c) (t.next .inline c) := by
  unfold Cut.next
  rw [h.held]
  split
  · split
    · exact h.complete
    · exact h.complete.read hc
  · exact h.read hc

theorem feed (h : Alike s t) {text : Text} (htext : PlainEnds text) :
    Alike (s.feed .ofFile text) (t.feed .inline text) := by
  induction text generalizing s t with
  | nil => exact h
  | cons c text ih =>
    exact ih (h.next (htext c List.mem_cons_self)) fun d hd => htext d (List.mem_cons_of_mem c hd)

end Alike
end Cut

/-- **The lines of a file** are those of the text that it holds, each but maybe the last one with a
line feed at its end. -/
theorem lines_ofFile {s : Text} (h : PlainEnds s) :
    List.Forall₂ (fun line line' => line = line' ++ [.char '\n'] ∨ line = line')
      (lines .ofFile s) (lines .inline s) := by
  have hstart : Cut.Alike {} {} := ⟨.nil, rfl, rfl⟩
  have hfeed := hstart.feed h
  unfold lines Cut.lines
  rw [List.forall₂_reverse_iff]
  unfold Cut.finish
  rw [hfeed.held, hfeed.begun]
  split
  · exact hfeed.complete.completed.imp fun _ _ hline => .inl hline
  split
  · exact hfeed.completed.imp fun _ _ hline => .inl hline
  · exact .cons (.inr rfl) (hfeed.completed.imp fun _ _ hline => .inl hline)

/-! ### Other line ends -/

namespace Cut

/-- `t` has read other line ends where `s` has read line feeds: they agree, but that `t` may still
hold a carriage return. -/
structure HeldBack (b : Breaks) (s t : Cut) : Prop where
  free : s.held = false
  agree : t = s ∨ t.held = true ∧ t.complete b = s

namespace HeldBack
variable {b : Breaks} {s t : Cut}

theorem next_eq (h : HeldBack b s t) {c : CodePoint} (hc : c ≠ .char '\n') : t.next b c = s.next b c := by
  rcases h.agree with rfl | ⟨hheld, hcomplete⟩
  · rfl
  · simp only [Cut.next, hheld, h.free, hc, hcomplete, if_true, if_false, Bool.false_eq_true]

theorem finish_eq (h : HeldBack b s t) : t.finish b = s.finish b := by
  rcases h.agree with rfl | ⟨hheld, rfl⟩
  · rfl
  · simp [Cut.finish, hheld, Cut.complete]

/-- A line end: a line feed on one side, a carriage return on the other, maybe with a line feed. -/
theorem lineEnd (hb : b.breaks '\n' = true) (h : HeldBack b s t) {ends : Text}
    (hends : ends = [.char '\r', .char '\n'] ∨ ends = [.char '\r']) :
    HeldBack b (s.next b '\n') (t.feed b ends) := by
  have hfeed : s.next b '\n' = s.complete b := by
    simp [Cut.next, Cut.read, h.free, hb]
  have hreturn : t.next b '\r' = { s with held := true } := by
    rw [h.next_eq (by decide)]
    simp [Cut.next, Cut.read, h.free]
  rw [hfeed]
  refine ⟨rfl, ?_⟩
  rcases hends with rfl | rfl
  · left
    show (t.next b '\r').next b '\n' = s.complete b
    rw [hreturn]
    rfl
  · right
    show (t.next b '\r').held = true ∧ (t.next b '\r').complete b = s.complete b
    rw [hreturn]
    exact ⟨rfl, rfl⟩

theorem other (h : HeldBack b s t) {c : CodePoint} (hfeed : c ≠ .char '\n') (hreturn : c ≠ .char '\r') :
    HeldBack b (s.next b c) (t.next b c) := by
  refine ⟨?_, .inl (h.next_eq hfeed)⟩
  simp only [Cut.next, h.free, Cut.read, hreturn, if_false, Bool.false_eq_true]
  split <;> rfl

theorem feed (hb : b.breaks '\n' = true) (h : HeldBack b s t) {ends : Text}
    (hends : ends = [.char '\r', .char '\n'] ∨ ends = [.char '\r']) {text : Text} (htext : .char '\r' ∉ text) :
    HeldBack b (s.feed b text) (t.feed b (withEnds ends text)) := by
  induction text generalizing s t with
  | nil => exact h
  | cons c text ih =>
    simp only [List.mem_cons, not_or] at htext
    rw [withEnds, List.flatMap_cons, feed_append]
    by_cases hc : c = .char '\n'
    · subst hc
      exact ih (h.lineEnd hb hends) htext.2
    · rw [if_neg hc]
      exact ih (h.other hc (Ne.symm htext.1)) htext.2

end HeldBack
end Cut

/-- **Other line ends** cut a text into the same lines. -/
theorem lines_withEnds {b : Breaks} (hb : b.breaks '\n' = true) {ends s : Text}
    (hends : ends = [.char '\r', .char '\n'] ∨ ends = [.char '\r']) (h : .char '\r' ∉ s) :
    lines b (withEnds ends s) = lines b s := by
  have hstart : Cut.HeldBack b {} {} := ⟨rfl, .inl rfl⟩
  rw [lines, (hstart.feed hb hends h).finish_eq, lines]

/-- Two texts that are the same but for line ends: all line feeds of the first, which has no
carriage returns, may stand with a carriage return, or have become one. -/
def SameButEnds (s s' : Text) : Prop :=
  s' = s ∨ .char '\r' ∉ s ∧ (s' = withEnds [.char '\r', .char '\n'] s ∨ s' = withEnds [.char '\r'] s)

theorem mem_withEnds {ends s : Text} (hends : ends = [.char '\r', .char '\n'] ∨ ends = [.char '\r'])
    {c : CodePoint}
    (hc : c ∈ withEnds ends s) : c = .char '\r' ∨ c ∈ s := by
  obtain ⟨d, hd, hcd⟩ := List.mem_flatMap.1 hc
  split at hcd
  · next hfeed =>
    subst hfeed
    rcases hends with rfl | rfl <;> simp at hcd
    · rcases hcd with rfl | rfl
      · exact .inl rfl
      · exact .inr hd
    · exact .inl hcd
  · rw [List.mem_singleton.1 hcd]
    exact .inr hd

namespace SameButEnds
variable {s s' : Text}

theorem plainEnds (h : SameButEnds s s') (hs : PlainEnds s) : PlainEnds s' := by
  have hplain {ends : Text} (hends : ends = [.char '\r', .char '\n'] ∨ ends = [.char '\r']) :
      PlainEnds (withEnds ends s) := by
    intro c hc hbreak
    rcases mem_withEnds hends hc with rfl | hmem
    · exact absurd hbreak (by decide)
    · exact hs c hmem hbreak
  obtain rfl | ⟨-, rfl | rfl⟩ := h
  · exact hs
  · exact hplain (.inl rfl)
  · exact hplain (.inr rfl)

theorem lines_eq (h : SameButEnds s s') {b : Breaks} (hb : b.breaks '\n' = true) :
    lines b s' = lines b s := by
  obtain rfl | ⟨hs, rfl | rfl⟩ := h
  · rfl
  · exact lines_withEnds hb (.inl rfl) hs
  · exact lines_withEnds hb (.inr rfl) hs

theorem ne_nil (h : SameButEnds s s') (hs : s ≠ []) : s' ≠ [] := by
  obtain rfl | ⟨-, rfl | rfl⟩ := h
  · exact hs
  all_goals
    obtain ⟨c, rest, rfl⟩ := List.exists_cons_of_ne_nil hs
    simp only [withEnds, List.flatMap_cons]
    split <;> simp

end SameButEnds
end TableStructs.Text
