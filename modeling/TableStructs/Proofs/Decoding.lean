import Mathlib.Algebra.Ring.Nat
import Mathlib.Data.List.Induction
import Mathlib.Data.List.TakeWhile
import TableStructs.Encoding.FileLines
import TableStructs.Encoding.Utf8

/-!
Reading a file back. An encoding is `Faithful` if a file gets the bytes of its text and these are read
as the text again, in whatever parts. UTF-8 is (`faithful_utf8`), and so are the encodings with one
byte for each code point (`faithful_singleByte`). In UTF-8 a code point may be cut by the end of a
part; its bytes are carried over, and the next part completes it (`readParts_utf8`).
-/
namespace TableStructs.Encoding

theorem toNat_ofNat_of_lt {n : Nat} (h : n < 256) : (UInt8.ofNat n).toNat = n := by
  simp [Nat.mod_eq_of_lt h]

/-- The bytes that follow the first one of a code point, when `count` of them follow. -/
def followers (n : Nat) : Nat → List UInt8
  | 0 => []
  | count + 1 => UInt8.ofNat (n / 64 ^ count % 64 + 128) :: followers n count

/-- A sequence that has read all of `n` but what `count` followers hold. -/
structure Sequence.Awaits (s : Sequence) (n count : Nat) : Prop where
  owed : s.owed = count
  bits : s.bits = n / 64 ^ count
  low : s.low ≤ n / 64 ^ (count - 1) % 64 + 128
  high : n / 64 ^ (count - 1) % 64 + 128 ≤ s.high

namespace Sequence.Awaits
variable {s : Sequence} {n count : Nat}

/-- The bits of a sequence with one more follower read. -/
theorem bits_follower (h : s.Awaits n (count + 1)) :
    s.bits * 0x40 + (n / 64 ^ count % 64 + 128 - 0x80) = n / 64 ^ count := by
  rw [h.bits, Nat.pow_succ, ← Nat.div_div_eq_div_mul, Nat.add_sub_cancel]
  exact Nat.div_add_mod' _ 64

/-- The last follower completes the code point. -/
theorem next_last (h : s.Awaits n 1) :
    (Pending.sequence s).next (UInt8.ofNat (n / 64 ^ 0 % 64 + 128)) = .char (Char.ofNat n) := by
  have hbits := h.bits_follower
  rw [Nat.pow_zero, Nat.div_one] at hbits ⊢
  have hlow : s.low ≤ n % 64 + 128 := by simpa using h.low
  have hhigh : n % 64 + 128 ≤ s.high := by simpa using h.high
  rw [Pending.next, Pending.proceed, toNat_ofNat_of_lt (by omega), if_pos ⟨hlow, hhigh⟩, hbits,
    if_pos (Nat.le_of_eq h.owed)]

/-- A follower before the last one. -/
theorem next_more (h : s.Awaits n (count + 2)) :
    ∃ t : Sequence, (Pending.sequence s).next (UInt8.ofNat (n / 64 ^ (count + 1) % 64 + 128)) =
      .more (.sequence t) ∧ t.Awaits n (count + 1) := by
  rw [Pending.next, Pending.proceed, toNat_ofNat_of_lt (by omega), if_pos ⟨h.low, h.high⟩,
    h.bits_follower, if_neg (by rw [h.owed]; omega)]
  refine ⟨_, rfl, ?_, rfl, ?_, ?_⟩
  · rw [h.owed]
    rfl
  · simp
  · simp only
    omega

end Sequence.Awaits

theorem decodeUtf8_followers {s : Sequence} {n count : Nat} (h : s.Awaits n (count + 1)) (place : Nat)
    (read : Text) (rest : List UInt8) :
    decodeUtf8 place read (.sequence s) (followers n (count + 1) ++ rest) =
      decodeUtf8 (place + (count + 1)) (.char (Char.ofNat n) :: read) .nothing rest := by
  induction count generalizing s place with
  | zero => simp only [followers, List.cons_append, List.nil_append, decodeUtf8, h.next_last]
  | succ count ih =>
    obtain ⟨t, hnext, ht⟩ := h.next_more
    rw [followers, List.cons_append, decodeUtf8, hnext]
    simp only
    rw [ih ht, Nat.add_assoc, Nat.add_comm 1]

theorem first_of_two {n : Nat} (hlow : 0x80 ≤ n) (hhigh : n ≤ 0x7FF) :
    ∃ s : Sequence, Pending.first (UInt8.ofNat (n / 64 % 32 + 192)) = .more (.sequence s) ∧ s.Awaits n 1 := by
  have hbits : n / 64 % 32 + 192 - 0xC0 = n / 64 := by omega
  rw [Pending.first, toNat_ofNat_of_lt (by omega), if_neg (by omega), if_pos (by omega), hbits]
  exact ⟨_, rfl, rfl, by simp, by simp, by simp; omega⟩

theorem first_of_three {n : Nat} (hlow : 0x800 ≤ n) (hhigh : n ≤ 0xFFFF) (hs : n < 0xD800 ∨ 0xDFFF < n) :
    ∃ s : Sequence, Pending.first (UInt8.ofNat (n / 4096 % 16 + 224)) = .more (.sequence s) ∧ s.Awaits n 2 := by
  rw [Pending.first, toNat_ofNat_of_lt (by omega), if_neg (by omega), if_neg (by omega)]
  by_cases h0 : n / 4096 = 0
  · rw [if_pos (by omega)]
    exact ⟨_, rfl, rfl, by simp; omega, by simp; omega, by simp; omega⟩
  by_cases hD : n / 4096 = 13
  · rw [if_neg (by omega), if_pos (by omega)]
    exact ⟨_, rfl, rfl, by simp; omega, by simp, by simp; omega⟩
  · rw [if_neg (by omega), if_neg (by omega), if_pos (by omega)]
    exact ⟨_, rfl, rfl, by simp; omega, by simp, by simp; omega⟩

theorem first_of_four {n : Nat} (hlow : 0x10000 ≤ n) (hhigh : n < 0x110000) :
    ∃ s : Sequence, Pending.first (UInt8.ofNat (n / 262144 % 8 + 240)) = .more (.sequence s) ∧ s.Awaits n 3 := by
  rw [Pending.first, toNat_ofNat_of_lt (by omega), if_neg (by omega), if_neg (by omega),
    if_neg (by omega), if_neg (by omega), if_neg (by omega)]
  by_cases h0 : n / 262144 = 0
  · rw [if_pos (by omega)]
    exact ⟨_, rfl, rfl, by simp; omega, by simp; omega, by simp; omega⟩
  by_cases h4 : n / 262144 = 4
  · rw [if_neg (by omega), if_neg (by omega), if_pos (by omega)]
    exact ⟨_, rfl, rfl, by simp; omega, by simp, by simp; omega⟩
  · rw [if_neg (by omega), if_pos (by omega)]
    exact ⟨_, rfl, rfl, by simp; omega, by simp, by simp; omega⟩

/-- **A character is read back** from its bytes. -/
theorem decodeUtf8_encodeChar (c : Char) (place : Nat) (read : Text) (rest : List UInt8) :
    decodeUtf8 place read .nothing (String.utf8EncodeChar c ++ rest) =
      decodeUtf8 (place + (String.utf8EncodeChar c).length) (.char c :: read) .nothing rest := by
  have hvalid : c.toNat < 0xD800 ∨ 0xDFFF < c.toNat ∧ c.toNat < 0x110000 := c.valid
  have hself := Char.ofNat_toNat c
  have hmore {b : UInt8} {s : Sequence} {count : Nat}
      (hfirst : Pending.first b = .more (.sequence s)) (hs : s.Awaits c.toNat (count + 1)) :
      decodeUtf8 place read .nothing (b :: followers c.toNat (count + 1) ++ rest) =
        decodeUtf8 (place + (count + 2)) (.char c :: read) .nothing rest := by
    rw [List.cons_append, decodeUtf8, Pending.next, hfirst]
    simp only
    rw [decodeUtf8_followers hs, hself, Nat.add_assoc, Nat.add_comm 1]
  have hn : c.val.toNat = c.toNat := rfl
  unfold String.utf8EncodeChar
  simp only [hn]
  generalize c.toNat = n at *
  split
  · next h =>
    rw [List.singleton_append, decodeUtf8, Pending.next, Pending.first, toNat_ofNat_of_lt (by omega),
      if_pos h, hself]
    rfl
  split
  · next h1 h2 =>
    obtain ⟨s, hfirst, hs⟩ := first_of_two (by omega) h2
    simpa [followers] using hmore hfirst hs
  split
  · next h1 h2 h3 =>
    obtain ⟨s, hfirst, hs⟩ := first_of_three (by omega) h3 (by omega)
    simpa [followers] using hmore hfirst hs
  · next h1 h2 h3 =>
    obtain ⟨s, hfirst, hs⟩ := first_of_four (n := n) (by omega) (by omega)
    simpa [followers] using hmore hfirst hs

/-! ### Bytes in parts -/

theorem decodeUtf8_append (place : Nat) (read : Text) (p : Pending) (a b : List UInt8) :
    decodeUtf8 place read p (a ++ b) =
      match decodeUtf8 place read p a with
      | .ok (text, q) => decodeUtf8 (place + a.length) text.reverse q b
      | .error e => .error e := by
  induction a generalizing place read p with
  | nil => simp [decodeUtf8]
  | cons byte a ih =>
    have hplace : place + (byte :: a).length = place + 1 + a.length := by
      rw [List.length_cons]
      omega
    rw [List.cons_append, decodeUtf8, decodeUtf8, hplace]
    cases p.next byte with
    | char c => exact ih _ _ _
    | more q => exact ih _ _ _
    | wrong byte count fault => rfl

/-- What has been read before stands in front of what is read. -/
theorem decodeUtf8_eq_ok_iff {place : Nat} {read text : Text} {p q : Pending} {bytes : List UInt8} :
    decodeUtf8 place read p bytes = .ok (text, q) ↔
      ∃ new, text = read.reverse ++ new ∧ decodeUtf8 0 [] p bytes = .ok (new, q) := by
  induction bytes generalizing place read p text with
  | nil =>
    simp only [decodeUtf8, Except.ok.injEq, Prod.mk.injEq, List.reverse_nil]
    constructor
    · rintro ⟨rfl, rfl⟩
      exact ⟨[], (List.append_nil _).symm, rfl, rfl⟩
    · rintro ⟨_, rfl, rfl, rfl⟩
      exact ⟨(List.append_nil _).symm, rfl⟩
  | cons byte bytes ih =>
    rw [decodeUtf8, decodeUtf8]
    cases p.next byte with
    | char c =>
      simp only [@ih _ (.char c :: read), @ih _ [.char c]]
      constructor
      · rintro ⟨new, rfl, hnew⟩
        exact ⟨.char c :: new, by simp, new, rfl, hnew⟩
      · rintro ⟨_, rfl, new, rfl, hnew⟩
        exact ⟨new, by simp, hnew⟩
    | more p' =>
      simp only [@ih _ read, @ih (0 + 1) []]
      constructor
      · rintro ⟨new, rfl, hnew⟩
        exact ⟨new, rfl, new, rfl, hnew⟩
      · rintro ⟨_, rfl, new, hsame, hnew⟩
        exact ⟨new, by rw [hsame]; rfl, hnew⟩
    | wrong byte count reason =>
      constructor
      · intro h
        cases h
      · rintro ⟨_, _, h⟩
        cases h

/-- Reading two parts one after the other. -/
theorem decodeUtf8_append_eq_ok_iff {p q : Pending} {a b : List UInt8} {text : Text} :
    decodeUtf8 0 [] p (a ++ b) = .ok (text, q) ↔
      ∃ first m second, decodeUtf8 0 [] p a = .ok (first, m) ∧ decodeUtf8 0 [] m b = .ok (second, q) ∧
        text = first ++ second := by
  rw [decodeUtf8_append]
  cases ha : decodeUtf8 0 [] p a with
  | error e => simp
  | ok r =>
    obtain ⟨first, m⟩ := r
    simp only [@decodeUtf8_eq_ok_iff _ first.reverse, List.reverse_reverse, Except.ok.injEq, Prod.mk.injEq]
    constructor
    · rintro ⟨second, rfl, hsecond⟩
      exact ⟨first, m, second, ⟨rfl, rfl⟩, hsecond, rfl⟩
    · rintro ⟨_, _, second, ⟨rfl, rfl⟩, hsecond, rfl⟩
      exact ⟨second, rfl, hsecond⟩

/-- The bytes of a code point begun, which are all the bytes that `p` stands for. -/
structure Begins (begun : List UInt8) (p : Pending) : Prop where
  length : begun.length = p.length
  decode : decodeUtf8 0 [] .nothing begun = .ok ([], p)

theorem Pending.length_of_next {p q : Pending} {b : UInt8} (h : p.next b = .more q) :
    q.length = p.length + 1 := by
  cases p with
  | nothing =>
    simp only [next, first] at h
    split_ifs at h <;> cases h <;> rfl
  | sequence s =>
    simp only [next, proceed] at h
    split_ifs at h with hbounds howed hsurrogate
    · cases h
      rfl
    · cases h
      simp [length, hsurrogate.2.1]
  | surrogate => cases h

/-- What has been read ends in the bytes begun. -/
theorem exists_begins {bytes : List UInt8} {text : Text} {p : Pending}
    (h : decodeUtf8 0 [] .nothing bytes = .ok (text, p)) :
    ∃ before begun, bytes = before ++ begun ∧ Begins begun p := by
  induction bytes using List.reverseRecOn generalizing text p with
  | nil =>
    cases h
    exact ⟨[], [], rfl, rfl, rfl⟩
  | append_singleton bytes b ih =>
    obtain ⟨first, m, second, hfirst, hsecond, rfl⟩ := decodeUtf8_append_eq_ok_iff.1 h
    obtain ⟨before, begun, rfl, hbegun⟩ := ih hfirst
    rw [decodeUtf8] at hsecond
    cases hnext : m.next b with
    | char c =>
      rw [hnext] at hsecond
      cases hsecond
      exact ⟨before ++ begun ++ [b], [], by simp, rfl, rfl⟩
    | more q =>
      rw [hnext] at hsecond
      cases hsecond
      refine ⟨before, begun ++ [b], by simp, ?_, ?_⟩
      · rw [List.length_append, hbegun.length, Pending.length_of_next hnext, List.length_singleton]
      · rw [decodeUtf8_append_eq_ok_iff]
        exact ⟨[], m, [], hbegun.decode, by rw [decodeUtf8, hnext]; rfl, rfl⟩
    | wrong byte count reason =>
      rw [hnext] at hsecond
      cases hsecond

/-- The bytes carried over are those begun. -/
theorem scanUtf8_of_decode {bytes : List UInt8} {text : Text} {p : Pending}
    (h : decodeUtf8 0 [] .nothing bytes = .ok (text, p)) :
    ∃ begun, scanUtf8 bytes = .ok (text, begun) ∧ Begins begun p := by
  obtain ⟨before, begun, rfl, hbegun⟩ := exists_begins h
  refine ⟨begun, ?_, hbegun⟩
  rw [scanUtf8, h]
  simp [Except.map, ← hbegun.length]

theorem Decoded.behind_eq_iff {before text : Text} {d : Decoded} :
    d.behind before = { text } ↔ ∃ new, text = before ++ new ∧ d = { text := new } := by
  obtain ⟨last, failure⟩ := d
  simp only [behind, Decoded.mk.injEq]
  constructor
  · rintro ⟨rfl, rfl⟩
    exact ⟨last, rfl, rfl, rfl⟩
  · rintro ⟨_, rfl, rfl, rfl⟩
    exact ⟨rfl, rfl⟩

/-- **Parts in UTF-8** are read as a text exactly if they are one together. -/
theorem readParts_utf8 {c : Carried} {p : Pending} (h : Begins c.bytes p) (parts : List (List UInt8))
    (text : Text) :
    utf8.readParts c parts = { text } ↔
      decodeUtf8 0 [] .nothing (c.bytes ++ parts.flatten) = .ok (text, .nothing) := by
  induction parts generalizing c p text with
  | nil =>
    have hfinish : utf8.finish c = { text := [], failure := p.atEnd } := by
      show finishUtf8 c.bytes = _
      rw [finishUtf8, h.decode]
    rw [readParts, hfinish, List.flatten_nil, List.append_nil, h.decode]
    cases p <;> simp [Pending.atEnd, eq_comm]
  | cons part parts ih =>
    rw [readParts, List.flatten_cons, ← List.append_assoc, decodeUtf8_append_eq_ok_iff]
    cases hpart : decodeUtf8 0 [] .nothing (c.bytes ++ part) with
    | error e =>
      have hdecode : utf8.decode c part = .error e := by
        show (scanUtf8 (c.bytes ++ part)).map _ = _
        rw [scanUtf8, hpart]
        rfl
      simp [hdecode]
    | ok r =>
      obtain ⟨first, m⟩ := r
      obtain ⟨begun, hscan, hbegun⟩ := scanUtf8_of_decode hpart
      have hdecode : utf8.decode c part = .ok (first, { bytes := begun }) := by
        show (scanUtf8 (c.bytes ++ part)).map _ = _
        rw [hscan]
        rfl
      rw [hdecode]
      simp only [Decoded.behind_eq_iff, ih (c := { bytes := begun }) hbegun, decodeUtf8_append_eq_ok_iff,
        hbegun.decode, Except.ok.injEq, Prod.mk.injEq]
      constructor
      · rintro ⟨new, rfl, _, _, second, ⟨rfl, rfl⟩, hsecond, rfl⟩
        exact ⟨first, m, _, ⟨rfl, rfl⟩, hsecond, rfl⟩
      · rintro ⟨_, _, second, ⟨rfl, rfl⟩, hsecond, rfl⟩
        exact ⟨second, rfl, [], _, second, ⟨rfl, rfl⟩, hsecond, rfl⟩

/-! ### Encodings that read back what they write -/

/-- A file with the bytes of a text is read as the text again, if the text has bytes. -/
def ReadsBack (e : Encoding) (s : Text) : Prop := ∀ bytes, e.encode s = .ok bytes → e.read bytes = { text := s }

/-- A file gets the bytes of its text, and these are read as the text again. -/
structure Faithful (e : Encoding) : Prop where
  write : ∀ s, e.write s = e.encode s
  read : ∀ s, e.ReadsBack s

theorem encodeBy_eq_ok_iff {bytes? : CodePoint → Option (List UInt8)} {s : Text} {bytes : List UInt8} :
    encodeBy bytes? s = .ok bytes ↔
      (∀ c ∈ s, (bytes? c).isSome = true) ∧ bytes = s.flatMap fun c => (bytes? c).getD [] := by
  unfold encodeBy
  cases hd : s.dropWhile fun c => (bytes? c).isSome with
  | nil =>
    have hall : ∀ c ∈ s, (bytes? c).isSome = true := by simpa using List.dropWhile_eq_nil_iff.1 hd
    refine ⟨fun h => ⟨hall, (Except.ok.inj h).symm⟩, ?_⟩
    rintro ⟨-, rfl⟩
    rfl
  | cons c rest =>
    have hnot : ¬ ∀ c ∈ s, (bytes? c).isSome = true := by
      intro hall
      rw [List.dropWhile_eq_nil_iff.2 (by simpa using hall)] at hd
      cases hd
    simp [hnot]

theorem decodeUtf8_flatMap {s : Text} (h : ∀ c ∈ s, (utf8Bytes? c).isSome = true) (place : Nat) (read : Text) :
    decodeUtf8 place read .nothing (s.flatMap fun c => (utf8Bytes? c).getD []) =
      .ok (read.reverse ++ s, .nothing) := by
  induction s generalizing place read with
  | nil => simp [decodeUtf8]
  | cons c s ih =>
    cases c with
    | char c =>
      rw [List.flatMap_cons, utf8Bytes?, Option.getD_some, decodeUtf8_encodeChar,
        ih fun d hd => h d (List.mem_cons_of_mem _ hd)]
      simp
    | surrogate n => cases h (.surrogate n) List.mem_cons_self

/-- A file in UTF-8 is read as a text exactly if its bytes are. -/
theorem read_utf8_eq_iff {bytes : List UInt8} {text : Text} :
    utf8.read bytes = { text } ↔ decodeUtf8 0 [] .nothing bytes = .ok (text, .nothing) := by
  rw [read, readParts_utf8 ⟨rfl, rfl⟩, flatten_parts]
  rfl

/-- **UTF-8** reads back what it has written. -/
theorem faithful_utf8 : Faithful utf8 where
  write _ := rfl
  read s bytes h := by
    obtain ⟨hall, rfl⟩ := encodeBy_eq_ok_iff.1 (show encodeBy utf8Bytes? s = .ok bytes from h)
    exact read_utf8_eq_iff.2 (decodeUtf8_flatMap hall 0 [])

theorem decodeUtf8_error {place : Nat} {read : Text} {p : Pending} {bytes : List UInt8} {e : DecodeError}
    (h : decodeUtf8 place read p bytes = .error e) : ∃ bad, e = .bytes bad := by
  induction bytes generalizing place read p with
  | nil => cases h
  | cons b bytes ih =>
    rw [decodeUtf8] at h
    split at h
    · exact ih h
    · exact ih h
    · exact ⟨_, (Except.error.inj h).symm⟩

/-- Bytes that are no UTF-8 are told by their place. -/
theorem readParts_utf8_failure {c : Carried} {parts : List (List UInt8)} {e : DecodeError}
    (h : (utf8.readParts c parts).failure = some e) : ∃ bad, e = .bytes bad := by
  induction parts generalizing c with
  | nil =>
    have hfinish : (finishUtf8 c.bytes).failure = some e := h
    unfold finishUtf8 at hfinish
    split at hfinish
    · next p _ =>
      cases p with
      | nothing => cases hfinish
      | sequence s => exact ⟨_, (Option.some.inj hfinish).symm⟩
      | surrogate => exact ⟨_, (Option.some.inj hfinish).symm⟩
    · next hdecode =>
      obtain ⟨bad, rfl⟩ := decodeUtf8_error hdecode
      exact ⟨bad, (Option.some.inj hfinish).symm⟩
  | cons part parts ih =>
    rw [readParts] at h
    split at h
    · next failure hdecode =>
      have hscan : (scanUtf8 (c.bytes ++ part)).map (fun r => (r.1, ({ bytes := r.2 } : Carried))) =
          .error failure := hdecode
      unfold scanUtf8 at hscan
      cases hbytes : decodeUtf8 0 [] .nothing (c.bytes ++ part) with
      | ok r =>
        rw [hbytes] at hscan
        cases hscan
      | error e' =>
        rw [hbytes] at hscan
        cases hscan
        cases h
        exact decodeUtf8_error hbytes
    · exact ih h

theorem text?_eq_some_iff {e : Encoding} {bytes : List UInt8} {text : Text} :
    e.text? bytes = some text ↔ e.readParts {} [bytes] = { text } := by
  unfold text?
  split
  · next h => simp [h]
  · next d hd =>
    refine ⟨nofun, fun h => ?_⟩
    exact absurd h (hd text)

/-- **It does not matter** in which parts a file in UTF-8 is read. -/
theorem read_utf8 {bytes : List UInt8} {text : Text} :
    utf8.read bytes = { text } ↔ utf8.text? bytes = some text := by
  rw [text?_eq_some_iff, readParts_utf8 ⟨rfl, rfl⟩, read_utf8_eq_iff]
  simp

/-! ### One byte for each code point -/

theorem encodeBytes_eq_ok_iff {name : Text} {limit : Nat} {s : Text} {bytes : List UInt8} :
    encodeBytes name limit s = .ok bytes ↔
      (∀ c ∈ s, c.toNat < limit) ∧ bytes = s.map fun c => UInt8.ofNat c.toNat := by
  unfold encodeBytes
  cases hd : s.dropWhile (·.toNat < limit) with
  | nil =>
    have hall : ∀ c ∈ s, c.toNat < limit := by simpa using List.dropWhile_eq_nil_iff.1 hd
    refine ⟨fun h => ⟨hall, (Except.ok.inj h).symm⟩, ?_⟩
    rintro ⟨-, rfl⟩
    rfl
  | cons c rest =>
    have hnot : ¬ ∀ c ∈ s, c.toNat < limit := by
      intro hall
      rw [List.dropWhile_eq_nil_iff.2 (by simpa using hall)] at hd
      cases hd
    simp [hnot]

theorem decodeBytes_of_lt {name : Text} {limit : Nat} {bytes : List UInt8} (h : ∀ b ∈ bytes, b.toNat < limit) :
    decodeBytes name limit bytes = .ok (bytes.map fun b => .ofNat b.toNat) := by
  rw [decodeBytes, List.dropWhile_eq_nil_iff.2 (by simpa using h)]

theorem readParts_singleByte {name : Text} {limit : Nat} {parts : List (List UInt8)}
    (h : ∀ b ∈ parts.flatten, b.toNat < limit) (c : Carried) :
    (singleByte name limit).readParts c parts = { text := parts.flatten.map fun b => .ofNat b.toNat } := by
  induction parts generalizing c with
  | nil => rfl
  | cons part parts ih =>
    rw [List.flatten_cons, List.forall_mem_append] at h
    have hpart : (singleByte name limit).decode c part = .ok (part.map fun b => .ofNat b.toNat, {}) := by
      show (decodeBytes name limit part).map _ = _
      rw [decodeBytes_of_lt h.1]
      rfl
    rw [readParts, hpart]
    simp only
    rw [ih h.2, List.flatten_cons, List.map_append]
    rfl

/-- **One byte for each code point** is read back. -/
theorem faithful_singleByte {name : Text} {limit : Nat} (hlimit : limit ≤ 256) :
    Faithful (singleByte name limit) where
  write _ := rfl
  read s bytes h := by
    obtain ⟨hall, rfl⟩ := encodeBytes_eq_ok_iff.1 (show encodeBytes name limit s = .ok bytes from h)
    have hnumber : ∀ c ∈ s, (UInt8.ofNat c.toNat).toNat = c.toNat := fun c hc =>
      toNat_ofNat_of_lt (Nat.lt_of_lt_of_le (hall c hc) hlimit)
    have hbytes : ∀ b ∈ s.map (fun c => UInt8.ofNat c.toNat), b.toNat < limit := by
      intro b hb
      obtain ⟨c, hc, rfl⟩ := List.mem_map.1 hb
      rw [hnumber c hc]
      exact hall c hc
    have hback : (s.map fun c => UInt8.ofNat c.toNat).map (fun b => CodePoint.ofNat b.toNat) = s := by
      rw [List.map_map]
      refine (List.map_congr_left fun c hc => ?_).trans (List.map_id s)
      rw [Function.comp_apply, hnumber c hc, CodePoint.ofNat_toNat]
      rfl
    rw [Encoding.read, readParts_singleByte (by rwa [flatten_parts]), flatten_parts, hback]

/-- The encodings that read back every text. -/
theorem faithful_of_mem {e : Encoding} (h : e ∈ [utf8, ascii, latin1]) : Faithful e := by
  simp only [List.mem_cons, List.not_mem_nil, or_false] at h
  obtain rfl | rfl | rfl := h
  · exact faithful_utf8
  · exact faithful_singleByte (by decide)
  · exact faithful_singleByte (by decide)

/-! ### Files -/

/-- The lines of a file that is read as a text are those of the text. -/
theorem fileLines_of_read {e : Encoding} {bytes : List UInt8} {text : Text} (h : e.read bytes = { text }) :
    e.fileLines bytes = { lines := Text.lines .ofFile text } := by
  rw [fileLines, h]
  rfl

end TableStructs.Encoding
