import Scriptwright.Proofs.Numeral
import Scriptwright.Text.Utf8
/-!
# UTF-8 read back

A character is written as one byte, or as a leading byte and the groups of six bits that are left over, from the highest
down (`tails`).  The leading byte leaves the reader in a state that waits for just these groups: `Awaits` says what such a
state knows of the character, and reading the groups one by one ends with the character (`decodeFrom_tails`).  So
whatever is written is read back (`decode_encode`).

As a text file it comes back without one mark in front and with its line ends unified (`readMarkedText_encode`).
-/
namespace Scriptwright

/-- The text without one mark in front. -/
def Text.dropMark (t : Text) : Text := if t.head? = some mark then t.tail else t

namespace Utf8

open Text (mark unifyNewlines dropMark)

/-! ## Groups of bits -/

/-- The number without its last `k` groups of six bits. -/
def upper : Nat → Nat → Nat
  | 0, n => n
  | k + 1, n => upper k n / 64

/-- The last `k` groups, each as a continuation byte. -/
def tails : Nat → Nat → List UInt8
  | 0, _ => []
  | k + 1, n => (0x80 + upper k n % 64).toUInt8 :: tails k n

/-- The reader has taken all but the last `k + 1` groups of the number, and its bounds let the next one in. -/
structure Awaits (p : Pending) (k n : Nat) : Prop where
  owed : p.owed = k + 1
  value : p.value = upper (k + 1) n
  least : p.least ≤ 0x80 + upper k n % 64
  greatest : 0x80 + upper k n % 64 ≤ p.greatest

theorem toNat_toUInt8 {m : Nat} (h : m < 256) : m.toUInt8.toNat = m := by
  show (UInt8.ofNat m).toNat = m
  rw [UInt8.toNat_ofNat', Nat.mod_eq_of_lt h]

theorem toNat_tail (m : Nat) : (0x80 + m % 64).toUInt8.toNat = 0x80 + m % 64 := toNat_toUInt8 (by omega)

theorem upper_succ_mul_add (k n : Nat) : upper (k + 1) n * 64 + upper k n % 64 = upper k n := by
  rw [upper]
  omega

variable {p : Pending} {k n : Nat}

theorem Awaits.accepts (h : Awaits p k n) : p.accepts (0x80 + upper k n % 64).toUInt8 = true := by
  simp only [Pending.accepts, toNat_tail, Bool.and_eq_true, decide_eq_true_eq]
  exact ⟨h.least, h.greatest⟩

theorem Awaits.extend_last (h : Awaits p 0 n) : p.extend (0x80 + upper 0 n % 64).toUInt8 = .char (Char.ofNat n) := by
  have howed := h.owed
  rw [Pending.extend, if_pos (by omega), toNat_tail, h.value, Nat.add_sub_cancel_left, upper_succ_mul_add, upper]

theorem Awaits.extend (h : Awaits p (k + 1) n) :
    ∃ q, p.extend (0x80 + upper (k + 1) n % 64).toUInt8 = .pending q ∧ Awaits q k n := by
  have howed := h.owed
  refine ⟨_, by rw [Pending.extend, if_neg (by omega)], ⟨?_, ?_, ?_, ?_⟩⟩
  · show p.owed - 1 = k + 1
    omega
  · show p.value * 64 + ((0x80 + upper (k + 1) n % 64).toUInt8.toNat - 0x80) = upper (k + 1) n
    rw [toNat_tail, h.value, Nat.add_sub_cancel_left, upper_succ_mul_add]
  · show 0x80 ≤ 0x80 + upper k n % 64
    omega
  · show 0x80 + upper k n % 64 ≤ 0xBF
    omega

/-- **A reader that waits for the groups of a character reads the character.** -/
theorem decodeFrom_tails (c : Char) (bs : List UInt8) : ∀ (k : Nat) (p : Pending) (pos : Nat), Awaits p k c.toNat →
    decodeFrom (some p) pos (tails (k + 1) c.toNat ++ bs) = (decodeFrom none (pos + (k + 1)) bs).map (c :: ·)
  | 0, p, pos, h => by
    rw [tails, List.cons_append, decodeFrom, if_pos h.accepts, h.extend_last, Char.ofNat_toNat]
    rfl
  | k + 1, p, pos, h => by
    obtain ⟨q, hq, hawaits⟩ := h.extend
    rw [tails, List.cons_append, decodeFrom, if_pos h.accepts, hq]
    simp only
    rw [decodeFrom_tails c bs k q (pos + 1) hawaits, Nat.add_assoc, Nat.add_comm 1]

/-! ## Leading bytes -/

theorem length_tails : ∀ k n : Nat, (tails k n).length = k
  | 0, _ => rfl
  | k + 1, n => by rw [tails, List.length_cons, length_tails k n]

/-- The leading byte opens a wait for the groups behind it. -/
def Opens (lead : UInt8) (k n : Nat) : Prop := ∃ p, start lead = .pending p ∧ Awaits p k n

theorem opens_two {n : Nat} (hlow : 0x80 ≤ n) (hhigh : n < 0x800) : Opens (0xC0 + n / 64).toUInt8 0 n := by
  have hlead : (0xC0 + n / 64).toUInt8.toNat = 0xC0 + n / 64 := toNat_toUInt8 (by omega)
  refine ⟨_, by rw [start]; simp only [hlead]; rw [if_neg (by omega), if_neg (by omega), if_pos (by omega)], ⟨rfl, ?_, ?_, ?_⟩⟩
  all_goals simp only [upper]; omega

/-- The second byte of three is bounded from below where the form would be too long, and from above where the code point
would be a surrogate. -/
theorem opens_three {n : Nat} (hlow : 0x800 ≤ n) (hhigh : n < 0x10000) (hvalid : n < 0xD800 ∨ 0xDFFF < n) :
    Opens (0xE0 + n / 4096).toUInt8 1 n := by
  have hlead : (0xE0 + n / 4096).toUInt8.toNat = 0xE0 + n / 4096 := toNat_toUInt8 (by omega)
  unfold Opens
  rw [start]
  simp only [hlead]
  rw [if_neg (by omega), if_neg (by omega), if_neg (by omega)]
  by_cases hfirst : n / 4096 = 0
  · refine ⟨_, by rw [if_pos (by omega)], ⟨rfl, ?_, ?_, ?_⟩⟩
    all_goals simp only [upper]; omega
  rw [if_neg (by omega)]
  by_cases hsurrogate : n / 4096 = 13
  · refine ⟨_, by rw [if_pos (by omega)], ⟨rfl, ?_, ?_, ?_⟩⟩
    all_goals simp only [upper]; omega
  refine ⟨_, by rw [if_neg (by omega), if_pos (by omega)], ⟨rfl, ?_, ?_, ?_⟩⟩
  all_goals simp only [upper]; omega

theorem opens_four {n : Nat} (hlow : 0x10000 ≤ n) (hhigh : n < 0x110000) : Opens (0xF0 + n / 262144).toUInt8 2 n := by
  have hlead : (0xF0 + n / 262144).toUInt8.toNat = 0xF0 + n / 262144 := toNat_toUInt8 (by omega)
  unfold Opens
  rw [start]
  simp only [hlead]
  rw [if_neg (by omega), if_neg (by omega), if_neg (by omega), if_neg (by omega), if_neg (by omega), if_neg (by omega)]
  by_cases hfirst : n / 262144 = 0
  · refine ⟨_, by rw [if_pos (by omega)], ⟨rfl, ?_, ?_, ?_⟩⟩
    all_goals simp only [upper]; omega
  rw [if_neg (by omega)]
  by_cases hlast : n / 262144 = 4
  · refine ⟨_, by rw [if_neg (by omega), if_pos (by omega)], ⟨rfl, ?_, ?_, ?_⟩⟩
    all_goals simp only [upper]; omega
  refine ⟨_, by rw [if_pos (by omega)], ⟨rfl, ?_, ?_, ?_⟩⟩
  all_goals simp only [upper]; omega

theorem encodeChar_cases (c : Char) :
    (c.toNat < 0x80 ∧ encodeChar c = [c.toNat.toUInt8]) ∨
      ∃ lead k, encodeChar c = lead :: tails (k + 1) c.toNat ∧ Opens lead k c.toNat := by
  have hvalid := Text.toNat_valid c
  have htwo : c.toNat / 64 / 64 = c.toNat / 4096 := Nat.div_div_eq_div_mul _ _ _
  unfold encodeChar
  simp only
  by_cases h1 : c.toNat < 0x80
  · exact .inl ⟨h1, if_pos h1⟩
  rw [if_neg h1]
  right
  by_cases h2 : c.toNat < 0x800
  · exact ⟨_, 0, by rw [if_pos h2]; rfl, opens_two (by omega) h2⟩
  rw [if_neg h2]
  by_cases h3 : c.toNat < 0x10000
  · exact ⟨_, 1, by rw [if_pos h3]; rfl, opens_three (by omega) h3 (by omega)⟩
  · refine ⟨_, 2, ?_, opens_four (by omega) (by omega)⟩
    rw [if_neg h3]
    simp only [tails, upper, htwo]

/-! ## Texts -/

theorem decodeFrom_encodeChar (c : Char) (pos : Nat) (bs : List UInt8) :
    decodeFrom none pos (encodeChar c ++ bs) = (decodeFrom none (pos + (encodeChar c).length) bs).map (c :: ·) := by
  rcases encodeChar_cases c with ⟨hlow, hbytes⟩ | ⟨lead, k, hbytes, p, hstart, hawaits⟩
  · have hstart : start c.toNat.toUInt8 = .char c := by
      rw [start]
      simp only [toNat_toUInt8 (show c.toNat < 256 by omega), if_pos hlow, Char.ofNat_toNat]
    rw [hbytes, List.singleton_append, decodeFrom, hstart]
    rfl
  · rw [hbytes, List.cons_append, decodeFrom, hstart]
    simp only
    rw [decodeFrom_tails c bs k p (pos + 1) hawaits, List.length_cons, length_tails, Nat.add_assoc, Nat.add_comm 1]

theorem decodeFrom_encode : ∀ (t : Text) (pos : Nat), decodeFrom none pos (encode t) = .ok t
  | [], _ => rfl
  | c :: t, pos => by
    rw [encode, List.flatMap_cons, decodeFrom_encodeChar, ← encode, decodeFrom_encode t]
    rfl

/-- **What is written is read back.** -/
theorem decode_encode (t : Text) : decode (encode t) = .ok t := decodeFrom_encode t 0

/-! ## Text files -/

theorem encode_mark (t : Text) : encode (mark :: t) = markBytes ++ encode t := by
  have hmark : encodeChar mark = markBytes := by decide
  rw [encode, List.flatMap_cons, hmark, ← encode]

/-- A text that begins with no mark is not written as if it did, nor does it break off within one. -/
theorem not_mark_of_head? {t : Text} (h : t.head? ≠ some mark) :
    ¬ markBytes <+: encode t ∧ ∀ k, k < 3 → encode t = markBytes.take k → t = [] := by
  have hdecode := decode_encode t
  constructor
  · rintro ⟨bs, hbs⟩
    have hmark : decode (markBytes ++ bs) = _ := decodeFrom_encodeChar mark 0 bs
    rw [hbs, hdecode] at hmark
    cases hrest : decodeFrom none (0 + (encodeChar mark).length) bs with
    | error f =>
      rw [hrest] at hmark
      cases hmark
    | ok t' =>
      rw [hrest] at hmark
      exact h (by rw [Except.ok.inj hmark]; rfl)
  · intro k hk htake
    rw [htake] at hdecode
    match k, hk with
    | 0, _ => exact (Except.ok.inj hdecode).symm
    | 1, _ => cases hdecode
    | 2, _ => cases hdecode

/-- **A written text is read as a file without one mark in front, its line ends unified.** -/
theorem readMarkedText_encode (t : Text) : readMarkedText (encode t) = .ok (unifyNewlines (dropMark t)) := by
  unfold dropMark
  by_cases h : t.head? = some mark
  · obtain ⟨t', rfl⟩ := List.head?_eq_some_iff.1 h
    have hprefix : markBytes.isPrefixOf (encode (mark :: t')) = true :=
      List.isPrefixOf_iff_prefix.2 ⟨encode t', (encode_mark t').symm⟩
    rw [if_pos h, readMarkedText, if_pos hprefix, encode_mark]
    show (decode (encode t')).map unifyNewlines = _
    rw [decode_encode]
    rfl
  · obtain ⟨hmark, hbroken⟩ := not_mark_of_head? h
    rw [if_neg h, readMarkedText, if_neg (mt List.isPrefixOf_iff_prefix.1 hmark)]
    split
    · rename_i hshort
      simp only [Bool.and_eq_true, decide_eq_true_eq, List.isPrefixOf_iff_prefix] at hshort
      have ht := hbroken _ hshort.1 (List.prefix_iff_eq_take.1 hshort.2)
      rw [ht]
      rfl
    · rw [readText, decode_encode]
      rfl

end Utf8
end Scriptwright
