import Mathlib.Algebra.Group.Nat.Defs
import Scriptwright.Text.Digit
import Scriptwright.Value.Display
/-!
# Numerals read back

A numeral is a row of digits, and what is written for a number is a row whose value is that number: `numeral_toDigits`
for a numeral of its own length, `numeral_hexLower` for one filled up with zeros.  Every reader of numerals goes through
the digits one by one, so all of them are settled by what each makes of a single digit (`hexDigit?_digitChar`,
`hexDigit?_toUpper_digitChar`).
-/
namespace Scriptwright
namespace Text

/-- `ds` are the digits of `n`, the highest first; zeros may stand in front. -/
structure Numeral (base n : Nat) (ds : List Nat) : Prop where
  below : ∀ d ∈ ds, d < base
  value : valueOf base ds = n

theorem valueOf_append_digit (base : Nat) (ds : List Nat) (d : Nat) :
    valueOf base (ds ++ [d]) = valueOf base ds * base + d := by
  simp [valueOf]

theorem valueOf_zero_cons (base : Nat) (ds : List Nat) : valueOf base (0 :: ds) = valueOf base ds := by
  simp [valueOf]

theorem Numeral.zero_cons {base n : Nat} {ds : List Nat} (hbase : 0 < base) (h : Numeral base n ds) :
    Numeral base n (0 :: ds) :=
  ⟨List.forall_mem_cons.2 ⟨hbase, h.below⟩, by rw [valueOf_zero_cons, h.value]⟩

/-- **What is written for a number has its value**, and no zero stands in front. -/
theorem numeral_toDigits {base : Nat} (hbase : 1 < base) (n : Nat) :
    ∃ d ds, Nat.toDigits base n = (d :: ds).map Nat.digitChar ∧ Numeral base n (d :: ds) ∧ (d = 0 → ds = []) := by
  induction n using Nat.strongRecOn with
  | _ n ih =>
    by_cases hn : n < base
    · exact ⟨n, [], Nat.toDigits_of_lt_base hn, ⟨by simpa using hn, by simp [valueOf]⟩, fun _ => rfl⟩
    · have hle : base ≤ n := Nat.le_of_not_lt hn
      obtain ⟨d, ds, hds, hnum, hzero⟩ := ih (n / base) (Nat.div_lt_self (by omega) hbase)
      refine ⟨d, ds ++ [n % base], ?_, ⟨?_, ?_⟩, ?_⟩
      · rw [Nat.toDigits_of_base_le hbase hle, hds]
        simp
      · intro x hx
        rw [← List.cons_append, List.mem_append, List.mem_singleton] at hx
        rcases hx with hx | rfl
        · exact hnum.below x hx
        · exact Nat.mod_lt n (by omega)
      · rw [← List.cons_append, valueOf_append_digit, hnum.value]
        exact Nat.div_add_mod' n base
      · -- a zero in front would be the numeral of zero, and `n` is not below the base
        rintro rfl
        have hvalue := hnum.value
        rw [hzero rfl, valueOf_zero_cons] at hvalue
        have : 0 < n / base := Nat.div_pos hle (by omega)
        exact absurd hvalue (Nat.ne_of_lt this)

/-- **A number that fits a width is written in it.** -/
theorem numeral_hexLower {width n : Nat} (hwidth : 0 < width) (hn : n < 16 ^ width) :
    ∃ ds, hexLower width n = ds.map Nat.digitChar ∧ Numeral 16 n ds ∧ ds.length = width := by
  obtain ⟨d, ds, hds, hnum, -⟩ := numeral_toDigits (by decide : 1 < 16) n
  have hlen : (Nat.toDigits 16 n).length ≤ width := (Nat.length_toDigits_le_iff (by decide) hwidth).2 hn
  have hfilled : ∀ k, Numeral 16 n (List.replicate k 0 ++ (d :: ds)) := by
    intro k
    induction k with
    | zero => exact hnum
    | succ k ih => exact ih.zero_cons (by decide)
  refine ⟨List.replicate (width - (Nat.toDigits 16 n).length) 0 ++ (d :: ds), ?_, hfilled _, ?_⟩
  · rw [hexLower, List.map_append, List.map_replicate, ← hds]
    rfl
  · have : (Nat.toDigits 16 n).length = (d :: ds).length := by rw [hds, List.length_map]
    rw [List.length_append, List.length_replicate]
    omega

/-! ## Codes and digits -/

theorem toNat_valid (c : Char) : c.toNat < 0xD800 ∨ (0xDFFF < c.toNat ∧ c.toNat < 0x110000) := c.valid

theorem isDigit_of_mem_ofNat {n : Nat} {c : Char} (h : c ∈ ofNat n) : c.isDigit = true :=
  Nat.isDigit_of_mem_toDigits (by decide) (by decide) h

theorem exists_ofNat (n : Nat) : ∃ c rest, ofNat n = c :: rest ∧ c.isDigit = true := by
  have hne : ofNat n ≠ [] := Nat.toDigits_ne_nil
  obtain ⟨c, rest, htext⟩ := List.exists_cons_of_ne_nil hne
  exact ⟨c, rest, htext, isDigit_of_mem_ofNat (htext ▸ List.mem_cons_self)⟩

theorem hexDigit?_digitChar : ∀ d < 16, hexDigit? (Nat.digitChar d) = some d := by decide

theorem hexDigit?_toUpper_digitChar : ∀ d < 16, hexDigit? (Nat.digitChar d).toUpper = some d := by decide

theorem Numeral.filterMap_hexDigit? {base n : Nat} {ds : List Nat} (h : Numeral base n ds) (hbase : base ≤ 16) :
    (ds.map Nat.digitChar).filterMap hexDigit? = ds := by
  obtain ⟨hbelow, -⟩ := h
  induction ds with
  | nil => rfl
  | cons d ds ih =>
    obtain ⟨hd, hds⟩ := List.forall_mem_cons.1 hbelow
    rw [List.map_cons, List.filterMap_cons, hexDigit?_digitChar d (Nat.lt_of_lt_of_le hd hbase), ih hds]

theorem Numeral.mapM_hexDigit? {n : Nat} {ds : List Nat} (h : Numeral 16 n ds) :
    (ds.map fun d => (Nat.digitChar d).toUpper).mapM hexDigit? = some ds := by
  obtain ⟨hbelow, -⟩ := h
  induction ds with
  | nil => rfl
  | cons d ds ih =>
    obtain ⟨hd, hds⟩ := List.forall_mem_cons.1 hbelow
    rw [List.map_cons, List.mapM_cons, hexDigit?_toUpper_digitChar d hd, ih hds]
    rfl

end Text

/-- A limit on digits is one on the size of the number. -/
theorem Value.fitsDigits_iff {limit : Nat} {n : Int} : fitsDigits limit n = true ↔ limit = 0 ∨ n.natAbs < 10 ^ limit := by
  rw [fitsDigits, Bool.or_eq_true, decide_eq_true_iff, decide_eq_true_iff]
  by_cases h : limit = 0
  · simp [h]
  · rw [Text.ofNat, Nat.length_toDigits_le_iff (by decide) (Nat.pos_of_ne_zero h)]

end Scriptwright
