/-!
# Ranges of code points

A character class of the Unicode standard is kept as its inclusive ranges in increasing order.  Looking a code point up
stops at the first range that begins above it, so membership is decided by one pass.
-/
namespace Scriptwright
namespace Text

/-- Whether one of the ranges, in increasing order, holds `n`. -/
def covers : List (Nat × Nat) → Nat → Bool
  | [], _ => false
  | (lo, hi) :: rest, n => if n < lo then false else if n ≤ hi then true else covers rest n

theorem exists_of_covers {rs : List (Nat × Nat)} {n : Nat} (h : covers rs n = true) :
    ∃ r ∈ rs, r.1 ≤ n ∧ n ≤ r.2 := by
  induction rs with
  | nil => simp [covers] at h
  | cons r rest ih =>
    obtain ⟨lo, hi⟩ := r
    rw [covers] at h
    by_cases hlo : n < lo
    · simp [hlo] at h
    · by_cases hhi : n ≤ hi
      · exact ⟨(lo, hi), by simp, by simpa using hlo, hhi⟩
      · rw [if_neg hlo, if_neg hhi] at h
        obtain ⟨r, hr, hn⟩ := ih h
        exact ⟨r, by simp [hr], hn⟩

end Text
end Scriptwright
