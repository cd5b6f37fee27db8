import Scriptwright.Text.Basic
import Scriptwright.Text.Ranges
import Scriptwright.Text.Word.Table
/-!
# Word characters and runs

A word character is a letter, a character with a numeric value or the underscore.  Commands and comparison operators are
found as whole tokens, and there the hyphen belongs to the word: `isTokenChar` is the class that may stand on neither
side of one.
-/
namespace Scriptwright
namespace Text

/-- A letter, a numeric character or the underscore. -/
def isWord (c : Char) : Bool :=
  if c.toNat < 0x80 then c.isAlphanum || c == '_' else covers wordRanges c.toNat

/-- A word character or the hyphen. -/
def isTokenChar (c : Char) : Bool := isWord c || c == '-'

/-- An ASCII letter or the underscore: what a name begins with. -/
def isNameStart (c : Char) : Bool := c.isAlpha || c == '_'

/-- The text begins with a token character. -/
def startsToken : Text → Bool
  | [] => false
  | c :: _ => isTokenChar c

theorem isWord_of_isNameStart {c : Char} (h : isNameStart c = true) : isWord c = true := by
  have hc : c.toNat < 0x80 := by
    delta isNameStart Char.isAlpha Char.isUpper Char.isLower at h
    simp only [Bool.or_eq_true, Bool.and_eq_true, decide_eq_true_eq, beq_iff_eq, ge_iff_le,
      UInt32.le_iff_toNat_le] at h
    have e : c.toNat = c.val.toNat := rfl
    rcases h with (h | h) | h
    · have := h.2; simp at this; omega
    · have := h.2; simp at this; omega
    · subst h; decide
  simp only [isNameStart, Bool.or_eq_true] at h
  rw [isWord, if_pos hc]
  rcases h with h | h
  · simp [Char.isAlphanum, h]
  · simp [h]

end Text
end Scriptwright
