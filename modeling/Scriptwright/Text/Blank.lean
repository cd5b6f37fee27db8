import Scriptwright.Text.Basic
import Scriptwright.Text.Ranges
/-!
# Blank characters

Blank are the characters that separate words: tab, line feed, vertical tab, form feed, carriage return, the four
information separators, space, next line, and the space, line and paragraph separators of Unicode.  The zero width space
U+200B and the byte order mark U+FEFF are not blank.  Trimming a text drops the blanks at its ends and no others.
-/
namespace Scriptwright
namespace Text

def blankRanges : List (Nat × Nat) :=
  [(0x0009, 0x000D), (0x001C, 0x0020), (0x0085, 0x0085), (0x00A0, 0x00A0), (0x1680, 0x1680), (0x2000, 0x200A),
   (0x2028, 0x2029), (0x202F, 0x202F), (0x205F, 0x205F), (0x3000, 0x3000)]

def isBlank (c : Char) : Bool := covers blankRanges c.toNat

def trimLeft (t : Text) : Text := t.dropWhile isBlank

def trimRight (t : Text) : Text := (t.reverse.dropWhile isBlank).reverse

def trim (t : Text) : Text := trimRight (trimLeft t)

/-- Every character is blank. -/
def allBlank (t : Text) : Bool := t.all isBlank

/-- The text begins with a blank. -/
def startsBlank : Text → Bool
  | [] => false
  | c :: _ => isBlank c

theorem trimLeft_of_not_startsBlank {t : Text} (h : startsBlank t = false) : trimLeft t = t := by
  cases t with
  | nil => rfl
  | cons c cs =>
    have hc : isBlank c = false := h
    simp [trimLeft, hc]

theorem trimLeft_eq_nil_iff (t : Text) : trimLeft t = [] ↔ allBlank t = true := by
  induction t with
  | nil => simp [trimLeft, allBlank]
  | cons c cs ih =>
    by_cases hc : isBlank c = true
    · rw [trimLeft, List.dropWhile_cons_of_pos hc, allBlank, List.all_cons, hc, Bool.true_and]
      exact ih
    · simp [trimLeft, allBlank, hc]

end Text
end Scriptwright
