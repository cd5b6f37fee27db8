/-!
# Texts

A text is the list of its characters.  Everything the library reads and writes is a text until it meets a terminal or a
disk, so that each recogniser is a recursion on a list and each statement about one is an induction on the same list.

Here: cutting a text at its line feeds and joining it again, the first occurrence of a separator, and numerals.
-/
namespace Scriptwright

/-- A text: its characters in order. -/
abbrev Text := List Char

namespace Text

/-- The pieces between the occurrences of `c`, one more than there are occurrences. -/
def pieces (c : Char) : Text → List Text
  | [] => [[]]
  | x :: xs =>
    if x = c then [] :: pieces c xs
    else
      match pieces c xs with
      | [] => [[x]]
      | p :: ps => (x :: p) :: ps

/-- The pieces between line feeds. -/
def splitLines (t : Text) : List Text := pieces '\n' t

/-- The lines with a line feed between each two of them. -/
def joinLines (ls : List Text) : Text := List.intercalate ['\n'] ls

/-- What stands before and after the first occurrence of `sep`. -/
def cut? (sep : Text) : Text → Option (Text × Text)
  | [] => if sep.isEmpty then some ([], []) else none
  | c :: cs =>
    if sep.isPrefixOf (c :: cs) then some ([], (c :: cs).drop sep.length)
    else (cut? sep cs).map fun p => (c :: p.1, p.2)

def startsWith (t p : Text) : Bool := p.isPrefixOf t

def endsWith (t p : Text) : Bool := p.isSuffixOf t

/-- The decimal numeral of a natural number. -/
def ofNat (n : Nat) : Text := Nat.toDigits 10 n

/-- The decimal numeral of an integer, with a sign only below zero. -/
def ofInt : Int → Text
  | .ofNat n => ofNat n
  | .negSucc n => '-' :: ofNat (n + 1)

/-- `s` as a text. -/
def ofString (s : String) : Text := s.toList

theorem pieces_ne_nil (c : Char) (t : Text) : pieces c t ≠ [] := by
  cases t with
  | nil => simp [pieces]
  | cons x xs =>
    rw [pieces]
    split
    · simp
    · split <;> simp

end Text
end Scriptwright
