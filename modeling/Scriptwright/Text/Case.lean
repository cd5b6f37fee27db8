import Scriptwright.Text.Basic
import Scriptwright.Text.Ranges
import Scriptwright.Text.Case.Tables
/-!
# Upper and lower case

Full case mapping: a character may map to several, and the capital sigma becomes the final small sigma when it ends a
word, that is when a letter with case stands before it and none after it, accents and points being passed over.
-/
namespace Scriptwright
namespace Text

/-- The image of `n` under the runs `(first, last, step, image)`, in increasing order. -/
def runImage : List (Nat × Nat × Nat × Nat) → Nat → Nat
  | [], n => n
  | (first, last, step, image) :: rest, n =>
    if n < first then n
    else if n ≤ last then (if (n - first) % step = 0 then image + (n - first) else n)
    else runImage rest n

/-- The image of a code point from U+0080 on. -/
def caseImage (many : List (Nat × List Nat)) (runs : List (Nat × Nat × Nat × Nat)) (c : Char) : Text :=
  match many.find? (·.1 == c.toNat) with
  | some (_, image) => image.map Char.ofNat
  | none => [Char.ofNat (runImage runs c.toNat)]

def upperChar (c : Char) : Text :=
  if c.toNat < 0x80 then [c.toUpper] else caseImage upperMany upperRuns c

def upper (t : Text) : Text := t.flatMap upperChar

/-- A letter with case that is not passed over. -/
def isCased (c : Char) : Bool := if c.toNat < 0x80 then c.isAlpha else covers casedRanges c.toNat

/-- Passed over when looking for the letters around a sigma. -/
def isSkipped (c : Char) : Bool :=
  if c.toNat < 0x80 then c == '\'' || c == '.' || c == ':' || c == '^' || c == '\x60' else covers skippedRanges c.toNat

/-- The nearest character that is not passed over is a letter with case. -/
def nearCased : Text → Bool
  | [] => false
  | c :: cs => if isSkipped c then nearCased cs else isCased c

def lowerChar (c : Char) : Text :=
  if c.toNat < 0x80 then [c.toLower] else caseImage lowerMany lowerRuns c

/-- Lower case of `t`, where `before` is what stands before it, last character first. -/
def lowerAfter : Text → Text → Text
  | _, [] => []
  | before, c :: cs =>
    (if c.toNat = 0x03A3 && nearCased before && !nearCased cs then [Char.ofNat 0x03C2] else lowerChar c)
      ++ lowerAfter (c :: before) cs

def lower (t : Text) : Text := lowerAfter [] t

end Text
end Scriptwright
