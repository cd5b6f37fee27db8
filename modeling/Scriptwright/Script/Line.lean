import Scriptwright.Text.Blank
import Scriptwright.Text.Newline
/-!
# Lines of a script

A script is a list of physical lines, numbered from 1.  Byte order marks at its front are dropped, each of the three line
ends counts, and the end of the last line begins no further line.  Rules look at a line without the blanks around it;
blank lines and comments are handed on as they are.
-/
namespace Scriptwright

/-- A line of a script and its number. -/
structure Line where
  number : Int
  raw : Text
  deriving DecidableEq, Repr

namespace Line

/-- The line without the blanks around it. -/
def text (l : Line) : Text := Text.trim l.raw

/-- Neither blank nor a comment. -/
def isCode (l : Line) : Bool :=
  match l.text with
  | [] => false
  | c :: _ => c != '#'

end Line

namespace Script

/-- The pieces of a text that end in a line feed, and the last piece if there is anything in it. -/
def closedLines (t : Text) : List Text :=
  let ps := Text.splitLines t
  if ps.getLast? = some [] then ps.dropLast else ps

/-- The physical lines of a script. -/
def physicalLines (t : Text) : List Text := closedLines (Text.unifyNewlines (Text.dropMarks t))

/-- Lines numbered from `n` on. -/
def numberFrom (n : Int) : List Text → List Line
  | [] => []
  | r :: rs => ⟨n, r⟩ :: numberFrom (n + 1) rs

/-- The text of a script as it was given; if none was, there is nothing in it. -/
def textOf (given : Option Text) : Text := given.getD []

/-- The numbered lines of a script. -/
def lines (t : Text) : List Line := numberFrom 1 (physicalLines t)

theorem numberFrom_raw (n : Int) (rs : List Text) : (numberFrom n rs).map (·.raw) = rs := by
  induction rs generalizing n with
  | nil => rfl
  | cons r rs ih => simp [numberFrom, ih]

theorem numberFrom_length (n : Int) (rs : List Text) : (numberFrom n rs).length = rs.length := by
  induction rs generalizing n with
  | nil => rfl
  | cons r rs ih => simp [numberFrom, ih]

theorem numberFrom_append (n : Int) (rs ss : List Text) :
    numberFrom n (rs ++ ss) = numberFrom n rs ++ numberFrom (n + rs.length) ss := by
  induction rs generalizing n with
  | nil => simp [numberFrom]
  | cons r rs ih =>
    simp only [List.cons_append, numberFrom, ih, List.length_cons]
    congr 3
    omega

end Script
end Scriptwright
