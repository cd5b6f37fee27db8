import Scriptwright.Text.Blank
import Scriptwright.Text.Word
/-!
# Assignments

A line is an assignment when an assignable target stands before its first assignment sign.  The sign is an equals sign
that is no part of a comparison: none of `=`, `!`, `<` and `>` stands before it and no `=` after it.  A target is a name,
after an optional declaring word and an optional sigil, with an optional subscript in brackets or braces.
-/
namespace Scriptwright
namespace Assignment

open Text (isBlank isWord isNameStart)

/-- The characters that make the equals sign after them part of a comparison. -/
def isComparisonStart (c : Char) : Bool := c == '=' || c == '!' || c == '<' || c == '>'

/-- What stands before and after the first assignment sign, where `blocked` tells that the character before the text would
make a comparison of its first equals sign. -/
def splitFrom : Bool → Text → Option (Text × Text)
  | _, [] => none
  | blocked, c :: rest =>
    if c = '=' && !blocked && !Text.startsWith rest ['='] then some ([], rest)
    else (splitFrom (isComparisonStart c) rest).map fun p => (c :: p.1, p.2)

/-- The words that may declare a name. -/
def declarators : List Text :=
  ["export", "local", "readonly", "declare", "typeset", "my", "our"].map String.toList

/-- What follows a declaring word and the blanks after it. -/
def afterDeclarator? (t : Text) : Option Text :=
  declarators.findSome? fun w =>
    if t.startsWith w && Text.startsBlank (t.drop w.length) then some (Text.trimLeft (t.drop w.length)) else none

/-- Nothing, or one subscript that reaches to the end. -/
def isSubscript : Text → Bool
  | [] => true
  | '[' :: rest => rest.dropWhile (· != ']') == [']']
  | '\x7b' :: rest => rest.dropWhile (· != '\x7d') == ['\x7d']
  | _ => false

/-- A name and a subscript. -/
def isName : Text → Bool
  | [] => false
  | c :: rest => isNameStart c && isSubscript (rest.dropWhile isWord)

/-- The text without the sigil it begins with. -/
def dropSigil : Text → Text
  | [] => []
  | c :: rest => if c = '$' || c = '@' || c = '%' then rest else c :: rest

/-- The text can stand before an assignment sign. -/
def isTarget (t : Text) : Bool := isName (dropSigil ((afterDeclarator? t).getD t))

/-- Target and value of an assignment. -/
def split? (t : Text) : Option (Text × Text) :=
  match splitFrom false t with
  | none => none
  | some (before, after) => if isTarget (Text.trim before) then some (Text.trim before, Text.trim after) else none

end Assignment
end Scriptwright
