import Scriptwright.Text.Blank
import Scriptwright.Text.Word
/-!
# Conditions of block headers

What stands between the keyword of a header and its body: a test, possibly in brackets, and the marks and words that open
the body.  A condition is brought into the target's form in three steps: the body opener is dropped from its end, one
pair of test brackets around the whole is removed, and the comparison operators of the shell become symbols.
-/
namespace Scriptwright
namespace Condition

open Text (isBlank isTokenChar startsToken)

/-! ## Comparison operators -/

/-- The symbol for the operator with these two letters. -/
def comparison? (a b : Char) : Option Text :=
  match a, b with
  | 'e', 'q' => some ['=', '=']
  | 'n', 'e' => some ['!', '=']
  | 'l', 't' => some ['<']
  | 'g', 't' => some ['>']
  | 'l', 'e' => some ['<', '=']
  | 'g', 'e' => some ['>', '=']
  | _, _ => none

/-- The text with its comparison operators as symbols, where `inToken` tells that a token character stands before it.
An operator counts when no token character is next to it. -/
def symbolsFrom : Bool → Text → Text
  | _, [] => []
  | false, '-' :: a :: b :: rest =>
    match comparison? a b with
    | some op => if startsToken rest then '-' :: symbolsFrom true (a :: b :: rest) else op ++ symbolsFrom true rest
    | none => '-' :: symbolsFrom true (a :: b :: rest)
  | _, c :: rest => c :: symbolsFrom (isTokenChar c) rest

def withSymbols (t : Text) : Text := symbolsFrom false t

/-! ## Body openers -/

/-- Drops openers from the front of a reversed text: blanks, the marks `;` and `{`, and the words `then` and `do` where a
blank stands before them. -/
def dropReversedOpeners : Text → Text
  | [] => []
  | 'n' :: 'e' :: 'h' :: 't' :: b :: rest =>
    if isBlank b then dropReversedOpeners (b :: rest) else 'n' :: 'e' :: 'h' :: 't' :: b :: rest
  | 'o' :: 'd' :: b :: rest => if isBlank b then dropReversedOpeners (b :: rest) else 'o' :: 'd' :: b :: rest
  | c :: rest => if isBlank c || c = ';' || c = '\x7b' then dropReversedOpeners rest else c :: rest

/-- The text without the body opener at its end and the blanks around what is left. -/
def dropOpener (t : Text) : Text := Text.trimLeft (dropReversedOpeners t.reverse).reverse

/-! ## Test brackets -/

/-- A closing bracket after a blank, or an opening one before a blank. -/
def hasInnerTest : Text → Bool
  | a :: b :: rest => (isBlank a && b == ']') || (a == '[' && isBlank b) || hasInnerTest (b :: rest)
  | _ => false

/-- The condition without the one pair of brackets, single or double, around it.  Where a test stands inside, the brackets
belong to several tests and stay. -/
def dropBrackets (t : Text) : Text :=
  let c := Text.trim t
  if c.startsWith ['['] && c.endsWith [']'] then
    let opening := if c.startsWith ['[', '['] then 2 else 1
    let closing := if c.endsWith [']', ']'] then 2 else 1
    let inner := Text.trim ((c.take (c.length - closing)).drop opening)
    if hasInnerTest inner then c else inner
  else c

/-- The condition in the target's form. -/
def normalize (t : Text) : Text := withSymbols (dropBrackets (dropOpener t))

end Condition
end Scriptwright
