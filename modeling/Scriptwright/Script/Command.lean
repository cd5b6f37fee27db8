import Scriptwright.Text.Blank
import Scriptwright.Text.Word
/-!
# Commands within a line

A command is looked for as a whole token: no token character stands before it and, where it takes no argument, none
after it.  The first place of the line where one of the wanted commands fits decides; at one place, the order of the
list does.
-/
namespace Scriptwright
namespace Command

open Text (isBlank isTokenChar startsToken)

/-- The first of the commands that the text begins with as a whole token. -/
def heads? (commands : List Text) (t : Text) : Option Text :=
  commands.find? fun w => !w.isEmpty && t.startsWith w && !startsToken (t.drop w.length)

/-- The first command of the text and how many characters stand before it, where `inToken` tells that a token character
stands before the text. -/
def findFrom (commands : List Text) : Bool → Text → Option (Text × Nat)
  | _, [] => none
  | inToken, c :: rest =>
    match if inToken then none else heads? commands (c :: rest) with
    | some w => some (w, 0)
    | none => (findFrom commands (isTokenChar c) rest).map fun p => (p.1, p.2 + 1)

/-- The first of the commands in the text, with its offset. -/
def find? (commands : List Text) (t : Text) : Option (Text × Nat) := findFrom commands false t

/-- Whether there is any command to look for. -/
def anyNamed (commands : List Text) : Bool := commands.any fun w => !w.isEmpty

/-- The run without blanks that follows the command and at least one blank. -/
def argumentAt? (command : Text) (t : Text) : Option Text :=
  if t.startsWith command && Text.startsBlank (t.drop command.length) then
    match (Text.trimLeft (t.drop command.length)).takeWhile (!isBlank ·) with
    | [] => none
    | a => some a
  else none

/-- The argument of the first occurrence of the command that has one. -/
def argumentFrom (command : Text) : Bool → Text → Option Text
  | _, [] => none
  | inToken, c :: rest =>
    match if inToken then none else argumentAt? command (c :: rest) with
    | some a => some a
    | none => argumentFrom command (isTokenChar c) rest

def argument? (command t : Text) : Option Text := argumentFrom command false t

end Command
end Scriptwright
