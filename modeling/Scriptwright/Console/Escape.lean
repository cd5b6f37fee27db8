import Scriptwright.Text.Basic
/-!
# Text that is no markup

A bracket opens a tag if a small letter, `#`, `/` or `@` follows and a closing bracket comes before another opening one.
A backslash in front takes that meaning away, so a tag in a text that is to be shown as it is gets one, and the backslashes
that stand there already are doubled.
-/
namespace Scriptwright
namespace Console

def opensTag (c : Char) : Bool := c.isLower || c == '#' || c == '/' || c == '@'

/-- The tag that starts after an opening bracket, up to its closing bracket, and what follows it. -/
def tagRest? (t : Text) : Option (Text × Text) :=
  match t with
  | [] => none
  | c :: cs =>
    if opensTag c then
      match cs.span fun x => x != '[' && x != ']' with
      | (inner, ']' :: rest) => some (c :: inner ++ [']'], rest)
      | _ => none
    else none

/-- The text with every tag disarmed; `n` backslashes stand in front of it. -/
def escapeFrom : Nat → Nat → Text → Text
  | 0, n, t => List.replicate n '\\' ++ t
  | _ + 1, n, [] => List.replicate n '\\'
  | fuel + 1, n, '\\' :: t => escapeFrom fuel (n + 1) t
  | fuel + 1, n, '[' :: t =>
    match tagRest? t with
    | some (tag, rest) => List.replicate (2 * n + 1) '\\' ++ '[' :: tag ++ escapeFrom fuel 0 rest
    | none => List.replicate n '\\' ++ '[' :: escapeFrom fuel 0 t
  | fuel + 1, n, c :: t => List.replicate n '\\' ++ c :: escapeFrom fuel 0 t

/-- The text with every tag disarmed. -/
def escape (t : Text) : Text := escapeFrom (t.length + 1) 0 t

end Console
end Scriptwright
