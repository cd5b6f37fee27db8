import Scriptwright.Text.Blank
/-!
# Arguments as literals

An argument taken from a command line becomes a string literal: the separators at its end and one pair of quotes around
it are dropped, and the rest stands in double quotes with backslashes and double quotes escaped.
-/
namespace Scriptwright
namespace Literal

def isSeparator (c : Char) : Bool := c == ';' || c == '|' || c == '&' || c == ')'

/-- The text without the separators at its end. -/
def dropSeparators (t : Text) : Text := (t.reverse.dropWhile isSeparator).reverse

/-- The text without one pair of equal quotes around it. -/
def dropQuotes (t : Text) : Text :=
  match t with
  | q :: rest =>
    if (q = '"' || q = '\'') && !rest.isEmpty && rest.getLast? = some q then rest.dropLast else t
  | [] => t

def unquote (t : Text) : Text := dropQuotes (dropSeparators t)

/-- A double-quoted literal. -/
def write (t : Text) : Text :=
  '"' :: t.flatMap (fun c => if c = '\\' || c = '"' then ['\\', c] else [c]) ++ ['"']

/-- What a print statement prints: its text without the separator at its end. -/
def payload (t : Text) : Text :=
  let c := Text.trim t
  if c.endsWith [';'] then Text.trimRight c.dropLast else c

end Literal
end Scriptwright
