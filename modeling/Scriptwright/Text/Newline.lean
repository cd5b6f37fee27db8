import Scriptwright.Text.Basic
/-!
# Line ends

Three conventions end a line: a line feed, a carriage return, and the two together.  Unifying them leaves line feeds only.
-/
namespace Scriptwright
namespace Text

/-- Every line end written as one line feed. -/
def unifyNewlines : Text → Text
  | [] => []
  | '\r' :: '\n' :: rest => '\n' :: unifyNewlines rest
  | '\r' :: rest => '\n' :: unifyNewlines rest
  | c :: rest => c :: unifyNewlines rest

/-- The byte order mark. -/
def mark : Char := Char.ofNat 0xFEFF

/-- The text without the byte order marks it begins with. -/
def dropMarks (t : Text) : Text := t.dropWhile (· == mark)

end Text
end Scriptwright
