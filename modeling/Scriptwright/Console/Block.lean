import Scriptwright.Text.Basic
/-!
# What is put on the console

Blocks, not characters: a text with markup, a listing of code with numbered lines, a panel around a block, a table of
blocks.  How wide they are and where their lines break is for a terminal to say.
-/
namespace Scriptwright
namespace Console

inductive Justify where
  | left
  | right
  | center
  deriving DecidableEq, Repr

def Justify.name : Justify → Text
  | .left => "left".toList
  | .right => "right".toList
  | .center => "center".toList

structure Column where
  header : Text := []
  justify : Justify := .left
  style : Text := []
  deriving DecidableEq, Repr

inductive Block where
  | markup (t : Text)
  | listing (code : Text) (language : Text)
  | panel (body : Block) (title : Option Text) (border : Text) (fit : Bool)
  | table (title : Option Text) (showHeader showLines : Bool) (columns : List Column) (rows : List (List Block))

/-- `t` between the tags of a style. -/
def styled (style : String) (t : Text) : Text :=
  "[".toList ++ style.toList ++ "]".toList ++ t ++ "[/".toList ++ style.toList ++ "]".toList

end Console
end Scriptwright
