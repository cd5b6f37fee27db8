import Scriptwright.Console.Escape
import Scriptwright.Console.Block
/-!
# Blocks as plain lines

A console without colours: the tags of a markup are dropped, a listing has its line numbers in front, a panel is its
title over its body, and the cells of a table stand between bars.
-/
namespace Scriptwright
namespace Console

/-- A markup without its tags; a backslash keeps the bracket after it. -/
def unmarkFrom : Nat → Text → Text
  | 0, t => t
  | _ + 1, [] => []
  | fuel + 1, '\\' :: '[' :: t => '[' :: unmarkFrom fuel t
  | fuel + 1, '[' :: t =>
    match tagRest? t with
    | some (_, rest) => unmarkFrom fuel rest
    | none => '[' :: unmarkFrom fuel t
  | fuel + 1, c :: t => c :: unmarkFrom fuel t

def unmark (t : Text) : Text := unmarkFrom (t.length + 1) t

/-- `t` filled up to `width` characters. -/
def padLeft (width : Nat) (t : Text) : Text := List.replicate (width - t.length) ' ' ++ t

def numbered (code : Text) : List Text :=
  let ls := Text.splitLines code
  let width := (Text.ofNat ls.length).length
  ls.mapIdx fun i l => padLeft width (Text.ofNat (i + 1)) ++ " ".toList ++ l

/-- The lines of the cells of a row, each cell on lines of its own after the first. -/
def barred (cells : List (List Text)) : List Text :=
  if cells.all fun c => c.length ≤ 1 then [List.intercalate " | ".toList (cells.map fun c => c.head?.getD [])]
  else cells.flatten

mutual

def Block.plain : Block → List Text
  | .markup t => Text.splitLines (unmark t)
  | .listing code _ => numbered code
  | .panel body title _ _ => (title.map unmark).toList ++ body.plain
  | .table title showHeader _ columns rows =>
    (title.map unmark).toList ++
      (if showHeader then [List.intercalate " | ".toList (columns.map (·.header))] else []) ++ plainRows rows

def plainRows : List (List Block) → List Text
  | [] => []
  | r :: rest => barred (plainCells r) ++ plainRows rest

def plainCells : List Block → List (List Text)
  | [] => []
  | b :: rest => b.plain :: plainCells rest

end

end Console
end Scriptwright
