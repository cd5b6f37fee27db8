import Scriptwright.Yaml.Cursor
/-!
# Quoted scalars

The lines of a quoted scalar are folded: the spaces around a line break are dropped and the break becomes a space, or is
dropped itself when empty lines follow, which stay as line feeds.  In double quotes a backslash at the end of a line joins
the lines without a space.  Each reader starts after the opening quote and returns the text and the cursor after the
closing one.
-/
namespace Scriptwright
namespace Yaml

/-- Where a reader of a quoted scalar is: in its text, in spaces that a line break would drop, or at the front of a
further line, where `joint` joins the lines unless there are breaks after the first. -/
inductive Fold where
  | text
  | spaces (seen : Text)
  | lines (joint : Text) (breaks : Text)

/-- What a pending fold contributes before the next character of the text. -/
def Fold.flush : Fold → Text
  | .text => []
  | .spaces seen => seen
  | .lines joint [] => joint
  | .lines _ breaks => breaks

def isSpaceOrTab (c : Char) : Bool := c == ' ' || c == '\t'

/-- The fold after a line break. -/
def Fold.onBreak (f : Fold) (c : Char) : Fold :=
  match f with
  | .lines joint breaks => .lines joint (breaks ++ [breakText c])
  | _ => if isLineEnd c then .lines [' '] [] else .lines [] [c]

/-- The fold after a space or a tab. -/
def Fold.onSpace (f : Fold) (c : Char) : Fold :=
  match f with
  | .text => .spaces [c]
  | .spaces seen => .spaces (seen ++ [c])
  | .lines joint breaks => .lines joint breaks

/-- The text of a single-quoted scalar. -/
def readSingle (f : Fold) (column line : Nat) : Text → Option (Text × Cursor)
  | [] => none
  | '\'' :: '\'' :: rest =>
    (readSingle .text (column + 2) line rest).map fun p => (f.flush ++ '\'' :: p.1, p.2)
  | '\'' :: rest => some (f.flush, ⟨rest, column + 1, line, false⟩)
  | c :: rest =>
    if isSpaceOrTab c then readSingle (f.onSpace c) (column + 1) line rest
    else if isBreak c then (if atMarker rest then none else readSingle (f.onBreak c) 0 (line + 1) rest)
    else (readSingle .text (column + 1) line rest).map fun p => (f.flush ++ c :: p.1, p.2)

/-- The character of a single-letter escape. -/
def escapedChar? (c : Char) : Option Char :=
  match c with
  | '0' => some '\x00'
  | 'a' => some '\x07'
  | 'b' => some '\x08'
  | 't' => some '\t'
  | '\t' => some '\t'
  | 'n' => some '\n'
  | 'v' => some '\x0b'
  | 'f' => some '\x0c'
  | 'r' => some '\r'
  | 'e' => some '\x1b'
  | ' ' => some ' '
  | '"' => some '"'
  | '/' => some '/'
  | '\\' => some '\\'
  | 'N' => some (Char.ofNat 0x85)
  | '_' => some (Char.ofNat 0xA0)
  | 'L' => some (Char.ofNat 0x2028)
  | 'P' => some (Char.ofNat 0x2029)
  | _ => none

/-- The character with a code in base sixteen; a code that belongs to no character is refused. -/
def codeChar? (digits : List Char) : Option Char :=
  match digits.mapM Text.hexDigit? with
  | none => none
  | some ds =>
    let n := Text.valueOf 16 ds
    if n < 0xD800 || (0xDFFF < n && n < 0x110000) then some (Char.ofNat n) else none

/-- The text of a double-quoted scalar. -/
def readDouble (f : Fold) (column line : Nat) : Text → Option (Text × Cursor)
  | [] => none
  | '"' :: rest => some (f.flush, ⟨rest, column + 1, line, false⟩)
  | '\\' :: 'x' :: a :: b :: rest =>
    match codeChar? [a, b] with
    | none => none
    | some c => (readDouble .text (column + 4) line rest).map fun p => (f.flush ++ c :: p.1, p.2)
  | '\\' :: 'u' :: a :: b :: c :: d :: rest =>
    match codeChar? [a, b, c, d] with
    | none => none
    | some x => (readDouble .text (column + 6) line rest).map fun p => (f.flush ++ x :: p.1, p.2)
  | '\\' :: 'U' :: a :: b :: c :: d :: e :: g :: h :: i :: rest =>
    match codeChar? [a, b, c, d, e, g, h, i] with
    | none => none
    | some x => (readDouble .text (column + 10) line rest).map fun p => (f.flush ++ x :: p.1, p.2)
  | '\\' :: c :: rest =>
    match escapedChar? c with
    | some x => (readDouble .text (column + 2) line rest).map fun p => (f.flush ++ x :: p.1, p.2)
    | none =>
      if isBreak c && !atMarker rest then
        (readDouble (.lines [] []) 0 (line + 1) rest).map fun p => (f.flush ++ p.1, p.2)
      else none
  | c :: rest =>
    if isSpaceOrTab c then readDouble (f.onSpace c) (column + 1) line rest
    else if isBreak c then (if atMarker rest then none else readDouble (f.onBreak c) 0 (line + 1) rest)
    else if c = '\\' then none
    else (readDouble .text (column + 1) line rest).map fun p => (f.flush ++ c :: p.1, p.2)

end Yaml
end Scriptwright
