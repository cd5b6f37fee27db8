import Scriptwright.Yaml.Style
/-!
# Reading position

A cursor holds what is left of a document, the column and the line where it begins, and whether it is `fresh`: whether a
block construct may begin here, which is so at the front of a line and after the dash of an item, but not after the colon
of a key.  Between two tokens spaces, comments and line breaks are passed over; inside brackets and braces tabs are too.
-/
namespace Scriptwright
namespace Yaml

structure Cursor where
  rest : Text
  column : Nat := 0
  line : Nat := 0
  fresh : Bool := true

/-- The characters that end a line for comments, plain scalars and block scalars. -/
def isLineEnd (c : Char) : Bool := c == '\n' || c.toNat == 0x85

/-- A space, a tab or the end of a line. -/
def isTokenEnd (c : Char) : Bool := c == ' ' || c == '\t' || isLineEnd c

/-- The text is at its end or begins with a space, a tab or a line end. -/
def endsToken : Text → Bool
  | [] => true
  | c :: _ => isTokenEnd c

/-- The text begins with a document marker. -/
def atMarker (t : Text) : Bool :=
  (t.startsWith "---".toList || t.startsWith "...".toList) && endsToken (t.drop 3)

/-- What may stand in a document at all. -/
def isDocumentChar (c : Char) : Bool :=
  let n := c.toNat
  n == 0x09 || n == 0x0A || n == 0x0D || (0x20 ≤ n && n ≤ 0x7E) || n == 0x85 || (0xA0 ≤ n && n ≤ 0xD7FF) ||
    (0xE000 ≤ n && n ≤ 0xFFFD) || 0x10000 ≤ n

/-- The line break that is kept when lines are folded: all but the separators of Unicode become line feeds. -/
def breakText (c : Char) : Char := if isLineEnd c then '\n' else c

namespace Cursor

/-- The cursor `n` characters on, all on the same line. -/
def drop (cur : Cursor) (n : Nat) : Cursor := { cur with rest := cur.rest.drop n, column := cur.column + n }

def stale (cur : Cursor) : Cursor := { cur with fresh := false }

def refreshed (cur : Cursor) : Cursor := { cur with fresh := true }

/-- Passes over what stands between tokens. -/
def skipFrom (flow : Bool) (inComment : Bool) (column line : Nat) (fresh : Bool) : Text → Cursor
  | [] => ⟨[], column, line, fresh⟩
  | c :: rest =>
    if inComment && !isLineEnd c then skipFrom flow true (column + 1) line fresh rest
    else if isBreak c then skipFrom flow false 0 (line + 1) (fresh || !flow) rest
    else if c == ' ' || (flow && c == '\t') then skipFrom flow false (column + 1) line fresh rest
    else if c == '#' then skipFrom flow true (column + 1) line fresh rest
    else ⟨c :: rest, column, line, fresh⟩

/-- The cursor at the next token. -/
def skip (flow : Bool) (cur : Cursor) : Cursor := skipFrom flow false cur.column cur.line cur.fresh cur.rest

/-- At the end of the document: no text left, or a document marker at the front of a line. -/
def atEnd (cur : Cursor) : Bool := cur.rest.isEmpty || (cur.column == 0 && atMarker cur.rest)

/-- The first character is `c` and a token ends after it. -/
def atSign (cur : Cursor) (c : Char) : Bool :=
  match cur.rest with
  | x :: rest => x == c && endsToken rest
  | [] => false

/-- The first character satisfies `p`. -/
def headIs (cur : Cursor) (p : Char → Bool) : Bool :=
  match cur.rest with
  | x :: _ => p x
  | [] => false

end Cursor
end Yaml
end Scriptwright
