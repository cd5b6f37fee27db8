import Scriptwright.Yaml.Reader.Quoted
/-!
# Plain scalars

A plain scalar is a row of words.  It ends at a colon that ends a key, at a comment, at a line that begins too far left
and, between brackets or braces, at a sign of the collection.  Its lines are folded like those of a quoted scalar.
-/
namespace Scriptwright
namespace Yaml

/-- The signs of a collection in brackets or braces. -/
def isFlowSign (c : Char) : Bool := c == ',' || c == '[' || c == ']' || c == '\x7b' || c == '\x7d'

/-- A word of a plain scalar ends before this text. -/
def endsPlain (flow : Bool) : Text → Bool
  | [] => true
  | c :: rest => isTokenEnd c || (c == ':' && endsToken rest) || (flow && isFlowSign c)

/-- The word of a plain scalar at the front of a text. -/
def plainWord (flow : Bool) : Text → Text
  | [] => []
  | c :: rest => if endsPlain flow (c :: rest) then [] else c :: plainWord flow rest

/-- Line breaks and spaces, up to the next text or to a document marker at the front of a line. -/
def plainLines (column line : Nat) (breaks : Text) : Text → Text × Cursor
  | [] => (breaks, ⟨[], column, line, true⟩)
  | c :: rest =>
    if c == ' ' then plainLines (column + 1) line breaks rest
    else if isBreak c then
      if atMarker rest then (breaks ++ [breakText c], ⟨rest, 0, line + 1, true⟩)
      else plainLines 0 (line + 1) (breaks ++ [breakText c]) rest
    else (breaks, ⟨c :: rest, column, line, true⟩)

/-- What stands between two words of a plain scalar and the cursor after it. -/
def plainGap (cur : Cursor) : Text × Cursor :=
  let blanks := cur.rest.takeWhile (· == ' ')
  let next := cur.drop blanks.length
  match next.rest with
  | c :: rest =>
    if isLineEnd c then
      if atMarker rest then ([], ⟨rest, 0, cur.line + 1, true⟩)
      else
        match plainLines 0 (cur.line + 1) [] rest with
        | ([], after) => ([' '], after)
        | (breaks, after) => (breaks, after)
    else (blanks, next)
  | [] => (blanks, next)

/-- The scalar from its next word on, `gap` standing before it. -/
def readPlain (flow : Bool) (floor : Nat) : Nat → Text → Cursor → Text × Cursor
  | 0, _, cur => ([], cur)
  | fuel + 1, gap, cur =>
    match plainWord flow cur.rest with
    | [] => ([], cur)
    | word =>
      let (gap', next) := plainGap (cur.drop word.length).stale
      if gap'.isEmpty || next.headIs (· == '#') || (!flow && next.column < floor) || (next.column == 0 && next.atEnd)
      then (gap ++ word, next)
      else
        let (more, last) := readPlain flow floor fuel gap' next
        (gap ++ word ++ more, last)

/-- A plain scalar may begin here. -/
def startsPlain (flow : Bool) : Text → Bool
  | [] => false
  | c :: rest =>
    if isWeakIndicator c then
      if c = '-' || !flow then !endsToken rest
      else c == ':' && !(rest.head?.any isSpaceOrTab)
    else !(isTokenEnd c || isBreak c || isIndicator c)

end Yaml
end Scriptwright
