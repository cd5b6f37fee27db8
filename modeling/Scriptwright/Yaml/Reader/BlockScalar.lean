import Scriptwright.Yaml.Reader.Quoted
/-!
# Block scalars

A block scalar keeps its lines, or folds them into one where it begins with `>`.  Its indentation is given in its header
or is that of its first line; the header also says what becomes of the line breaks at its end.  Where the indentation is
found, no line may be deeper than an empty line at the front that is indented itself.
-/
namespace Scriptwright
namespace Yaml

/-- How the line breaks at the end of a block scalar are treated. -/
inductive Chomp where
  | clip
  | strip
  | keep
  deriving DecidableEq

def chompSign? (c : Char) : Option Chomp :=
  if c = '+' then some .keep else if c = '-' then some .strip else none

def widthSign? (c : Char) : Option Nat := if c.isDigit && c != '0' then some (c.toNat - 48) else none

/-- The text without a chomping sign in front. -/
def takeChomp : Text → Option Chomp × Text
  | [] => (none, [])
  | c :: rest =>
    match chompSign? c with
    | some k => (some k, rest)
    | none => (none, c :: rest)

/-- The text without an indentation in front. -/
def takeWidth : Text → Option Nat × Text
  | [] => (none, [])
  | c :: rest =>
    match widthSign? c with
    | some w => (some w, rest)
    | none => (none, c :: rest)

/-- Chomping and indentation of a header, in either order, and what follows them. -/
def blockHeader (t : Text) : Chomp × Option Nat × Text :=
  match takeChomp t with
  | (some k, rest) => (k, takeWidth rest)
  | (none, _) =>
    let (w, rest) := takeWidth t
    match w with
    | none => (.clip, none, rest)
    | some _ => ((takeChomp rest).1.getD .clip, w, (takeChomp rest).2)

/-- The rest of the header's line holds at most a comment; what is left begins at the next line. -/
def dropHeaderLine (t : Text) : Option Text :=
  if !endsToken t || t.head? == some '\t' then none
  else
    match t.dropWhile (· == ' ') with
    | [] => some []
    | c :: rest =>
      if c = '#' then some ((rest.dropWhile (!isLineEnd ·)).drop 1)
      else if isLineEnd c then some rest
      else none

/-- The front of a block scalar: its empty lines, the indentation of the first of them, the deepest indentation in them
and in the line after them, and the cursor there. -/
structure Front where
  breaks : Text := []
  first : Option Nat := none
  deepest : Nat := 0
  start : Cursor

def leadingLines (column line : Nat) (first : Option Nat) (deepest : Nat) (breaks : Text) : Text → Front
  | [] => ⟨breaks, first, deepest, ⟨[], column, line, true⟩⟩
  | c :: rest =>
    if c == ' ' then leadingLines (column + 1) line first (max deepest (column + 1)) breaks rest
    else if isBreak c then
      leadingLines 0 (line + 1) (first.orElse fun _ => some column) deepest (breaks ++ [breakText c]) rest
    else ⟨breaks, first, deepest, ⟨c :: rest, column, line, true⟩⟩

/-- A later line is deeper than an empty one that is indented itself. -/
def Front.isUneven (f : Front) : Bool := f.first.any fun n => decide (0 < n) && decide (n < f.deepest)

/-- Empty lines, and the indentation of the line after them up to `indent`. -/
def innerBreaks (indent : Nat) (column line : Nat) (breaks : Text) : Text → Text × Cursor
  | [] => (breaks, ⟨[], column, line, true⟩)
  | c :: rest =>
    if c == ' ' && column < indent then innerBreaks indent (column + 1) line breaks rest
    else if isBreak c then innerBreaks indent 0 (line + 1) (breaks ++ [breakText c]) rest
    else (breaks, ⟨c :: rest, column, line, true⟩)

/-- The line breaks that stay at the end, the last line having `ended` and empty lines following. -/
def Chomp.tail (chomp : Chomp) (ended breaks : Text) : Text :=
  match chomp with
  | .strip => []
  | .clip => ended
  | .keep => ended ++ breaks

/-- The lines of a block scalar from `cur` on, `breaks` standing before them.  At the left margin a document marker ends
it. -/
def blockLines (folded : Bool) (chomp : Chomp) (floor indent : Nat) : Nat → Text → Cursor → Text × Cursor
  | 0, _, cur => ([], cur)
  | fuel + 1, breaks, cur =>
    if cur.column == indent && !cur.rest.isEmpty then
      let text := cur.rest.takeWhile (!isLineEnd ·)
      let after := cur.rest.dropWhile (!isLineEnd ·)
      let ended : Text := if after.isEmpty then [] else ['\n']
      let (breaks', next) := innerBreaks indent 0 (cur.line + 1) [] (after.drop 1)
      if next.column == indent && !next.rest.isEmpty && !(floor == 0 && next.atEnd) then
        let joint : Text :=
          if folded && !cur.headIs isSpaceOrTab && !next.headIs isSpaceOrTab then
            (if breaks'.isEmpty then [' '] else [])
          else ended
        let (more, last) := blockLines folded chomp floor indent fuel breaks' next
        (breaks ++ text ++ joint ++ more, last)
      else (breaks ++ text ++ chomp.tail ended breaks', next)
    else (chomp.tail [] breaks, cur)

/-- A block scalar; the cursor is at its sign. -/
def readBlockScalar (floor : Nat) (cur : Cursor) : Option (Text × Cursor) :=
  match cur.rest with
  | [] => none
  | sign :: rest =>
    let (chomp, width, t) := blockHeader rest
    match dropHeaderLine t with
    | none => none
    | some body =>
      match width with
      | some w =>
        let indent := max floor 1 + w - 1
        let (breaks, start) := innerBreaks indent 0 (cur.line + 1) [] body
        some (blockLines (sign == '>') chomp (max floor 1) indent (body.length + 1) breaks start)
      | none =>
        let front := leadingLines 0 (cur.line + 1) none 0 [] body
        if front.isUneven then none
        else some (blockLines (sign == '>') chomp floor (max floor front.deepest) (body.length + 1) front.breaks front.start)

end Yaml
end Scriptwright
