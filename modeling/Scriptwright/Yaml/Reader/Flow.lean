import Scriptwright.Yaml.Node
import Scriptwright.Yaml.Reader.Plain
/-!
# Collections in brackets and braces

Between brackets and braces the layout does not count: items and entries are separated by commas, of which one may stand
at the end.  An item of a list may be a single entry.  A key has to end on the line where it begins, unless it follows a
question mark.

A node may be named by an anchor and named again by an alias, and may have a tag.  Of the tags only those are known that
say a node is a text, a list or a mapping.
-/
namespace Scriptwright
namespace Yaml

/-! ## Anchors and tags -/

def isNameChar (c : Char) : Bool := !(isTokenEnd c || isBreak c || isFlowSign c)

/-- The nodes that have a name, the latest first. -/
abbrev Anchors := List (Text × Node)

/-- What stands before a node: a name for it and a tag. -/
structure Properties where
  anchor : Option Text := none
  tag : Option Text := none

def Properties.isBare (ps : Properties) : Bool := ps.anchor.isNone && ps.tag.isNone

/-- The node as its tag has it. -/
def tagged (tag : Option Text) (n : Node) : Option Node :=
  match tag with
  | none => some n
  | some t =>
    if t = "!".toList then
      match n with
      | .quoted s => some (.plain s)
      | n => some n
    else if t = "!!str".toList then
      match n with
      | .plain s => some (.quoted s)
      | .quoted s => some (.quoted s)
      | _ => none
    else if t = "!!seq".toList then
      match n with
      | .list xs => some (.list xs)
      | _ => none
    else if t = "!!map".toList then
      match n with
      | .map es => some (.map es)
      | _ => none
    else none

/-- The node with its properties, and the anchors with its name. -/
def attach (ps : Properties) (n : Node) (as : Anchors) : Option (Node × Anchors) :=
  match tagged ps.tag n with
  | none => none
  | some n' =>
    match ps.anchor with
    | none => some (n', as)
    | some a => some (n', (a, n') :: as)

/-- Properties at the front of a node, each at most once, and the cursor at what follows. -/
def readProperties (flow : Bool) : Nat → Properties → Cursor → Option (Properties × Cursor)
  | 0, ps, cur => some (ps, cur)
  | fuel + 1, ps, cur =>
    match cur.rest with
    | '&' :: rest =>
      let name := rest.takeWhile isNameChar
      if name.isEmpty || ps.anchor.isSome then none
      else readProperties flow fuel { ps with anchor := some name } ((cur.drop (name.length + 1)).stale.skip flow)
    | '!' :: rest =>
      let name := rest.takeWhile isNameChar
      if ps.tag.isSome then none
      else
        readProperties flow fuel { ps with tag := some ('!' :: name) } ((cur.drop (name.length + 1)).stale.skip flow)
    | _ => some (ps, cur)

/-- A node that was read, the anchors known after it, and the cursor after it. -/
abbrev Found := Node × Anchors × Cursor

/-! ## Collections -/

/-- The colon after a key between braces needs no space, between brackets it does. -/
def atFlowValue (inMap : Bool) (cur : Cursor) : Bool :=
  match cur.rest with
  | ':' :: rest => inMap || endsToken rest
  | _ => false

/-- The signs that end an entry. -/
def endsEntry (c : Char) : Bool := c == ',' || c == ']' || c == '\x7d'

/-- From `start` to `cur` is short enough for a key and on one line. -/
def keyReaches (start cur : Cursor) : Bool :=
  start.line == cur.line && start.rest.length ≤ cur.rest.length + 1024

mutual

/-- A scalar, an alias or a collection in brackets or braces, without properties. -/
def readInline (flow : Bool) (floor : Nat) : Nat → Anchors → Cursor → Option Found
  | 0, _, _ => none
  | fuel + 1, as, cur =>
    match cur.rest with
    | '\'' :: rest =>
      (readSingle .text (cur.column + 1) cur.line rest).map fun p => (.quoted p.1, as, p.2)
    | '"' :: rest =>
      (readDouble .text (cur.column + 1) cur.line rest).map fun p => (.quoted p.1, as, p.2)
    | '*' :: rest =>
      let name := rest.takeWhile isNameChar
      (as.find? fun a => a.1 == name).map fun a => (a.2, as, (cur.drop (name.length + 1)).stale)
    | '[' :: _ =>
      (readSequence fuel as ((cur.drop 1).skip true)).map fun p => (.list p.1, p.2.1, p.2.2.stale)
    | '\x7b' :: _ =>
      (readMembers fuel as ((cur.drop 1).skip true)).map fun p => (.map p.1, p.2.1, p.2.2.stale)
    | _ =>
      if startsPlain flow cur.rest then
        let (t, next) := readPlain flow floor (cur.rest.length + 1) [] cur
        some (.plain t, as, next)
      else none

/-- A node inside a collection, and the cursor at the token after it. -/
def readFlowNode : Nat → Anchors → Cursor → Option Found
  | 0, _, _ => none
  | fuel + 1, as, cur =>
    if cur.atEnd || cur.atSign '-' then none
    else
      match readProperties true 3 {} cur with
      | none => none
      | some (ps, next) =>
        if !ps.isBare && next.headIs fun c => endsEntry c || c == ':' then
          (attach ps .empty as).map fun p => (p.1, p.2, next)
        else
          match readInline true 0 fuel as next with
          | none => none
          | some (n, as', after) => (attach ps n as').map fun p => (p.1, p.2, after.skip true)

/-- The value after a colon in a collection, which may be left out. -/
def readFlowValue : Nat → Anchors → Cursor → Option Found
  | 0, _, _ => none
  | fuel + 1, as, cur => if cur.headIs endsEntry then some (.empty, as, cur) else readFlowNode fuel as cur

/-- One entry of a collection: a key, and a value if there is one. -/
def readFlowEntry (inMap : Bool) : Nat → Anchors → Cursor → Option ((Node × Option Node) × Anchors × Cursor)
  | 0, _, _ => none
  | fuel + 1, as, cur =>
    let explicit := cur.headIs (· == '?')
    let start := if explicit then (cur.drop 1).skip true else cur
    let keyFound : Option Found :=
      if (explicit && start.headIs endsEntry) || ((explicit || inMap) && atFlowValue inMap start) then
        some (.empty, as, start)
      else readFlowNode fuel as start
    match keyFound with
    | none => none
    | some (k, as₁, next) =>
      if atFlowValue inMap next && (explicit || keyReaches start next) then
        match readFlowValue fuel as₁ ((next.drop 1).skip true) with
        | none => none
        | some (v, as₂, after) => some ((k, some v), as₂, after)
      else some ((k, if explicit then some .empty else none), as₁, next)

/-- The items up to the closing bracket; the cursor is at the first of them. -/
def readSequence : Nat → Anchors → Cursor → Option (List Node × Anchors × Cursor)
  | 0, _, _ => none
  | fuel + 1, as, cur =>
    match cur.rest with
    | ']' :: _ => some ([], as, cur.drop 1)
    | _ =>
      match readFlowEntry false fuel as cur with
      | none => none
      | some ((k, v), as₁, next) =>
        let item := match v with
          | none => k
          | some v => .map [(k, v)]
        match next.rest with
        | ',' :: _ => (readSequence fuel as₁ ((next.drop 1).skip true)).map fun p => (item :: p.1, p.2)
        | ']' :: _ => some ([item], as₁, next.drop 1)
        | _ => none

/-- The entries up to the closing brace; the cursor is at the first of them. -/
def readMembers : Nat → Anchors → Cursor → Option (List (Node × Node) × Anchors × Cursor)
  | 0, _, _ => none
  | fuel + 1, as, cur =>
    match cur.rest with
    | '\x7d' :: _ => some ([], as, cur.drop 1)
    | _ =>
      match readFlowEntry true fuel as cur with
      | none => none
      | some ((k, v), as₁, next) =>
        match next.rest with
        | ',' :: _ => (readMembers fuel as₁ ((next.drop 1).skip true)).map fun p => ((k, v.getD .empty) :: p.1, p.2)
        | '\x7d' :: _ => some ([(k, v.getD .empty)], as₁, next.drop 1)
        | _ => none

end

end Yaml
end Scriptwright
