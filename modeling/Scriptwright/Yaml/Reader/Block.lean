import Scriptwright.Yaml.Reader.Flow
import Scriptwright.Yaml.Reader.BlockScalar
/-!
# Block collections

Lists and mappings are told by their columns.  `floor` is the least column at which a node may begin, one more than the
column of what holds it.  A scalar or a collection in brackets that begins where the cursor is fresh, ends on its own line
and is followed by a colon is a key, and the column where it begins is the column of its mapping.  The items of a list
that is the value of a key may stand in the column of the key.
-/
namespace Scriptwright
namespace Yaml

/-- The cursor after the spaces behind a possible key. -/
def toColon (cur : Cursor) : Cursor := cur.drop (cur.rest.takeWhile (· == ' ')).length

def isScalarSign (c : Char) : Bool := c == '|' || c == '>'

mutual

/-- The node at the cursor, which is at or beyond `floor`. -/
def readBlock (floor : Nat) : Nat → Anchors → Cursor → Option Found
  | 0, _, _ => none
  | fuel + 1, as, cur =>
    if cur.atSign '-' then
      if cur.fresh then (readItems false cur.column fuel as cur).map fun p => (.list p.1, p.2) else none
    else if cur.atSign '?' || cur.atSign ':' then
      if cur.fresh then (readEntries cur.column fuel as cur).map fun p => (.map p.1, p.2) else none
    else
      match readProperties false 3 {} cur with
      | none => none
      | some (ps, next) =>
        if next.line != cur.line then
          match readBelow false floor fuel as next with
          | none => none
          | some (n, as', after) => (attach ps n as').map fun p => (p.1, p.2, after)
        else if next.rest.isEmpty then (attach ps .empty as).map fun p => (p.1, p.2, next)
        else if next.headIs isScalarSign then
          match readBlockScalar floor next with
          | none => none
          | some (t, after) => (attach ps (.quoted t) as).map fun p => (p.1, p.2, after)
        else
          match readInline false floor fuel as next with
          | none => none
          | some (n, as₁, after) =>
            match attach ps n as₁ with
            | none => none
            | some (n', as₂) =>
              let colon := toColon after
              if cur.fresh && colon.atSign ':' && keyReaches cur colon then
                (readFrom cur.column n' fuel as₂ colon.stale).map fun p => (.map p.1, p.2)
              else some (n', as₂, after)
termination_by structural fuel => fuel

/-- A node that may be left out: nothing stands at or beyond `floor`, though the items of a list may stand just before
it. -/
def readBelow (itemsBefore : Bool) (floor : Nat) : Nat → Anchors → Cursor → Option Found
  | 0, _, _ => none
  | fuel + 1, as, cur =>
    if cur.atEnd then some (.empty, as, cur)
    else if floor ≤ cur.column then readBlock floor fuel as cur
    else if itemsBefore && cur.column + 1 == floor && cur.fresh && cur.atSign '-' then
      (readItems true cur.column fuel as cur).map fun p => (.list p.1, p.2)
    else some (.empty, as, cur)
termination_by structural fuel => fuel

/-- The items whose dashes stand at `column`; the cursor is at a dash.  Items `beside` the keys of a mapping end where its
next key begins. -/
def readItems (beside : Bool) (column : Nat) : Nat → Anchors → Cursor → Option (List Node × Anchors × Cursor)
  | 0, _, _ => none
  | fuel + 1, as, cur =>
    match readBelow false (column + 1) fuel as ((cur.drop 1).refreshed.skip false) with
    | none => none
    | some (n, as₁, after) =>
      let next := after.skip false
      if next.atEnd || next.column < column then some ([n], as₁, next)
      else if next.column == column then
        if next.atSign '-' then (readItems beside column fuel as₁ next).map fun p => (n :: p.1, p.2)
        else if beside then some ([n], as₁, next)
        else none
      else none
termination_by structural fuel => fuel

/-- The entries whose keys stand at `column`; the cursor is at a key. -/
def readEntries (column : Nat) : Nat → Anchors → Cursor → Option (List (Node × Node) × Anchors × Cursor)
  | 0, _, _ => none
  | fuel + 1, as, cur =>
    if cur.atSign ':' then readFrom column .empty fuel as cur.refreshed
    else if cur.atSign '?' then
      match readBelow true (column + 1) fuel as ((cur.drop 1).refreshed.skip false) with
      | none => none
      | some (k, as₁, after) =>
        let next := after.skip false
        if !next.atEnd && next.column == column && next.atSign ':' then readFrom column k fuel as₁ next.refreshed
        else (readRest column fuel as₁ next).map fun p => ((k, .empty) :: p.1, p.2)
    else
      match readProperties false 3 {} cur with
      | none => none
      | some (ps, start) =>
        match readInline false (column + 1) fuel as start with
        | none => none
        | some (n, as₁, after) =>
          match attach ps n as₁ with
          | none => none
          | some (k, as₂) =>
            let colon := toColon after
            if colon.atSign ':' && keyReaches cur colon then readFrom column k fuel as₂ colon.stale else none
termination_by structural fuel => fuel

/-- The value of `key` and the entries after it; the cursor is at the colon, fresh if the key was set apart. -/
def readFrom (column : Nat) (key : Node) : Nat → Anchors → Cursor → Option (List (Node × Node) × Anchors × Cursor)
  | 0, _, _ => none
  | fuel + 1, as, cur =>
    match readBelow true (column + 1) fuel as ((cur.drop 1).skip false) with
    | none => none
    | some (v, as₁, after) => (readRest column fuel as₁ (after.skip false)).map fun p => ((key, v) :: p.1, p.2)
termination_by structural fuel => fuel

/-- The further entries of a mapping, if the cursor is at one. -/
def readRest (column : Nat) : Nat → Anchors → Cursor → Option (List (Node × Node) × Anchors × Cursor)
  | 0, _, _ => none
  | fuel + 1, as, cur =>
    if cur.atEnd || cur.column < column then some ([], as, cur)
    else if cur.column == column then readEntries column fuel as cur
    else none
termination_by structural fuel => fuel

end

end Yaml
end Scriptwright
