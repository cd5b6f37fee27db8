import Scriptwright.Text.Newline
import Scriptwright.Yaml.Reader.Block
/-!
# Reading YAML

A text holds at most one document, after directives and a start marker and before end markers.  Reading it is a descent
in which each call takes a step of fuel; between two tokens there are only a few calls, so a small multiple of the length
of the text is enough.
-/
namespace Scriptwright
namespace Yaml

/-- The cursor after the directives, lines that begin with a percent sign, and whether there are any. -/
def dropDirectives : Nat → Cursor → Bool × Cursor
  | 0, cur => (false, cur)
  | fuel + 1, cur =>
    match cur.rest with
    | '%' :: rest =>
      if cur.column == 0 then
        let body := rest.dropWhile (!isLineEnd ·)
        (true, (dropDirectives fuel (Cursor.skip false ⟨body, 1, cur.line, true⟩)).2)
      else (false, cur)
    | _ => (false, cur)

/-- Only end markers follow. -/
def closes : Nat → Cursor → Bool
  | 0, cur => cur.rest.isEmpty
  | fuel + 1, cur =>
    cur.rest.isEmpty ||
      (cur.column == 0 && atMarker cur.rest && cur.headIs (· == '.') && closes fuel ((cur.drop 3).stale.skip false))

/-- The root node at the cursor, when only end markers follow it. -/
def readRoot (fuel : Nat) (cur : Cursor) : Option Node :=
  match readBlock 0 fuel [] cur with
  | none => none
  | some (n, _, after) => if closes fuel (after.skip false) then some n else none

/-- The node of a text that holds one document; `some none` when it holds none. -/
def readDocument (t : Text) : Option (Option Node) :=
  if t.all isDocumentChar then
    let fuel := 8 * t.length + 16
    let body := if t.head? == some Text.mark then t.drop 1 else t
    let (directed, start) := dropDirectives fuel (Cursor.skip false ⟨body, 0, 0, true⟩)
    if start.column == 0 && atMarker start.rest && start.headIs (· == '-') then
      let first := (start.drop 3).stale.skip false
      if first.atEnd then (if closes fuel first then some (some .empty) else none)
      else (readRoot fuel first).map some
    else if directed then none
    else if start.rest.isEmpty then some none
    else if start.atEnd then none
    else (readRoot fuel start).map some
  else none

/-- The value of a text that holds at most one document; null when it holds none. -/
def load (t : Text) : Except LoadError Value :=
  match readDocument t with
  | none => .error .malformed
  | some none => .ok .null
  | some (some n) => n.toValue

end Yaml
end Scriptwright
