import Scriptwright.Value.Display
/-!
# Writing JSON

Every character that has no printed form in ASCII is written by its UTF-16 units, so a document is plain ASCII.  `write` sets each item and
each member on a line of its own, two spaces deeper than what holds it; `compact` writes one line.
-/
namespace Scriptwright
namespace Json

/-- `\u` and four digits. -/
def unitEscape (n : Nat) : Text := '\\' :: 'u' :: Text.hexLower 4 n

/-- One character of a string. -/
def escapeChar (c : Char) : Text :=
  if c = '"' then ['\\', '"']
  else if c = '\\' then ['\\', '\\']
  else if c = '\n' then ['\\', 'n']
  else if c = '\r' then ['\\', 'r']
  else if c = '\t' then ['\\', 't']
  else if c = '\x0c' then ['\\', 'f']
  else if c = '\x08' then ['\\', 'b']
  else if 0x20 ≤ c.toNat && c.toNat < 0x7F then [c]
  else if c.toNat < 0x10000 then unitEscape c.toNat
  else
    let n := c.toNat - 0x10000
    unitEscape (0xD800 + n / 0x400) ++ unitEscape (0xDC00 + n % 0x400)

def writeString (t : Text) : Text := '"' :: t.flatMap escapeChar ++ ['"']

/-- A value that holds no other. -/
def writeAtom : Value → Text
  | .null => "null".toList
  | .bool b => (if b then "true" else "false").toList
  | .int n => Text.ofInt n
  | .real r => r.show
  | .moment m => writeString m.plain
  | .text t => writeString t
  | .list _ => "[]".toList
  | .map _ => "\x7b\x7d".toList

/-- A member's name. -/
def writeKey : Value → Text
  | .text t => writeString t
  | v => writeString v.plain

/-- A new line at the given depth. -/
def newLine (depth : Nat) : Text := '\n' :: List.replicate (2 * depth) ' '

mutual

/-- The value at the given depth. -/
def writeAt (depth : Nat) : Value → Text
  | .list (v :: vs) => '[' :: newLine (depth + 1) ++ writeItems (depth + 1) (v :: vs) ++ newLine depth ++ [']']
  | .map (e :: es) =>
    '\x7b' :: newLine (depth + 1) ++ writeMembers (depth + 1) (e :: es) ++ newLine depth ++ ['\x7d']
  | v => writeAtom v

def writeItems (depth : Nat) : List Value → Text
  | [] => []
  | [v] => writeAt depth v
  | v :: vs => writeAt depth v ++ [','] ++ newLine depth ++ writeItems depth vs

def writeMembers (depth : Nat) : List (Value × Value) → Text
  | [] => []
  | [(k, v)] => writeKey k ++ ": ".toList ++ writeAt depth v
  | (k, v) :: es => writeKey k ++ ": ".toList ++ writeAt depth v ++ [','] ++ newLine depth ++ writeMembers depth es

end

/-- The document of a value. -/
def write (v : Value) : Text := writeAt 0 v

mutual

/-- The value on one line. -/
def compact : Value → Text
  | .list items => '[' :: compactItems items ++ [']']
  | .map entries => '\x7b' :: compactMembers entries ++ ['\x7d']
  | v => writeAtom v

def compactItems : List Value → Text
  | [] => []
  | [v] => compact v
  | v :: vs => compact v ++ [','] ++ compactItems vs

def compactMembers : List (Value × Value) → Text
  | [] => []
  | [(k, v)] => writeKey k ++ [':'] ++ compact v
  | (k, v) :: es => writeKey k ++ [':'] ++ compact v ++ [','] ++ compactMembers es

end

end Json
end Scriptwright
