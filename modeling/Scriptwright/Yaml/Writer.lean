import Scriptwright.Value.Display
import Scriptwright.Yaml.Style
/-!
# Writing YAML

Mappings and lists are written in block style, an entry or an item to a line: the items of a list two columns deeper than
the key that holds it, and an empty list or mapping in brackets.  `column` is where the entries of the mapping stand.
-/
namespace Scriptwright
namespace Yaml

/-- A value that takes no lines of its own; further lines of a text are indented below its key. -/
def writeInline (column : Nat) : Value → Text
  | .null => "null".toList
  | .bool b => (if b then "true" else "false").toList
  | .int n => Text.ofInt n
  | .real r => r.show
  | .moment m => m.plain
  | .text t => writeText (column + 2) t
  | .list _ => "[]".toList
  | .map _ => "\x7b\x7d".toList

def spaces (n : Nat) : Text := List.replicate n ' '

mutual

/-- What follows the colon of a key at the given column. -/
def writeAfterKey (column : Nat) : Value → Text
  | .list (v :: vs) => '\n' :: writeItems (column + 2) (v :: vs)
  | .map (e :: es) => '\n' :: spaces (column + 2) ++ writeEntries (column + 2) (e :: es)
  | v => ' ' :: writeInline column v ++ ['\n']

/-- Items whose dashes stand at the given column. -/
def writeItems (column : Nat) : List Value → Text
  | [] => []
  | .map (e :: es) :: vs => spaces column ++ "- ".toList ++ writeEntries (column + 2) (e :: es) ++ writeItems column vs
  | .list (x :: xs) :: vs => spaces column ++ "-\n".toList ++ writeItems (column + 2) (x :: xs) ++ writeItems column vs
  | v :: vs => spaces column ++ "- ".toList ++ writeInline column v ++ ['\n'] ++ writeItems column vs

/-- Entries whose keys stand at the given column; the first key follows what is written already. -/
def writeEntries (column : Nat) : List (Value × Value) → Text
  | [] => []
  | [(k, v)] => writeInline column k ++ [':'] ++ writeAfterKey column v
  | (k, v) :: es =>
    writeInline column k ++ [':'] ++ writeAfterKey column v ++ spaces column ++ writeEntries column es

end

/-- The document of a value. -/
def write : Value → Text
  | .map (e :: es) => writeEntries 0 (e :: es)
  | .list (v :: vs) => writeItems 0 (v :: vs)
  | v => writeInline 0 v ++ ['\n']

end Yaml
end Scriptwright
