import Scriptwright.Value.Display
import Scriptwright.Yaml.Scalar
/-!
# Nodes

What the text of a document says before its scalars are given a meaning: a scalar is plain or quoted, a mapping is the
list of its entries.  `toValue` gives the meanings, merges what a merge key names in front of the entries around it, and
refuses a key that stands twice.
-/
namespace Scriptwright
namespace Yaml

inductive Node where
  | plain (t : Text)
  | quoted (t : Text)
  | list (items : List Node)
  | map (entries : List (Node × Node))

/-- Why a document has no value. -/
inductive LoadError where
  | malformed
  | badScalar (e : BadScalar)
  deriving DecidableEq, Repr

namespace Node

/-- The node of what is left out. -/
def empty : Node := .plain []

/-- The form in which whole and real numbers and truth values are compared as keys. -/
def numberKey? : Value → Option Text
  | .bool b => some (if b then "1.0".toList else "0.0".toList)
  | .int n => some (Text.ofInt n ++ ".0".toList)
  | .real r => some r.show
  | _ => none

/-- Whether two keys are the same. -/
def sameKey (a b : Value) : Bool :=
  match numberKey? a, numberKey? b with
  | some x, some y => x == y
  | none, none =>
    match a, b with
    | .null, .null => true
    | .text s, .text t => s == t
    | .moment m, .moment n => m == n
    | .list xs, .list ys => Value.quote (.list xs) == Value.quote (.list ys)
    | _, _ => false
  | _, _ => false

/-- A mapping cannot be a key. -/
def isKey : Value → Bool
  | .map _ => false
  | _ => true

/-- The entries with one more; a key that is there already keeps its place. -/
def put (key value : Value) : List (Value × Value) → List (Value × Value)
  | [] => [(key, value)]
  | (k, v) :: es => if sameKey k key then (k, value) :: es else (k, v) :: put key value es

def isMergeKey : Node → Bool
  | .plain t => t == "<<".toList
  | _ => false

/-- The meaning of a plain scalar as a value. -/
def scalarValue (t : Text) : Except LoadError Value :=
  match meaning t with
  | .value v => .ok v
  | .bad e => .error (.badScalar e)
  | _ => .error .malformed

/-- A list of the entries to merge, from one mapping or a list of them, of which an earlier one wins. -/
def mergedFrom : Value → Except LoadError (List (Value × Value))
  | .map es => .ok es
  | .list vs => vs.reverse.foldlM (fun acc v =>
      match v with
      | .map es => .ok (acc ++ es)
      | _ => .error .malformed) []
  | _ => .error .malformed

/-- No key stands twice. -/
def keysDistinct : List (Value × Value) → Bool
  | [] => true
  | e :: es => !(es.any fun x => sameKey e.1 x.1) && keysDistinct es

/-- Entries as a mapping: without a merge no key may stand twice, with one a later entry wins. -/
def gather (merged : Option (List (Value × Value))) (entries : List (Value × Value)) : Except LoadError Value :=
  match merged with
  | some ms => .ok (.map ((ms ++ entries).foldl (fun acc e => put e.1 e.2 acc) []))
  | none => if keysDistinct entries then .ok (.map entries) else .error .malformed

mutual

def toValue : Node → Except LoadError Value
  | .plain t => scalarValue t
  | .quoted t => .ok (.text t)
  | .list items => (itemValues items).map .list
  | .map entries => do
    let (merged, es) ← entryValues entries
    gather merged es

def itemValues : List Node → Except LoadError (List Value)
  | [] => .ok []
  | n :: ns => do
    let v ← toValue n
    let vs ← itemValues ns
    return v :: vs

/-- The entries to merge, if there is a merge key, and the others. -/
def entryValues : List (Node × Node) → Except LoadError (Option (List (Value × Value)) × List (Value × Value))
  | [] => .ok (none, [])
  | (k, n) :: es => do
    if isMergeKey k then
      let v ← toValue n
      let ms ← mergedFrom v
      let (merged, rest) ← entryValues es
      return (some (ms ++ merged.getD []), rest)
    else
      let key ← match k with
        | .plain ['='] => Except.ok (Value.text ['='])
        | k => toValue k
      let value ← toValue n
      if isKey key then
        let (merged, rest) ← entryValues es
        return (merged, (key, value) :: rest)
      else .error .malformed

end

end Node
end Yaml
end Scriptwright
