import Scriptwright.Text.Basic
import Scriptwright.Number.Decimal
import Scriptwright.Value.Moment
/-!
# Data values

The values that a document of a data format holds: JSON documents, YAML documents, and reports on their way to either.
A mapping is the list of its entries, so the order in which they were written is part of the value.
-/
namespace Scriptwright

inductive Value where
  | null
  | bool (b : Bool)
  | int (n : Int)
  | real (r : Number.Real)
  | moment (m : Moment)
  | text (t : Text)
  | list (items : List Value)
  | map (entries : List (Value × Value))
  deriving Inhabited

namespace Value

/-- A mapping whose keys are texts. -/
def record (fields : List (String × Value)) : Value := .map (fields.map fun f => (.text f.1.toList, f.2))

def ofString (s : String) : Value := .text s.toList

def ofNat (n : Nat) : Value := .int n

/-- The value is a text equal to `t`. -/
def isText (t : Text) : Value → Bool
  | .text s => s == t
  | _ => false

def asText? : Value → Option Text
  | .text t => some t
  | _ => none

/-- The value of the last entry whose key is the text `key`. -/
def field? (key : Text) : Value → Option Value
  | .map entries => (entries.reverse.find? fun e => e.1.isText key).map (·.2)
  | _ => none

/-- False are null, false, zero, and the empty text, list and mapping. -/
def truthy : Value → Bool
  | .null => false
  | .bool b => b
  | .int n => n != 0
  | .real r => !r.isZero
  | .moment _ => true
  | .text t => !t.isEmpty
  | .list items => !items.isEmpty
  | .map entries => !entries.isEmpty

end Value
end Scriptwright
