import Scriptwright.Log
import Scriptwright.Text.Blank
import Scriptwright.Value.Display
/-!
# Depths from values

The depth to which a workspace is searched may be given as any value.  A whole number is taken as it is, a truth value
counts zero or one, a real value loses its fraction, and a text is read as a numeral.  Anything else leaves the default,
with a warning; only an infinite depth is refused.
-/
namespace Scriptwright
namespace Depth

/-- What a value is as a whole number. -/
inductive Reading where
  | whole (n : Int)
  | none
  | infinite
  deriving DecidableEq, Repr

/-- A real value without its fraction. -/
def ofReal : Number.Real → Reading
  | .undefined => .none
  | .infinite _ => .infinite
  | .decimal d =>
    match d.nearest? with
    | Option.none => .infinite
    | some x => .whole (if d.negative then -(x.floor : Int) else x.floor)

def read : Value → Reading
  | .int n => .whole n
  | .bool b => .whole (if b then 1 else 0)
  | .real r => ofReal r
  | .text t =>
    match Text.int? (Text.trim t) with
    | some n => .whole n
    | Option.none => .none
  | _ => .none

def fallbackNote (v : Value) : Log.Entry :=
  ⟨.warning, .engine, "Invalid max_depth '".toList ++ v.plain ++ "'. Falling back to default: 10".toList⟩

/-- The refusal of an infinite depth. -/
def infiniteMessage : Text := "cannot convert float infinity to integer".toList

/-- The depth that a value gives, with what is logged; none for an infinite one. -/
def ofValue (fallback : Int) (v : Value) : Option (Log × Int) :=
  match read v with
  | .whole n => some ([], n)
  | .none => some ([fallbackNote v], fallback)
  | .infinite => Option.none

end Depth
end Scriptwright
