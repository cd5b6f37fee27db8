import Scriptwright.Value.Display
import Scriptwright.Text.Blank
import Scriptwright.Text.Case
/-!
# Target dialects and source languages

A conversion has a target, which decides what is emitted, and a hint about the language of the script, which is recorded
and decides nothing.  Both are asked for by name, in any case and with blanks around; a target may also be asked for by
its long name.  An unknown target is an error, an unknown hint is no hint.
-/
namespace Scriptwright

/-- What the converted program is written for. -/
inductive Dialect where
  | general
  | dataProcessing
  deriving DecidableEq, Repr

namespace Dialect

def all : List Dialect := [.general, .dataProcessing]

theorem mem_all (d : Dialect) : d ∈ all := by cases d <;> simp [all]

/-- The name by which a dialect is asked for. -/
def name : Dialect → Text
  | .general => "python".toList
  | .dataProcessing => "pyspark".toList

def longName : Dialect → Text
  | .general => "general_purpose".toList
  | .dataProcessing => "data_processing".toList

/-- The value that names no dialect. -/
structure Unknown where
  value : Value

def Unknown.message (u : Unknown) : Text := "Unknown target dialect: ".toList ++ u.value.quote

/-- The form of a value in which names are compared. -/
def key (v : Value) : Text := Text.lower (Text.trim v.plain)

def ofValue (v : Value) : Except Unknown Dialect :=
  match all.find? fun d => key v == d.name || key v == d.longName with
  | some d => .ok d
  | none => .error ⟨v⟩

end Dialect

/-- The language a script is said to be written in. -/
inductive Language where
  | auto
  | bash
  | perl
  | mixed
  deriving DecidableEq, Repr

namespace Language

def all : List Language := [.auto, .bash, .perl, .mixed]

theorem mem_all (l : Language) : l ∈ all := by cases l <;> simp [all]

def name : Language → Text
  | .auto => "auto".toList
  | .bash => "bash".toList
  | .perl => "perl".toList
  | .mixed => "mixed".toList

/-- The language named by a value; `auto` for any other value. -/
def ofValue (v : Value) : Language :=
  let key := if v.truthy then Dialect.key v else []
  (all.find? fun l => key == l.name).getD .auto

end Language
end Scriptwright
