import Scriptwright.Script.Construct
import Scriptwright.Script.Condition
import Scriptwright.Conversion.Diagnostic
import Scriptwright.Conversion.Literal
/-!
# The outcome of a line

Each line becomes one line of the target, or two where a command has no counterpart, and at most one diagnostic.  A line
that is not understood becomes a comment, so every script has a conversion.
-/
namespace Scriptwright

/-- What a line became. -/
structure Outcome where
  kind : Kind
  lines : List Text
  diagnostic : Option Diagnostic := none
  deriving DecidableEq, Repr

namespace Outcome

/-- A truth value as the target writes it. -/
def boolWord (b : Bool) : Text := (if b then "True" else "False").toList

/-- The statement that reads a file into the data frame. -/
def readStatement (s : Settings) (argument : Text) : Text :=
  s.frameName ++ " = ".toList ++ s.sessionName ++ ".read.csv(".toList ++ Literal.write (Literal.unquote argument) ++
    ", header=".toList ++ boolWord s.csvHeader ++ [')']

/-- The statement that keeps the rows with a text. -/
def filterStatement (s : Settings) (argument : Text) : Text :=
  s.frameName ++ ".filter(".toList ++ s.frameName ++ ".value.contains(".toList ++
    Literal.write (Literal.unquote argument) ++ "))".toList

def warning (l : Line) (message : String) : Option Diagnostic :=
  some ⟨.warning, l.number, message.toList ++ l.text⟩

/-- The outcome of a line whose construct is `c`. -/
def ofConstruct (s : Settings) (l : Line) (c : Construct) : Outcome :=
  match c with
  | .blank => ⟨.blank, [l.raw], none⟩
  | .comment => ⟨.comment, [l.raw], none⟩
  | .assignment target value => ⟨.assignment, [target ++ " = ".toList ++ value], none⟩
  | .printLike payload => ⟨.printLike, ["print(".toList ++ Literal.payload payload ++ [')']], none⟩
  | .conditional word condition =>
    ⟨.conditional, [word.target ++ [' '] ++ Condition.normalize condition ++ [':']], none⟩
  | .forEach names items =>
    ⟨.forLoop, ["for ".toList ++ names ++ " in ".toList ++ Condition.dropOpener items ++ [':']], none⟩
  | .forCounting =>
    ⟨.forLoop, ["# ".toList ++ l.text ++ " - Manual conversion required".toList],
      warning l "Complex for loop requires manual review: "⟩
  | .whileLoop condition => ⟨.whileLoop, ["while ".toList ++ Condition.normalize condition ++ [':']], none⟩
  | .fileRead argument => ⟨.fileRead, [readStatement s argument], none⟩
  | .filterCommand argument => ⟨.filterCommand, [filterStatement s argument], none⟩
  | .unsupported command =>
    ⟨.unsupportedCommand,
      ["# Unsupported construct: ".toList ++ l.text,
       "# Log: \"Unsupported construct: ".toList ++ command ++ ['"']],
      some ⟨.unsupported, l.number, Text.upper command ++ " command: ".toList ++ l.text⟩⟩
  | .unclassified =>
    ⟨.unclassified, ["# ".toList ++ l.text], warning l "Line may need manual conversion: "⟩

/-- The outcome of a line. -/
def ofLine (s : Settings) (d : Dialect) (l : Line) : Outcome := ofConstruct s l (Construct.ofText s d l.text)

theorem ofConstruct_kind (s : Settings) (l : Line) (c : Construct) : (ofConstruct s l c).kind = c.kind := by
  cases c <;> rfl

end Outcome
end Scriptwright
