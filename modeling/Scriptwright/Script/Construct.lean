import Scriptwright.Dialect
import Scriptwright.Script.Line
import Scriptwright.Script.Assignment
import Scriptwright.Script.Command
import Scriptwright.Settings.Basic
/-!
# Constructs

Every line is one construct.  A table of rules is gone through in order, the first rule that recognises the line decides,
and a line that no rule recognises is unclassified.  A rule returns the parts of the line that its conversion needs, so
what a rule saw is never looked for a second time.  The rules for reading and filtering files count for the data
processing dialect only; elsewhere such a line falls through to the rules below them.
-/
namespace Scriptwright

/-- The kinds of construct. -/
inductive Kind where
  | blank
  | comment
  | assignment
  | printLike
  | conditional
  | forLoop
  | whileLoop
  | fileRead
  | filterCommand
  | unsupportedCommand
  | unclassified
  deriving DecidableEq, Repr

namespace Kind

/-- All kinds, in the order in which they are tried. -/
def all : List Kind :=
  [.blank, .comment, .assignment, .printLike, .conditional, .forLoop, .whileLoop, .fileRead, .filterCommand,
   .unsupportedCommand, .unclassified]

theorem mem_all (k : Kind) : k ∈ all := by cases k <;> simp [all]

def name : Kind → Text
  | .blank => "blank".toList
  | .comment => "comment".toList
  | .assignment => "assignment".toList
  | .printLike => "print_like".toList
  | .conditional => "conditional".toList
  | .forLoop => "for_loop".toList
  | .whileLoop => "while_loop".toList
  | .fileRead => "file_read".toList
  | .filterCommand => "filter_command".toList
  | .unsupportedCommand => "unsupported_command".toList
  | .unclassified => "unclassified".toList

def ofName? (n : Text) : Option Kind := all.find? fun k => k.name == n

end Kind

/-- The words that begin a conditional header. -/
inductive BranchWord where
  | ifWord
  | elifWord
  | elsifWord
  deriving DecidableEq, Repr

namespace BranchWord

def all : List BranchWord := [.ifWord, .elifWord, .elsifWord]

def source : BranchWord → Text
  | .ifWord => "if".toList
  | .elifWord => "elif".toList
  | .elsifWord => "elsif".toList

/-- The word of the target: both spellings of the second branch become one. -/
def target : BranchWord → Text
  | .ifWord => "if".toList
  | .elifWord => "elif".toList
  | .elsifWord => "elif".toList

end BranchWord

/-- A recognised line with the parts its conversion needs. -/
inductive Construct where
  | blank
  | comment
  | assignment (target value : Text)
  | printLike (payload : Text)
  | conditional (word : BranchWord) (condition : Text)
  | forEach (names items : Text)
  | forCounting
  | whileLoop (condition : Text)
  | fileRead (argument : Text)
  | filterCommand (argument : Text)
  | unsupported (command : Text)
  | unclassified
  deriving DecidableEq, Repr

namespace Construct

def kind : Construct → Kind
  | .blank => .blank
  | .comment => .comment
  | .assignment _ _ => .assignment
  | .printLike _ => .printLike
  | .conditional _ _ => .conditional
  | .forEach _ _ => .forLoop
  | .forCounting => .forLoop
  | .whileLoop _ => .whileLoop
  | .fileRead _ => .fileRead
  | .filterCommand _ => .filterCommand
  | .unsupported _ => .unsupportedCommand
  | .unclassified => .unclassified

/-- What follows a keyword and one blank. -/
def afterKeyword? (word t : Text) : Option Text :=
  if t.startsWith word then
    match t.drop word.length with
    | [] => none
    | c :: rest => if Text.isBlank c then some rest else none
  else none

/-- What follows the print keyword; `echo` may stand alone. -/
def printPayload? (t : Text) : Option Text :=
  if t = "echo".toList then some []
  else (afterKeyword? "echo".toList t).orElse fun _ => afterKeyword? "print".toList t

/-- A loop over the items after the first ` in `, or one that counts. -/
def loopParts (t : Text) : Construct :=
  match Text.cut? " in ".toList t with
  | none => .forCounting
  | some (head, items) => .forEach (Text.trim ((afterKeyword? "for".toList head).getD head)) items

/-! ## Rules -/

def blank? : Text → Option Construct
  | [] => some .blank
  | _ => none

def comment? : Text → Option Construct
  | '#' :: _ => some .comment
  | _ => none

def assignment? (t : Text) : Option Construct := (Assignment.split? t).map fun p => .assignment p.1 p.2

def printLike? (t : Text) : Option Construct := (printPayload? t).map .printLike

def conditional? (t : Text) : Option Construct :=
  BranchWord.all.findSome? fun w => (afterKeyword? w.source t).map (.conditional w)

def forLoop? (t : Text) : Option Construct := (afterKeyword? "for".toList t).map fun _ => loopParts t

def whileLoop? (t : Text) : Option Construct := (afterKeyword? "while".toList t).map .whileLoop

def fileRead? (t : Text) : Option Construct := (Command.argument? "cat".toList t).map .fileRead

def filterCommand? (t : Text) : Option Construct := (Command.argument? "grep".toList t).map .filterCommand

def unsupported? (commands : List Text) (t : Text) : Option Construct :=
  (Command.find? commands t).map fun p => .unsupported p.1

end Construct

/-- A rule of the table: the kind it stands for, whether it counts for the data processing dialect only, and what it
recognises. -/
structure Rule where
  kind : Kind
  dataOnly : Bool := false
  recognise : Text → Option Construct

namespace Rule

def apply (r : Rule) (d : Dialect) (t : Text) : Option Construct :=
  if r.dataOnly && d != .dataProcessing then none else r.recognise t

open Construct in
/-- The rules in the order in which they are tried. -/
def table (s : Settings) : List Rule :=
  [⟨.blank, false, blank?⟩,
   ⟨.comment, false, comment?⟩,
   ⟨.assignment, false, assignment?⟩,
   ⟨.printLike, false, printLike?⟩,
   ⟨.conditional, false, conditional?⟩,
   ⟨.forLoop, false, forLoop?⟩,
   ⟨.whileLoop, false, whileLoop?⟩,
   ⟨.fileRead, true, fileRead?⟩,
   ⟨.filterCommand, true, filterCommand?⟩,
   ⟨.unsupportedCommand, false, unsupported? s.unsupportedCommands⟩]

/-- The kinds in order of priority, the unclassified lines last. -/
def priority (s : Settings) : List Kind := (table s).map (·.kind) ++ [.unclassified]

end Rule

/-- The construct of a line. -/
def Construct.ofText (s : Settings) (d : Dialect) (t : Text) : Construct :=
  ((Rule.table s).findSome? fun r => r.apply d t).getD .unclassified

/-- The kind of a line. -/
def Line.kind (s : Settings) (d : Dialect) (l : Line) : Kind := (Construct.ofText s d l.text).kind

end Scriptwright
