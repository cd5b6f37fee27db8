import Scriptwright.Batch.Workspace
/-!
# Conversions to a dialect that is asked for by name

A name is looked up when there is something to convert and not before: a script that is missing, unreadable or blank is
rejected whatever dialect was asked for.  For a name that means nothing the scripts are gone through dry, and the first
one that would be converted raises the error.
-/
namespace Scriptwright
namespace Workspace

/-- A name that means nothing, asked for after this was logged. -/
structure Unnamed where
  log : Log
  unknown : Dialect.Unknown

def isRejected : Result → Bool
  | .rejected _ _ => true
  | .converted _ _ => false

/-- The turns, unless one of them is a conversion to a dialect that is not there. -/
def refuse (u : Dialect.Unknown) (r : Run) : Except Unnamed Run :=
  if r.results.all isRejected then .ok r
  else .error ⟨(r.turns.takeWhile fun t => isRejected t.2).flatMap (·.1), u⟩

def convertTextNamed (w : Workspace) (dialect : Value) (language : Language) (label t : Text) :
    Except Unnamed (Log × Result) :=
  match Dialect.ofValue dialect with
  | .ok d => .ok (w.convertText d language label t)
  | .error u =>
    match w.convertText .general language label t with
    | (log, .rejected l why) => .ok (log, .rejected l why)
    | (_, .converted _ _) => .error ⟨[], u⟩

/-- A file that is not come to is not asked a dialect for. -/
def convertFileNamed (w : Workspace) (dialect : Value) (language : Language) (dryRun : Bool) (disk : Disk)
    (file : Text) : Except Unreached (Except Unnamed Turn) :=
  match Dialect.ofValue dialect with
  | .ok d => (w.convertFile d language dryRun disk file).map .ok
  | .error u =>
    (w.convertFile .general language true disk file).map fun turn =>
      if isRejected turn.result then .ok turn else .error ⟨[], u⟩

/-- Whichever comes first ends the batch: a script that may not be looked at, or one to convert to a dialect that is not
there. -/
def scanNamed (w : Workspace) (dialect : Value) (language : Language) (dryRun : Bool) (disk : Disk)
    (extensions : List Text) (depth : Int) : Except Stop (Except Unnamed Run) :=
  match Dialect.ofValue dialect with
  | .ok d => (w.survey d language dryRun disk extensions depth).map .ok
  | .error u =>
    match w.survey .general language true disk extensions depth with
    | .ok run => .ok (refuse u run)
    | .error stop =>
      match refuse u stop.run with
      | .ok _ => .error stop
      | .error e => .ok (.error e)

end Workspace
end Scriptwright
