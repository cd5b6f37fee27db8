import Scriptwright.Files.Tree
import Scriptwright.Value.Display
/-!
# Disks

A disk is a tree of files with the operations on it.  An operation refuses what the tree does not allow, and each of
reading, making a directory, writing and renaming can also be made to fail by the disk itself (`Faults`), a write after
any number of bytes.  A failure leaves the tree as it was, except that an interrupted write leaves what it had written.

Even a look at a location can be denied, as it is in a directory that may not be searched or for a name that is too long.
Then no operation works there, and asking whether something stands there has no answer.

Operations follow the links on the way; reading and writing follow a link at the end too.
-/
namespace Scriptwright

/-- Why an operation is refused. -/
inductive Cause where
  | notFound
  | exists
  | notDirectory
  | isDirectory
  | tooManyLinks
  | other (number : Nat) (text : Text)
  deriving DecidableEq, Repr

namespace Cause

def number : Cause → Nat
  | .notFound => 2
  | .exists => 17
  | .notDirectory => 20
  | .isDirectory => 21
  | .tooManyLinks => 40
  | .other n _ => n

def text : Cause → Text
  | .notFound => "No such file or directory".toList
  | .exists => "File exists".toList
  | .notDirectory => "Not a directory".toList
  | .isDirectory => "Is a directory".toList
  | .tooManyLinks => "Too many levels of symbolic links".toList
  | .other _ t => t

/-- The cause tells that nothing is to be found, and no more. -/
def isAbsence (c : Cause) : Bool := [2, 9, 20, 40].contains c.number

end Cause

/-- A refused operation: the cause, the path, and the second path of a renaming. -/
structure FileError where
  cause : Cause
  path : Path
  target : Option Path := none
  deriving DecidableEq, Repr

def FileError.message (e : FileError) : Text :=
  "[Errno ".toList ++ Text.ofNat e.cause.number ++ "] ".toList ++ e.cause.text ++ ": ".toList ++
    Value.quoteText e.path.toText ++
    match e.target with
    | none => []
    | some p => " -> ".toList ++ Value.quoteText p.toText

/-! ## Places -/

namespace Tree

/-- Why nothing stands at a location free of links. -/
def absence (t : Tree) (l : Location) : Cause :=
  if (Location.way l).any t.isFile then .notDirectory else .notFound

/-- Where an existing location is, links followed. -/
def find (t : Tree) (l : Location) : Except Cause Location :=
  match t.follow? [] l with
  | none => .error .tooManyLinks
  | some q => if (t.get? q).isSome then .ok q else .error (t.absence q)

/-- Where the last name of a location stands or would stand, links followed on the way to it. -/
def place (t : Tree) (l : Location) : Except Cause Location :=
  match l.getLast? with
  | none => .ok []
  | some n =>
    match t.find l.dropLast with
    | .error c => .error c
    | .ok q => if t.isDirectory q then .ok (q ++ [n]) else .error .notDirectory

/-- Something stands there, links followed. -/
def present (t : Tree) (l : Location) : Bool := (t.find l).toOption.isSome

/-- A directory stands there, links followed. -/
def leadsToDirectory (t : Tree) (l : Location) : Bool := (t.find l).toOption.any t.isDirectory

/-- A file stands there, links followed. -/
def leadsToFile (t : Tree) (l : Location) : Bool := (t.find l).toOption.any t.isFile

end Tree

/-! ## Disks -/

/-- How a write fails: after how many bytes, none at all if the file is not even opened. -/
structure Interruption where
  kept : Option Nat
  cause : Cause
  deriving DecidableEq, Repr

/-- Why a look is denied, which is not that nothing is to be found. -/
structure Denial where
  cause : Cause
  telling : cause.isAbsence = false
  deriving DecidableEq, Repr

/-- The failures that a disk has in store, by location. -/
structure Faults where
  looking : Location → Option Denial := fun _ => none
  reading : Location → Option Cause := fun _ => none
  makingDirectory : Location → Option Cause := fun _ => none
  writing : Location → Option Interruption := fun _ => none
  moving : Location → Option Cause := fun _ => none

namespace Faults

/-! What cannot be looked at cannot be worked on either. -/

def denial? (f : Faults) (l : Location) : Option Cause := (f.looking l).map (·.cause)

def onReading (f : Faults) (l : Location) : Option Cause := (f.denial? l).or (f.reading l)

def onMaking (f : Faults) (l : Location) : Option Cause := (f.denial? l).or (f.makingDirectory l)

def onWriting (f : Faults) (l : Location) : Option Interruption := ((f.denial? l).map (⟨none, ·⟩)).or (f.writing l)

def onMoving (f : Faults) (l : Location) : Option Cause := (f.denial? l).or (f.moving l)

end Faults

structure Disk where
  tree : Tree
  /-- The directories that are not to be written to. -/
  readOnly : List Location := []
  faults : Faults := {}

namespace Disk

/-- The error of looking at a location, if that is denied. -/
def denial? (d : Disk) (l : Location) : Option FileError := (d.faults.denial? l).map fun c => ⟨c, .ofLocation l, none⟩

def read (d : Disk) (l : Location) : Except FileError (List UInt8) :=
  match d.faults.onReading l with
  | some c => .error ⟨c, .ofLocation l, none⟩
  | none =>
    match d.tree.find l with
    | .error c => .error ⟨c, .ofLocation l, none⟩
    | .ok q =>
      match d.tree.get? q with
      | some (.file bytes) => .ok bytes
      | _ => .error ⟨.isDirectory, .ofLocation l, none⟩

def makeDir (d : Disk) (l : Location) : Except FileError Disk :=
  match d.faults.onMaking l with
  | some c => .error ⟨c, .ofLocation l, none⟩
  | none =>
    match d.tree.place l with
    | .error c => .error ⟨c, .ofLocation l, none⟩
    | .ok q =>
      if (d.tree.get? q).isSome then .error ⟨.exists, .ofLocation l, none⟩
      else .ok { d with tree := d.tree.put q .directory }

/-- A directory that could not be made because it is there already, as a look tells. -/
def forgive (l : Location) : Except FileError Disk → Disk → Disk × Option FileError
  | .ok d', _ => (d', none)
  | .error e, d =>
    (d, if e.cause ≠ .notFound ∧ d.denial? l = none ∧ d.tree.leadsToDirectory l then none else some e)

/-- The directory whose names are given from the last to the first, its missing parents before it. -/
def makeDirsUp (d : Disk) : List Text → Disk × Option FileError
  | [] => forgive [] (d.makeDir []) d
  | n :: up =>
    let l := (n :: up).reverse
    match d.makeDir l with
    | .error ⟨.notFound, _, _⟩ =>
      match makeDirsUp d up with
      | (d', some e) => (d', some e)
      | (d', none) => forgive l (d'.makeDir l) d'
    | r => forgive l r d

/-- The directory `l` and its missing parents. -/
def makeDirs (d : Disk) (l : Location) : Disk × Option FileError := d.makeDirsUp l.reverse

/-- Where a file is written: a link at the end is followed, and what is there is no directory. -/
def writePlace (t : Tree) (l : Location) : Except Cause Location :=
  match t.follow? [] l with
  | none => .error .tooManyLinks
  | some q =>
    match t.get? q with
    | some .directory => .error .isDirectory
    | some _ => .ok q
    | none => if t.isDirectory q.dropLast then .ok q else .error (t.absence q)

def write (d : Disk) (l : Location) (bytes : List UInt8) : Disk × Option FileError :=
  match writePlace d.tree l with
  | .error c => (d, some ⟨c, .ofLocation l, none⟩)
  | .ok q =>
    match d.faults.onWriting l with
    | none => ({ d with tree := d.tree.put q (.file bytes) }, none)
    | some ⟨none, c⟩ => (d, some ⟨c, .ofLocation l, none⟩)
    | some ⟨some n, c⟩ => ({ d with tree := d.tree.put q (.file (bytes.take n)) }, some ⟨c, .ofLocation l, none⟩)

/-- What stands at `l` moved to `l'`, in the place of what stands there; a directory is not replaced. -/
def rename (d : Disk) (l l' : Location) : Except FileError Disk :=
  let refuse (c : Cause) : Except FileError Disk := .error ⟨c, .ofLocation l, some (.ofLocation l')⟩
  match d.faults.onMoving l' with
  | some c => refuse c
  | none =>
    match d.tree.place l, d.tree.place l' with
    | .error c, _ => refuse c
    | .ok _, .error c => refuse c
    | .ok q, .ok q' =>
      match d.tree.get? q with
      | none => refuse .notFound
      | some e =>
        if d.tree.isDirectory q' then refuse .isDirectory
        else .ok { d with tree := (d.tree.erase q).put q' e }

/-- What stands at `l` taken away, unless it is a directory. -/
def unlink (d : Disk) (l : Location) : Except FileError Disk :=
  match d.tree.place l with
  | .error c => .error ⟨c, .ofLocation l, none⟩
  | .ok q =>
    match d.tree.get? q with
    | none => .error ⟨.notFound, .ofLocation l, none⟩
    | some .directory => .error ⟨.isDirectory, .ofLocation l, none⟩
    | some _ => .ok { d with tree := d.tree.erase q }

end Disk
end Scriptwright
