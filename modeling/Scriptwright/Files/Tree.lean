import Scriptwright.Files.Path
/-!
# Trees of files

A tree says for each location whether a directory, a file or a link stands there.  The root is a directory that is not
listed.

`resolve` replaces the links on the way to a location.  A name that is missing stands for itself, and so does one below
a file, so every location has a resolution, existing or not; the only trouble is a link that leads back to itself while
it is being followed.  Then the names from that link on are kept as they are.  A link that is being followed is never
entered again, so the walk is no deeper than there are links.
-/
namespace Scriptwright

/-- What stands at a location. -/
inductive Entry where
  | directory
  | file (bytes : List UInt8)
  | link (target : Text)
  deriving DecidableEq, Repr

structure Tree where
  entries : List (Location × Entry) := []
  deriving DecidableEq, Repr

namespace Tree

def get? (t : Tree) (l : Location) : Option Entry :=
  if l = [] then some .directory else (t.entries.find? fun e => e.1 == l).map (·.2)

/-- The tree with `e` at `l`, in the place of what stood there. -/
def put (t : Tree) (l : Location) (e : Entry) : Tree :=
  if t.entries.any fun x => x.1 == l then ⟨t.entries.map fun x => if x.1 == l then (l, e) else x⟩
  else ⟨t.entries ++ [(l, e)]⟩

/-- The tree without what stands at `l`. -/
def erase (t : Tree) (l : Location) : Tree := ⟨t.entries.filter fun e => e.1 != l⟩

/-- The tree without what stands at `l` or below. -/
def prune (t : Tree) (l : Location) : Tree := ⟨t.entries.filter fun e => !l.isPrefixOf e.1⟩

/-- Every directory on the way to `l`, and `l` itself, made where nothing stands. -/
def ensure (t : Tree) (l : Location) : Tree :=
  (Location.way l).foldl (fun t' d => if (t'.get? d).isNone then t'.put d .directory else t') t

def isDirectory (t : Tree) (l : Location) : Bool := t.get? l == some .directory

def isFile (t : Tree) (l : Location) : Bool :=
  match t.get? l with
  | some (.file _) => true
  | _ => false

def isLink : Entry → Bool
  | .link _ => true
  | _ => false

/-! ## Links -/

/-- Where a walk has come to: a location free of links, or one that was given up at a link. -/
inductive Walk where
  | reached (l : Location)
  | looping (l : Location)
  deriving DecidableEq, Repr

/-- The names of a path, read without regard to links. -/
def lexical (names : List Text) : Location :=
  names.foldl (fun l n => if n = "..".toList then l.dropLast else l ++ [n]) []

/-- One name further from `l`, where `onLink` continues at the target of a link. -/
def stepFrom (t : Tree) (opened : List Location) (onLink : Location → Path → Walk) (l : Location) (n : Text) : Walk :=
  if n = "..".toList then .reached l.dropLast
  else
    match t.get? (l ++ [n]) with
    | some (.link target) =>
      if (l ++ [n]) ∈ opened then .looping (l ++ [n]) else onLink (l ++ [n]) (Path.ofText target)
    | _ => .reached (l ++ [n])

/-- The walk along `names` from `start`, through links at most `depth` deep; `opened` are the links being followed. -/
def walk (t : Tree) : Nat → List Location → Location → List Text → Walk
  | 0, _, start, names => .looping (start ++ names)
  | depth + 1, opened, start, names =>
    names.foldl
      (fun w n =>
        match w with
        | .looping l => .looping (l ++ [n])
        | .reached l =>
          stepFrom t opened
            (fun link target => walk t depth (link :: opened) (if target.isAbsolute then [] else l) target.parts) l n)
      (.reached start)

def linkCount (t : Tree) : Nat := (t.entries.filter fun e => isLink e.2).length

/-- The location of a path without links; `none` where a link leads back to itself. -/
def follow? (t : Tree) (start : Location) (names : List Text) : Option Location :=
  match walk t (t.linkCount + 1) [] start names with
  | .reached l => some l
  | .looping _ => none

/-- The location that a path names, existing or not, seen from the directory `start`.  Where a link leads back to
itself the rest is read without regard to links; it is an error, with that location, if the trouble is still there. -/
def resolve (t : Tree) (start : Location) (p : Path) : Except Location Location :=
  match walk t (t.linkCount + 1) [] (if p.isAbsolute then [] else start) p.parts with
  | .reached l => .ok l
  | .looping l =>
    let l' := lexical l
    match follow? t [] l' with
    | some _ => .ok l'
    | none => .error l'

end Tree
end Scriptwright
