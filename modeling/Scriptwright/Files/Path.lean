import Scriptwright.Text.Basic
/-!
# Paths

A path is an anchor and the names below it.  Reading one drops empty names and `.`, and keeps `..`: what `..` means
depends on links, which only a tree of files knows.  Two slashes at the start are an anchor of their own, three or more
are one.

The suffix of a name starts at its last dot, unless that is the first or the last character; the stem is what stands
before the suffix.
-/
namespace Scriptwright

/-! ## Names -/

namespace Name

/-- What stands before and after the last dot of a name. -/
def lastDot? (n : Text) : Option (Text × Text) :=
  match n.reverse.span (· != '.') with
  | (_, []) => none
  | (after, _ :: before) => some (before.reverse, after.reverse)

/-- The stem and the suffix; the suffix holds its dot. -/
def split (n : Text) : Text × Text :=
  match lastDot? n with
  | some (before, after) => if before.isEmpty || after.isEmpty then (n, []) else (before, '.' :: after)
  | none => (n, [])

def stem (n : Text) : Text := (split n).1

def suffix (n : Text) : Text := (split n).2

end Name

/-! ## Paths -/

/-- Where a path starts. -/
inductive Anchor where
  /-- At a place that the reader supplies. -/
  | here
  | root
  | doubleRoot
  deriving DecidableEq, Repr

def Anchor.toText : Anchor → Text
  | .here => []
  | .root => "/".toList
  | .doubleRoot => "//".toList

/-- A place below the root: the names on the way to it. -/
abbrev Location := List Text

/-- Texts by the code points of their characters, the shorter of two first where one begins the other. -/
def Name.atMost : Text → Text → Bool
  | [], _ => true
  | _ :: _, [] => false
  | a :: as, b :: bs => if a = b then Name.atMost as bs else decide (a.toNat < b.toNat)

/-- Places by their names from the root down. -/
def Location.atMost : Location → Location → Bool
  | [], _ => true
  | _ :: _, [] => false
  | a :: as, b :: bs => if a = b then Location.atMost as bs else Name.atMost a b

/-- The places on the way to `l`, from the root to `l` itself. -/
def Location.way (l : Location) : List Location := (List.range (l.length + 1)).map l.take

structure Path where
  anchor : Anchor
  parts : List Text
  deriving DecidableEq, Repr

namespace Path

def anchorOf (t : Text) : Anchor :=
  match (t.takeWhile (· == '/')).length with
  | 0 => .here
  | 2 => .doubleRoot
  | _ => .root

def ofText (t : Text) : Path :=
  ⟨anchorOf t, (Text.pieces '/' t).filter fun p => !p.isEmpty && p != ".".toList⟩

/-- The path with nothing in it is written as a dot. -/
def toText (p : Path) : Text :=
  if p.anchor = .here ∧ p.parts = [] then ".".toList
  else p.anchor.toText ++ List.intercalate "/".toList p.parts

def ofLocation (l : Location) : Path := ⟨.root, l⟩

/-- `q` seen from `p`. -/
def join (p q : Path) : Path :=
  match q.anchor with
  | .here => ⟨p.anchor, p.parts ++ q.parts⟩
  | _ => q

/-- The last name, empty where there is none. -/
def name (p : Path) : Text := p.parts.getLast?.getD []

def parent (p : Path) : Path := { p with parts := p.parts.dropLast }

def isAbsolute (p : Path) : Bool := p.anchor != .here

/-- What is left of `p` below `base`. -/
def below? (base p : Path) : Option (List Text) :=
  if p.anchor = base.anchor ∧ base.parts.isPrefixOf p.parts then some (p.parts.drop base.parts.length) else none

end Path
end Scriptwright
