import Scriptwright.Text.Digit
import Scriptwright.Value.Display
/-!
# Reading an argument list

A parser knows options and one operand.  First every argument is given a reading of its own: an option, possibly with a
value attached, an option that nobody knows, the separator `--`, or a plain argument.  After the separator all is plain.
A long option may be shortened as long as it stays the only one; short options that take no value may be written as one.

Then the arguments are consumed from left to right.  An option takes the plain arguments that follow it, as many as it
asks for; the operand takes the first ones that no option took, one of them or all the rest.  What nobody takes is left
over.  Options act when they are met, so one that stops the program does so before a later mistake is seen.
-/
namespace Scriptwright
namespace Cli

/-- Why a program does not get to work. -/
inductive Halt where
  /-- What was asked for is printed, and that is all. -/
  | printed (text : Text)
  /-- The arguments are refused by a program. -/
  | refused (program usage message : Text)
  deriving DecidableEq, Repr

/-- How many values an option takes. -/
inductive Arity where
  | zero
  | one
  | some
  deriving DecidableEq, Repr

/-- An option: its names, its values, and what it does to the arguments read so far. -/
structure Switch (σ : Type) where
  names : List Text
  arity : Arity
  choices : List Text := []
  act : List Text → σ → Except Halt σ

/-- The names of an option as they are shown. -/
def Switch.title {σ : Type} (s : Switch σ) : Text := List.intercalate "/".toList s.names

/-- A program's options and its operand. -/
structure Parser (σ : Type) where
  program : Text
  usage : Text
  switches : List (Switch σ)
  operand : Text
  /-- The operand takes all that follows, and not only one argument. -/
  greedy : Bool
  choices : List Text := []
  required : Bool
  act : List Text → σ → Except Halt σ

/-- A value that is written together with its option: after an equals sign, or right after a short option. -/
structure Attached where
  glued : Bool
  text : Text
  deriving DecidableEq, Repr

inductive Reading (σ : Type) where
  | plain
  | separator
  | unknown
  | switch (s : Switch σ) (name : Text) (attached : Option Attached)

namespace Reading

def isPlain {σ : Type} : Reading σ → Bool
  | .plain => true
  | _ => false

def isSwitch {σ : Type} : Reading σ → Bool
  | .unknown => true
  | .switch _ _ _ => true
  | _ => false

end Reading

namespace Parser

variable {σ : Type}

def refuse (p : Parser σ) (message : Text) : Halt := .refused p.program p.usage message

/-- The refusal of what was given for an option or the operand. -/
def refuseFor (p : Parser σ) (what message : Text) : Halt :=
  p.refuse ("argument ".toList ++ what ++ ": ".toList ++ message)

/-! ## Readings -/

/-- All names with their options, in the order in which they were declared. -/
def table (p : Parser σ) : List (Text × Switch σ) := p.switches.flatMap fun s => s.names.map fun n => (n, s)

def lookup? (p : Parser σ) (name : Text) : Option (Switch σ) := (p.table.find? fun e => e.1 == name).map (·.2)

/-- A minus sign and digits, possibly with a point before some of them. -/
def isNegativeNumber (t : Text) : Bool :=
  let body := if Text.endsWith t ['\n'] then t.dropLast else t
  match body with
  | '-' :: ds =>
    match ds.span fun c => (Text.digit? c).isSome with
    | (whole, []) => !whole.isEmpty
    | (_, '.' :: fraction) => !fraction.isEmpty && fraction.all fun c => (Text.digit? c).isSome
    | _ => false
  | _ => false

/-- The options that a shortened or glued argument can mean. -/
def candidates (p : Parser σ) (arg : Text) : List (Text × Switch σ × Option Attached) :=
  if Text.startsWith arg "--".toList then
    let (start, attached) := match Text.cut? ['='] arg with
      | some (before, after) => (before, some (Attached.mk false after))
      | none => (arg, none)
    (p.table.filter fun e => Text.startsWith e.1 start).map fun e => (e.1, e.2, attached)
  else
    p.table.filterMap fun e =>
      if e.1 = arg.take 2 then some (e.1, e.2, some ⟨true, arg.drop 2⟩)
      else if Text.startsWith e.1 arg then some (e.1, e.2, none)
      else none

def readingOfCandidates (p : Parser σ) (arg : Text) : Except Halt (Reading σ) :=
  match p.candidates arg with
  | [] =>
    if isNegativeNumber arg then .ok .plain
    else if ' ' ∈ arg then .ok .plain
    else .ok .unknown
  | [(name, s, attached)] => .ok (.switch s name attached)
  | several =>
    .error (p.refuse ("ambiguous option: ".toList ++ arg ++ " could match ".toList ++
      List.intercalate ", ".toList (several.map (·.1))))

/-- The reading of an argument that stands before the separator and is not it. -/
def readingOf (p : Parser σ) (arg : Text) : Except Halt (Reading σ) :=
  if !Text.startsWith arg ['-'] then .ok .plain
  else
    match p.lookup? arg with
    | some s => .ok (.switch s arg none)
    | none =>
      if arg.length = 1 then .ok .plain
      else
        match Text.cut? ['='] arg with
        | some (before, after) =>
          match p.lookup? before with
          | some s => .ok (.switch s before (some ⟨false, after⟩))
          | none => p.readingOfCandidates arg
        | none => p.readingOfCandidates arg

/-- The arguments with their readings. -/
def readings (p : Parser σ) : List Text → Except Halt (List (Text × Reading σ))
  | [] => .ok []
  | arg :: rest =>
    if arg = "--".toList then .ok ((arg, .separator) :: rest.map fun a => (a, .plain))
    else
      match p.readingOf arg with
      | .error h => .error h
      | .ok r =>
        match readings p rest with
        | .error h => .error h
        | .ok rs => .ok ((arg, r) :: rs)

/-! ## Consumption -/

/-- What has been read: the arguments, those left over, and whether the operand has been met. -/
structure Progress (σ : Type) where
  state : σ
  leftover : List Text := []
  operandMet : Bool := false

def choiceMessage (choices : List Text) (v : Text) : Text :=
  "invalid choice: ".toList ++ Value.quoteText v ++ " (choose from ".toList ++
    List.intercalate ", ".toList (choices.map Value.quoteText) ++ ")".toList

/-- The first value that is not among the choices, where there are any. -/
def badChoice? (choices : List Text) (vs : List Text) : Option Text :=
  if choices.isEmpty then none else vs.find? fun v => !choices.contains v

/-- An option acts on its values. -/
def perform (p : Parser σ) (s : Switch σ) (vs : List Text) (g : Progress σ) : Except Halt (Progress σ) :=
  match badChoice? s.choices vs with
  | some v => .error (p.refuseFor s.title (choiceMessage s.choices v))
  | none =>
    match s.act vs g.state with
    | .error h => .error h
    | .ok x => .ok { g with state := x }

/-- Options act one after the other. -/
def performAll (p : Parser σ) : List (Switch σ × List Text) → Progress σ → Except Halt (Progress σ)
  | [], g => .ok g
  | (s, vs) :: rest, g =>
    match p.perform s vs g with
    | .error h => .error h
    | .ok g' => performAll p rest g'

/-- How many of the arguments that follow an option are its values. -/
def valueCount (p : Parser σ) (s : Switch σ) (following : List (Text × Reading σ)) : Except Halt Nat :=
  let plain := (following.takeWhile fun a => a.2.isPlain).length
  match s.arity with
  | .zero => .ok 0
  | .one => if plain = 0 then .error (p.refuseFor s.title "expected one argument".toList) else .ok 1
  | .some =>
    if plain = 0 then .error (p.refuseFor s.title "expected at least one argument".toList) else .ok plain

/-- What an argument with options comes to: the options with their values, the part that is left over, and how many of
the following arguments are used. -/
structure Cluster (σ : Type) where
  actions : List (Switch σ × List Text)
  leftover : List Text := []
  used : Nat := 0

def ignored (p : Parser σ) (s : Switch σ) (value : Text) : Halt :=
  p.refuseFor s.title ("ignored explicit argument ".toList ++ Value.quoteText value)

/-- An option without an attached value. -/
def alone (p : Parser σ) (following : List (Text × Reading σ)) (s : Switch σ) : Except Halt (Cluster σ) :=
  match p.valueCount s following with
  | .error h => .error h
  | .ok n => .ok ⟨[(s, (following.take n).map (·.1))], [], n⟩

/-- An option with an attached value, `value`; more short options may hide in it. -/
def attachedTo (p : Parser σ) (following : List (Text × Reading σ)) (s : Switch σ) (name : Text) (glued : Bool) :
    Text → Except Halt (Cluster σ)
  | [] => if s.arity = .zero then .error (p.ignored s []) else .ok ⟨[(s, [[]])], [], 0⟩
  | c :: rest =>
    if s.arity ≠ .zero then .ok ⟨[(s, [c :: rest])], [], 0⟩
    else if Text.startsWith name "--".toList || !glued || c = '-' then .error (p.ignored s (c :: rest))
    else
      match p.lookup? ['-', c] with
      | none => .ok ⟨[(s, [])], ['-' :: c :: rest], 0⟩
      | some s' =>
        let more : Except Halt (Cluster σ) := match rest with
          | [] => p.alone following s'
          | '=' :: value =>
            if s'.arity = .zero then .error (p.ignored s' value) else .ok ⟨[(s', [value])], [], 0⟩
          | _ => attachedTo p following s' ['-', c] true rest
        more.map fun k => { k with actions := (s, []) :: k.actions }

/-- An argument with options taken. -/
def consumeSwitch (p : Parser σ) (following : List (Text × Reading σ)) (arg : Text) (r : Reading σ) (g : Progress σ) :
    Except Halt (Progress σ × List (Text × Reading σ)) :=
  let cluster : Except Halt (Cluster σ) := match r with
    | .switch s _ none => p.alone following s
    | .switch s name (some a) => p.attachedTo following s name a.glued a.text
    | _ => .ok ⟨[], [arg], 0⟩
  match cluster with
  | .error h => .error h
  | .ok k =>
    match p.performAll k.actions { g with leftover := g.leftover ++ k.leftover } with
    | .error h => .error h
    | .ok g' => .ok (g', following.drop k.used)

/-- How many arguments the operand takes at the start of the list. -/
def operandCount (p : Parser σ) (args : List (Text × Reading σ)) : Nat :=
  let lead := (args.takeWhile fun a => a.2 matches .separator).length
  match args.drop lead with
  | (_, .plain) :: rest =>
    if p.greedy then lead + 1 + rest.length
    else lead + 1 + (rest.takeWhile fun a => a.2 matches .separator).length
  | _ => 0

/-- The operand taken at the start of the list, if it is there and has not been met. -/
def consumeOperand (p : Parser σ) (args : List (Text × Reading σ)) (g : Progress σ) :
    Except Halt (Progress σ × List (Text × Reading σ)) :=
  let n := if g.operandMet then 0 else p.operandCount args
  if n = 0 then .ok (g, args)
  else
    let taken := (args.take n).map (·.1)
    let vs := if p.greedy then taken else taken.erase "--".toList
    match badChoice? p.choices (vs.take 1) with
    | some v => .error (p.refuseFor p.operand (choiceMessage p.choices v))
    | none =>
      match p.act vs g.state with
      | .error h => .error h
      | .ok x => .ok ({ g with state := x, operandMet := true }, args.drop n)

/-- The arguments consumed from left to right, each step at least one. -/
def consume (p : Parser σ) : Nat → List (Text × Reading σ) → Progress σ → Except Halt (Progress σ)
  | 0, args, g => .ok { g with leftover := g.leftover ++ args.map (·.1) }
  | fuel + 1, args, g =>
    match args.dropWhile (fun a => !a.2.isSwitch) with
    | [] =>
      match p.consumeOperand args g with
      | .error h => .error h
      | .ok (g', rest) => .ok { g' with leftover := g'.leftover ++ rest.map (·.1) }
    | (arg, r) :: following =>
      let before := args.takeWhile fun a => !a.2.isSwitch
      match if before.isEmpty then .ok (g, args) else p.consumeOperand args g with
      | .error h => .error h
      | .ok (g', rest) =>
        if rest.length < args.length then consume p fuel rest g'
        else
          match p.consumeSwitch following arg r { g' with leftover := g'.leftover ++ before.map (·.1) } with
          | .error h => .error h
          | .ok (g'', rest') => consume p fuel rest' g''

/-- What the arguments say, and those that are left over. -/
def parse (p : Parser σ) (start : σ) (args : List Text) : Except Halt (σ × List Text) :=
  match p.readings args with
  | .error h => .error h
  | .ok rs =>
    match p.consume (rs.length + 1) rs ⟨start, [], false⟩ with
    | .error h => .error h
    | .ok g =>
      if p.required && !g.operandMet then
        .error (p.refuse ("the following arguments are required: ".toList ++ p.operand))
      else .ok (g.state, g.leftover)

end Parser
end Cli
end Scriptwright
