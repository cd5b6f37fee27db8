import Scriptwright.Batch.Workspace
import Scriptwright.Cli.Help
import Scriptwright.Cli.Parser
/-!
# The arguments of the program

Two commands: `convert` writes programs, `scan` only looks.  Both take a path and the same options, and `convert` takes
three more.
-/
namespace Scriptwright
namespace Cli

/-- How reports are put out. -/
inductive Format where
  | table
  | yaml
  | json
  deriving DecidableEq, Repr

def Format.all : List Format := [.table, .yaml, .json]

def Format.name : Format → Text
  | .table => "table".toList
  | .yaml => "yaml".toList
  | .json => "json".toList

inductive Command where
  | convert
  | scan
  deriving DecidableEq, Repr

def Command.all : List Command := [.convert, .scan]

def Command.name : Command → Text
  | .convert => "convert".toList
  | .scan => "scan".toList

/-- What a command is asked to do. -/
structure Arguments where
  path : Text := []
  target : Dialect := .general
  source : Language := .auto
  extensions : List Text := Script.suffixes
  format : Format := .table
  config : Option Text := none
  output : Option Text := none
  dryRun : Bool := false
  diff : Bool := false
  deriving DecidableEq, Repr

/-- The first of `all` that is called `n`. -/
def named {α : Type} (name : α → Text) (all : List α) (n : Text) : Option α := all.find? fun x => name x == n

/-- An option with one value. -/
def valued {σ : Type} (name : String) (choices : List Text) (set : Text → σ → σ) : Switch σ where
  names := [name.toList]
  arity := .one
  choices := choices
  act vs x := .ok (match vs with | v :: _ => set v x | [] => x)

/-- An option with no value. -/
def flag {σ : Type} (name : String) (set : σ → σ) : Switch σ where
  names := [name.toList]
  arity := .zero
  act _ x := .ok (set x)

/-- An option that prints something and stops. -/
def printing {σ : Type} (names : List String) (text : Text) : Switch σ where
  names := names.map (·.toList)
  arity := .zero
  act _ _ := .error (.printed text)

def sharedSwitches (help : Text) : List (Switch Arguments) :=
  [printing ["-h", "--help"] help,
   valued "--to" (Dialect.all.map (·.name)) fun v x => { x with target := (named (·.name) Dialect.all v).getD x.target },
   valued "--source" (Language.all.map (·.name)) fun v x =>
    { x with source := (named (·.name) Language.all v).getD x.source },
   { names := ["--ext".toList], arity := .some, act := fun vs x => .ok { x with extensions := vs } },
   valued "--format" (Format.all.map (·.name)) fun v x => { x with format := (named (·.name) Format.all v).getD x.format },
   valued "--config" [] fun v x => { x with config := some v }]

def convertSwitches : List (Switch Arguments) :=
  [valued "--output" [] fun v x => { x with output := some v },
   flag "--dry-run" fun x => { x with dryRun := true },
   flag "--diff" fun x => { x with diff := true }]

/-- The parser of a command. -/
def commandParser (c : Command) : Parser Arguments where
  program := programName ++ " ".toList ++ c.name
  usage := match c with | .convert => convertUsage | .scan => scanUsage
  switches := match c with
    | .convert => sharedSwitches convertHelp ++ convertSwitches
    | .scan => sharedSwitches scanHelp
  operand := "path".toList
  greedy := false
  required := true
  act vs x := .ok (match vs with | v :: _ => { x with path := v } | [] => x)

/-- The command, if one was given, with its arguments, and what it left over. -/
structure Request where
  chosen : Option (Command × Arguments) := none
  leftover : List Text := []
  deriving DecidableEq, Repr

/-- The parser of the whole program: its operand is a command with all that follows. -/
def mainParser : Parser Request where
  program := programName
  usage := mainUsage
  switches := [printing ["-h", "--help"] mainHelp,
    printing ["-v", "--version"] (Console.programVersion ++ ['\n'])]
  operand := "Command".toList
  greedy := true
  choices := Command.all.map (·.name)
  required := false
  act vs x :=
    match vs with
    | [] => .ok x
    | v :: rest =>
      match named (·.name) Command.all v with
      | none => .ok x
      | some c =>
        match (commandParser c).parse {} rest with
        | .error h => .error h
        | .ok (a, left) => .ok { x with chosen := some (c, a), leftover := x.leftover ++ left }

/-- What an argument list asks for. -/
def parseArguments (args : List Text) : Except Halt (Option (Command × Arguments)) :=
  match mainParser.parse {} args with
  | .error h => .error h
  | .ok (r, left) =>
    match left ++ r.leftover with
    | [] => .ok r.chosen
    | several =>
      .error (mainParser.refuse ("unrecognized arguments: ".toList ++ List.intercalate " ".toList several))

end Cli
end Scriptwright
