import Scriptwright.Batch.Result
import Scriptwright.Log
import Scriptwright.Text.Case
/-!
# Workspaces

A workspace is a directory of scripts.  Its scripts are the files whose suffix is wanted, whatever its case, that are no
converted programs and do not lie too deep; links are not followed to find them.  They are taken in the order of their
locations, name by name.

The program of `deploy.sh` is `deploy_sh_converted.py`: the suffix stays in the name, so that scripts which differ only
in it do not share a program.  It stands beside its script, or at the same place below an output directory.

A script that cannot be read or written is a result like any other (`convertAt`, `scan`).  What may not even be looked at
is not: it ends the search for scripts, and the batch with it (`search`, `survey`).
-/
namespace Scriptwright

structure Workspace where
  root : Location
  settings : Settings := {}
  outputDir : Option Location := none
  deriving DecidableEq, Repr

/-- The suffixes of scripts. -/
def Script.suffixes : List Text := [".sh".toList, ".bash".toList, ".ksh".toList, ".pl".toList]

/-- How deep a script may lie. -/
def Script.depth : Int := 10

namespace Workspace

/-! ## Names of programs -/

/-- What the stem of a program ends with. -/
def programMark : Text := "_converted".toList

/-- The name of the program of a script. -/
def programName (d : Dialect) (n : Text) : Text :=
  let tag := (Name.suffix n).dropWhile (· == '.')
  (if tag.isEmpty then Name.stem n else Name.stem n ++ "_".toList ++ tag) ++ programMark ++
    Name.suffix (downloadName d)

/-- The directory of the program of a script. -/
def programDir (w : Workspace) (source : Path) : Path :=
  match w.outputDir with
  | none => source.parent
  | some out =>
    match (Path.ofLocation w.root).below? source.parent with
    | some names => .ofLocation (out ++ names)
    | none => .ofLocation out

/-- The path of the program of a script. -/
def programPath (w : Workspace) (d : Dialect) (source : Path) : Path :=
  let dir := w.programDir source
  { dir with parts := dir.parts ++ [programName d source.name] }

/-! ## Scripts -/

/-- A suffix as it is compared: in lower case, with its dot. -/
def wantedSuffix (ext : Text) : Text :=
  if Text.startsWith ext ".".toList then Text.lower ext else '.' :: Text.lower ext

/-- A file of this name counts as a script. -/
def wants (extensions : List Text) (n : Text) : Bool :=
  (extensions.map wantedSuffix).contains (Text.lower (Name.suffix n)) && !Text.endsWith (Name.stem n) programMark

/-- The files below a directory, by the names that lead to them from there. -/
def filesBelow (t : Tree) (l : Location) : List (List Text) :=
  (t.entries.filter fun e => l.isPrefixOf e.1 && l != e.1 && t.isFile e.1).map fun e => e.1.drop l.length

/-- The scripts of a tree below `root`, by the names that lead to them from there. -/
def scriptsBelow (t : Tree) (root : Location) (extensions : List Text) (depth : Int) : List (List Text) :=
  match t.follow? [] root with
  | none => []
  | some l =>
    ((filesBelow t l).filter fun names =>
      wants extensions (names.getLast?.getD []) && decide ((names.length : Int) ≤ depth)).mergeSort Location.atMost

/-- The scripts of a workspace, by the names that lead to them from its root. -/
def discover (w : Workspace) (d : Disk) (extensions : List Text) (depth : Int) : List (List Text) :=
  scriptsBelow d.tree w.root extensions depth

/-- What a search looks at: the root, and whatever stands below it. -/
def lookedAt (w : Workspace) (t : Tree) : List Location :=
  w.root ::
    match t.follow? [] w.root with
    | none => []
    | some l => (t.entries.filter fun e => l.isPrefixOf e.1 && l != e.1).map fun e => w.root ++ e.1.drop l.length

/-- The scripts of a workspace, unless a look at what stands there is denied. -/
def search (w : Workspace) (disk : Disk) (extensions : List Text) (depth : Int) : Except FileError (List (List Text)) :=
  match (w.lookedAt disk.tree).findSome? disk.denial? with
  | some e => .error e
  | none => .ok (w.discover disk extensions depth)

/-! ## Conversion -/

/-- A text converted, held against its lines. -/
def convertText (w : Workspace) (d : Dialect) (language : Language) (label t : Text) : Log × Result :=
  if Text.allBlank t then ([], .rejected label .blank)
  else
    let r := convert w.settings d language t
    let fault := r.fault? (Script.lines t)
    ((fault.map fun f => ⟨.warning, .engine, label ++ ": ".toList ++ f.message⟩).toList, .converted label ⟨r, fault, .kept⟩)

/-- The text of a script, without a mark in front and with line feeds only. -/
def readScript (disk : Disk) (l : Location) : Except ReadFailure Text :=
  match disk.read l with
  | .error e => .error (.file e)
  | .ok bytes =>
    match Utf8.readMarkedText bytes with
    | .error f => .error (.decoding f)
    | .ok t => .ok t

/-- One script's turn: the disk after it, what was logged, and the result. -/
structure Turn where
  disk : Disk
  log : Log
  result : Result

/-- The program of a conversion written to its place. -/
def deliver (w : Workspace) (disk : Disk) (l : Location) : Result → Disk × Result
  | .rejected label why => (disk, .rejected label why)
  | .converted label c =>
    let path := w.programPath c.report.dialect (.ofLocation l)
    match disk.replace path.parts (Utf8.encode (c.report.code ++ ['\n'])) with
    | (disk', none) => (disk', .converted label { c with delivery := .written path })
    | (disk', some e) => (disk', .converted label { c with delivery := .failed e })

/-- The script at `l` converted, and its program written unless this is a dry run. -/
def convertAt (w : Workspace) (d : Dialect) (language : Language) (dryRun : Bool) (disk : Disk) (label : Text)
    (l : Location) : Turn :=
  if disk.tree.present l then
    match readScript disk l with
    | .error why =>
      ⟨disk, [⟨.error, .engine, "Error reading ".toList ++ label ++ ": ".toList ++ why.message⟩],
        .rejected label (.unreadable why)⟩
    | .ok t =>
      let (log, r) := w.convertText d language label t
      if dryRun then ⟨disk, log, r⟩
      else
        let (disk', r') := w.deliver disk l r
        ⟨disk', log, r'⟩
  else ⟨disk, [], .rejected label (.missing (.ofLocation l))⟩

/-- Why a file that a path names is not come to. -/
inductive Unreached where
  /-- A link leads back to itself. -/
  | loop (link : Location)
  /-- Nobody may look whether it is there. -/
  | unseen (e : FileError)
  deriving DecidableEq, Repr

def Unreached.message : Unreached → Text
  | .loop link => "Symlink loop from ".toList ++ Value.quoteText (Path.ofLocation link).toText
  | .unseen e => e.message

/-- The location of the file that a path names, seen from `start`, once it has been looked at. -/
def reach (disk : Disk) (start : Location) (p : Path) : Except Unreached Location :=
  match disk.tree.resolve start p with
  | .error link => .error (.loop link)
  | .ok l =>
    match disk.denial? l with
    | some e => .error (.unseen e)
    | none => .ok l

/-- The script that a path names, seen from the root of the workspace. -/
def convertFile (w : Workspace) (d : Dialect) (language : Language) (dryRun : Bool) (disk : Disk) (file : Text) :
    Except Unreached Turn :=
  (reach disk w.root (Path.ofText file)).map (w.convertAt d language dryRun disk file)

/-! ## Batches -/

/-- A batch: the disk after it, and for each script what was logged and the result. -/
structure Run where
  disk : Disk
  turns : List (Log × Result)

def Run.results (r : Run) : List Result := r.turns.map (·.2)

def Run.log (r : Run) : Log := r.turns.flatMap (·.1)

/-- What is told on the way, after each script: how many are done, and of how many. -/
def Run.progress (r : Run) : List (Nat × Nat) := (List.range r.turns.length).map fun i => (i + 1, r.turns.length)

/-- One more turn, before the others. -/
def Run.after (turn : Turn) (r : Run) : Run := ⟨r.disk, (turn.log, turn.result) :: r.turns⟩

/-- The place of a discovered script, links on the way to the root followed. -/
def placeOf (w : Workspace) (disk : Disk) (names : List Text) : Location :=
  (disk.tree.follow? [] (w.root ++ names)).getD (w.root ++ names)

/-- Scripts converted one after the other. -/
def convertEach (w : Workspace) (d : Dialect) (language : Language) (dryRun : Bool) :
    Disk → List (List Text) → Run
  | disk, [] => ⟨disk, []⟩
  | disk, names :: rest =>
    let turn := w.convertAt d language dryRun disk (Path.toText ⟨.here, names⟩) (w.placeOf disk names)
    let run := convertEach w d language dryRun turn.disk rest
    ⟨run.disk, (turn.log, turn.result) :: run.turns⟩

/-- All scripts of the workspace converted, and one that may not be looked at passed over as unreadable. -/
def scan (w : Workspace) (d : Dialect) (language : Language) (dryRun : Bool) (disk : Disk) (extensions : List Text)
    (depth : Int) : Run :=
  w.convertEach d language dryRun disk (w.discover disk extensions depth)

/-! ## Batches that stop -/

/-- A batch that came to an end before its last script: its turns until then, and why. -/
structure Stop where
  run : Run
  error : FileError

/-- Scripts converted one after the other, up to the first that may not be looked at. -/
def convertWhileSeen (w : Workspace) (d : Dialect) (language : Language) (dryRun : Bool) :
    Disk → List (List Text) → Except Stop Run
  | disk, [] => .ok ⟨disk, []⟩
  | disk, names :: rest =>
    match disk.denial? (w.placeOf disk names) with
    | some e => .error ⟨⟨disk, []⟩, e⟩
    | none =>
      let turn := w.convertAt d language dryRun disk (Path.toText ⟨.here, names⟩) (w.placeOf disk names)
      match convertWhileSeen w d language dryRun turn.disk rest with
      | .ok run => .ok (run.after turn)
      | .error stop => .error { stop with run := stop.run.after turn }

/-- The scripts of the workspace searched for and converted. -/
def survey (w : Workspace) (d : Dialect) (language : Language) (dryRun : Bool) (disk : Disk) (extensions : List Text)
    (depth : Int) : Except Stop Run :=
  match w.search disk extensions depth with
  | .error e => .error ⟨⟨disk, []⟩, e⟩
  | .ok scripts => w.convertWhileSeen d language dryRun disk scripts

end Workspace
end Scriptwright
