import Scriptwright.Cli.Arguments
import Scriptwright.Console.Escape
import Scriptwright.Report.Export
import Scriptwright.Settings.Load
/-!
# A run of the program

From an argument list, a disk, a working directory and what comes in on the standard input to what a run leaves: its exit
code, what it printed and logged, and the disk.  Reports in a data format go to the standard output, so that they can be
piped; everything else goes to the console.
-/
namespace Scriptwright
namespace Cli

/-- An error that the program does not deal with. -/
inductive Crash where
  /-- What was asked for, or a place for it, is not come to. -/
  | unreached (u : Workspace.Unreached)
  | settings (f : Settings.LoadFailure)
  /-- The script cannot be read a second time. -/
  | reading (why : ReadFailure)
  /-- The report cannot be written out. -/
  | exporting (e : Report.TooLong)

def Crash.message : Crash → Text
  | .unreached u => u.message
  | .settings f => f.message
  | .reading why => why.message
  | .exporting e => e.message

/-- What a run leaves. -/
structure Outcome where
  disk : Disk
  exit : Nat := 0
  stdout : Text := []
  stderr : Text := []
  console : List Console.Block := []
  log : Log := []
  crash : Option Crash := none

namespace Outcome

/-- What came before on the console. -/
def after (bs : List Console.Block) (o : Outcome) : Outcome := { o with console := bs ++ o.console }

/-- What was logged before. -/
def logged (log : Log) (o : Outcome) : Outcome := { o with log := log ++ o.log }

end Outcome

/-- A report in a data format; none in a table. -/
def machineReport (f : Format) (r : Report) : Except Report.TooLong Text :=
  match f with
  | .table => .ok []
  | .yaml => r.exportAs Value.maxDigits .yaml
  | .json => (r.exportAs Value.maxDigits .json).map (· ++ ['\n'])

/-- The reports one after the other, up to the first that cannot be written out. -/
def machineReports (f : Format) : List Report → Text × Option Report.TooLong
  | [] => ([], none)
  | r :: rs =>
    match machineReport f r with
    | .error e => ([], some e)
    | .ok t =>
      let rest := machineReports f rs
      (t ++ rest.1, rest.2)

/-- Reports in a data format on the standard output. -/
def emit (f : Format) (rs : List Report) (disk : Disk) (log : Log) : Outcome :=
  let out := machineReports f rs
  { disk := disk, stdout := out.1, log := log, crash := out.2.map .exporting }

/-- One conversion on the console. -/
def single (a : Arguments) (script : Text) (r : Result) (report : Report) : List Console.Block :=
  [if a.diff then Console.sideBySide script report r.label
   else
    match r.outputPath? with
    | none => Console.programListing report.code
    | some p => .markup (Console.styled "green" "Written:".toList ++ " ".toList ++ p.toText),
   Console.diagnostics report r.label]

def blankNote : Console.Block :=
  .markup (Console.styled "bold red" "No code to convert:".toList ++ " please provide some script text.".toList)

def interruptNote : Console.Block := .markup ('\n' :: Console.styled "bold red" "Terminated by user.".toList)

def configNote (f : Settings.LoadFailure) : Console.Block :=
  .markup (Console.styled "bold red" "CONFIG ERROR:".toList ++ " ".toList ++ Console.escape f.message)

def notFoundNote (path : Text) : Console.Block :=
  .markup (Console.styled "bold red" "Error:".toList ++ " Path '".toList ++ path ++ "' not found.".toList)

def noScriptsNote : Console.Block := .markup ('\n' :: Console.styled "bold yellow" "⚠️  No legacy scripts found.".toList)

def rejectionNotes (rs : List Result) : List Console.Block :=
  rs.filterMap fun r =>
    r.error?.map fun e =>
      .markup (Console.styled "bold red" (r.status.name ++ " in ".toList ++ r.label ++ ":".toList) ++ " ".toList ++ e)

/-- The script on the standard input converted; nothing is written.  The input is none if it was interrupted. -/
def runInput (s : Settings) (a : Arguments) (stdin : Option Text) (disk : Disk) (cwd : Location) : Outcome :=
  match stdin with
  | none => { disk := disk, exit := 1, console := [interruptNote] }
  | some t =>
    let (log, r) := Workspace.convertText { root := cwd, settings := s } a.target a.source "<stdin>".toList t
    match r.report? with
    | none => { disk := disk, exit := 1, console := [blankNote], log := log }
    | some report =>
      match a.format with
      | .table => { disk := disk, console := single a [] r report, log := log }
      | f => emit f [report] disk log

/-- The results of a batch on the console. -/
def present (w : Workspace) (a : Arguments) (names : List (List Text)) (run : Workspace.Run) : Outcome :=
  let rs := run.results
  let notes := rejectionNotes rs
  let tail := [Console.summary (Tally.ofResults rs)]
  match rs, names with
  | [r], [n] =>
    match r.report? with
    | none => { disk := run.disk, console := notes ++ Console.batchTable [r.row] :: tail, log := run.log }
    | some report =>
      match Workspace.readScript run.disk (w.placeOf run.disk n) with
      | .error why => { disk := run.disk, console := notes, log := run.log, crash := some (.reading why) }
      | .ok script => { disk := run.disk, console := notes ++ single a script r report ++ tail, log := run.log }
  | _, _ => { disk := run.disk, console := notes ++ Console.batchTable (rs.map (·.row)) :: tail, log := run.log }

/-- The scripts of a workspace converted. -/
def runBatch (w : Workspace) (c : Command) (a : Arguments) (disk : Disk) (names : List (List Text)) : Outcome :=
  match w.convertWhileSeen a.target a.source (c == .scan || a.dryRun) disk names with
  | .error stop => { disk := stop.run.disk, log := stop.run.log, crash := some (.unreached (.unseen stop.error)) }
  | .ok run =>
    match a.format with
    | .table => present w a names run
    | f => emit f (run.results.filterMap (·.report?)) run.disk run.log

/-- The scripts at a location, one or a directory of them. -/
def runAt (s : Settings) (c : Command) (a : Arguments) (disk : Disk) (cwd l : Location) : Outcome :=
  let t := disk.tree
  let outputDir : Except Location (Option Location) :=
    match a.output with
    | none => .ok none
    | some [] => .ok none
    | some o => (t.resolve cwd (Path.ofText o)).map some
  match outputDir with
  | .error loop => { disk := disk, crash := some (.unreached (.loop loop)) }
  | .ok out =>
    let root := if t.leadsToDirectory l then l else l.dropLast
    let w : Workspace := { root := root, settings := s, outputDir := out }
    match if t.leadsToFile l then .ok [l.drop root.length] else w.search disk a.extensions Script.depth with
    | .error e => { disk := disk, crash := some (.unreached (.unseen e)) }
    | .ok [] => { disk := disk, console := [noScriptsNote] }
    | .ok names => runBatch w c a disk names

/-- What a command does once its settings are known. -/
def runWith (s : Settings) (c : Command) (a : Arguments) (stdin : Option Text) (disk : Disk) (cwd : Location) : Outcome :=
  if a.path = "-".toList then runInput s a stdin disk cwd
  else
    match Workspace.reach disk cwd (Path.ofText a.path) with
    | .error u => { disk := disk, crash := some (.unreached u) }
    | .ok l =>
      if disk.tree.present l then runAt s c a disk cwd l
      else { disk := disk, exit := 1, console := [notFoundNote a.path] }

/-- The settings of a run. -/
def loadSettings (a : Arguments) (disk : Disk) (cwd : Location) : Log × Except Settings.LoadFailure Settings :=
  match a.config with
  | none => ([], .ok {})
  | some file =>
    let path := Path.ofText file
    Settings.load disk (if path.isAbsolute then path.parts else cwd ++ path.parts) path

def runCommand (c : Command) (a : Arguments) (stdin : Option Text) (disk : Disk) (cwd : Location) : Outcome :=
  match loadSettings a disk cwd with
  | (log, .error f) =>
    if f.isRefusal then { disk := disk, exit := 1, console := [configNote f], log := log }
    else { disk := disk, log := log, crash := some (.settings f) }
  | (log, .ok s) => (runWith s c a stdin disk cwd).logged log

/-- The command of an argument list and its arguments, if it has come to that. -/
def request? (args : List Text) : Option (Command × Arguments) := (parseArguments args).toOption.join

/-- The paths that a command looks at: what it converts, its settings and where it writes. -/
def pathsOf (a : Arguments) : List Path :=
  ((if a.path = "-".toList then [] else [a.path]) ++ a.config.toList ++ a.output.toList).map Path.ofText

/-- The command reads the standard input. -/
def readsInput (args : List Text) : Bool := (request? args).any fun r => r.2.path = "-".toList

def subtitle : Command → String
  | .convert => "Script Conversion"
  | .scan => "Convertibility Scan"

/-- The whole program. -/
def run (args : List Text) (stdin : Option Text) (disk : Disk) (cwd : Location) : Outcome :=
  match args with
  | [] => { disk := disk, stdout := mainHelp, console := [Console.header "Legacy Script Converter"] }
  | _ =>
    match parseArguments args with
    | .error (.printed t) => { disk := disk, stdout := t }
    | .error (.refused program usage message) =>
      { disk := disk, exit := 2, stderr := usage ++ program ++ ": error: ".toList ++ message ++ ['\n'] }
    | .ok none => { disk := disk, stdout := mainHelp }
    | .ok (some (c, a)) =>
      (runCommand c a stdin disk cwd).after (if a.format = .table then [Console.header (subtitle c)] else [])

end Cli
end Scriptwright
