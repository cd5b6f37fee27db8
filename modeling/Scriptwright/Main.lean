import Scriptwright.Cli.Run
import Scriptwright.Console.Plain
/-!
# The program

The part of the disk that a run looks at is read in, the run is computed, and what it changed is written back: a file by
way of a scratch file that takes its name.
-/
namespace Scriptwright
namespace Program

def locationOf (p : String) : Location := Tree.lexical (Path.ofText p.toList).parts

def pathOf (l : Location) : String := String.ofList (Path.ofLocation l).toText

/-- The bytes of a file, and the cause if they cannot be read. -/
def readBytes (path : String) : IO (List UInt8 × Option Cause) := do
  try
    return ((← IO.FS.readBinFile path).toList, none)
  catch e => return ([], some (.other 5 e.toString.toList))

/-- Why a look failed, unless it is because nothing is there. -/
def denialOf? : IO.Error → Option Denial
  | .noFileOrDirectory .. | .inappropriateType .. => none
  | e => some ⟨.other 13 e.toString.toList, rfl⟩

/-- What stands at a location, with what stands below it up to `depth` directories down. -/
partial def loadAt (depth : Nat) (d : Disk) (l : Location) : IO Disk := do
  let path := (← IO.currentDir) / pathOf l
  let look ← try pure (Except.ok (← path.symlinkMetadata).type) catch e => pure (.error (denialOf? e))
  match look with
  | .ok .dir =>
    let d := if l.isEmpty then d else { d with tree := d.tree.put l .directory }
    if depth = 0 then return d
    let mut d := d
    for e in ← path.readDir do
      d ← loadAt (depth - 1) d (l ++ [e.fileName.toList])
    return d
  | .ok .symlink =>
    let target ← try pure (← IO.FS.realPath path).toString catch _ => pure (pathOf l ++ ".missing")
    return { d with tree := d.tree.put l (.link target.toList) }
  | .ok _ =>
    let (bytes, cause?) ← readBytes (pathOf l)
    let d := { d with tree := d.tree.put l (.file bytes) }
    match cause? with
    | none => return d
    | some c =>
      let reading := d.faults.reading
      return { d with faults := { d.faults with reading := fun x => if x = l then some c else reading x } }
  | .error none => return d
  | .error (some x) =>
    let looking := d.faults.looking
    return { d with tree := d.tree.put l (.file [])
                    faults := { d.faults with looking := fun q => if q = l then some x else looking q } }

/-- The directories on the way to a location, and what stands there and around it. -/
def loadAround (d : Disk) (l : Location) : IO Disk := do
  let mut d := d
  for w in (Location.way l).dropLast do
    d ← loadAt 0 d w
  d ← loadAt 1 d l.dropLast
  loadAt 32 d l

/-- The disk as a run sees it. -/
def loadDisk (cwd : Location) (args : List Text) : IO Disk := do
  let mut d : Disk := { tree := {} }
  for w in Location.way cwd do
    d ← loadAt 0 d w
  for p in ((Cli.request? args).map fun r => Cli.pathsOf r.2).getD [] do
    d ← loadAround d (Tree.lexical (if p.isAbsolute then p.parts else cwd ++ p.parts))
  return d

/-- What a run changed, written back. -/
def storeDisk (before after : Disk) : IO Unit := do
  for (l, e) in after.tree.entries do
    if before.tree.get? l != some e then
      match e with
      | .directory => IO.FS.createDirAll (pathOf l)
      | .file bytes =>
        let scratch := pathOf (scratchFor l)
        IO.FS.writeBinFile scratch ⟨bytes.toArray⟩
        IO.FS.rename scratch (pathOf l)
      | .link _ => pure ()

partial def readAll (input : IO.FS.Stream) (sofar : ByteArray) : IO ByteArray := do
  let more ← input.read 65536
  if more.isEmpty then return sofar else readAll input (sofar ++ more)

def run (args : List String) : IO UInt32 := do
  let args := args.map (·.toList)
  let cwd := locationOf (← IO.currentDir).toString
  let disk ← loadDisk cwd args
  let input ← if Cli.readsInput args then readAll (← IO.getStdin) .empty else pure .empty
  let o := Cli.run args (some (Text.unifyNewlines (Utf8.decodeLossy input.toList))) disk cwd
  storeDisk disk o.disk
  for e in o.log do
    IO.eprintln (String.ofList e.show)
  for b in o.console do
    for l in b.plain do
      IO.println (String.ofList l)
  IO.print (String.ofList o.stdout)
  IO.eprint (String.ofList o.stderr)
  match o.crash with
  | none => return o.exit.toUInt32
  | some c =>
    IO.eprintln (String.ofList c.message)
    return 1

end Program
end Scriptwright

def main (args : List String) : IO UInt32 := Scriptwright.Program.run args
