import Scriptwright.Files.Disk
/-!
# Replacing a file as a whole

A file is replaced as a whole or not at all: the bytes go to a scratch file beside it, and the scratch file takes its
name.  If either step fails the scratch file is taken away again; only when that fails too, or when nobody may look
whether it is there, does it stay.
-/
namespace Scriptwright

/-- Why a file was not replaced. -/
inductive ReplaceError where
  /-- Its directory could not be made. -/
  | noDirectory (e : FileError)
  /-- Its directory is not to be written to. -/
  | noAccess (directory : Path)
  /-- The scratch file could not be written, or could not take the name. -/
  | failed (e : FileError)
  /-- Nor could the scratch file be looked for and taken away. -/
  | leftover (e : FileError)
  deriving DecidableEq, Repr

def ReplaceError.message : ReplaceError → Text
  | .noDirectory e => e.message
  | .noAccess directory => "No write access to ".toList ++ directory.toText
  | .failed e => "Atomic write failed: ".toList ++ e.message
  | .leftover e => e.message

/-- The scratch file of a file. -/
def scratchFor (l : Location) : Location :=
  match l.getLast? with
  | none => []
  | some n => l.dropLast ++ [Name.stem n ++ ".scriptcuro.tmp".toList]

namespace Disk

/-- The scratch file taken away after `e`, if it is there. -/
def abandon (d : Disk) (scratch : Location) (e : FileError) : Disk × Option ReplaceError :=
  match d.denial? scratch with
  | some e' => (d, some (.leftover e'))
  | none =>
    if d.tree.present scratch then
      match d.unlink scratch with
      | .ok d' => (d', some (.failed e))
      | .error e' => (d, some (.leftover e'))
    else (d, some (.failed e))

/-- The bytes written to the scratch file, which takes the name of `l`. -/
def swapIn (d : Disk) (l : Location) (bytes : List UInt8) : Disk × Option ReplaceError :=
  match d.write (scratchFor l) bytes with
  | (d', some e) => d'.abandon (scratchFor l) e
  | (d', none) =>
    match d'.rename (scratchFor l) l with
    | .error e => d'.abandon (scratchFor l) e
    | .ok d'' => (d'', none)

/-- The file `l` with the given bytes, in a directory that is made where it is missing. -/
def replace (d : Disk) (l : Location) (bytes : List UInt8) : Disk × Option ReplaceError :=
  match d.makeDirs l.dropLast with
  | (d', some e) => (d', some (.noDirectory e))
  | (d', none) =>
    if d'.readOnly.contains l.dropLast then (d', some (.noAccess (.ofLocation l.dropLast))) else d'.swapIn l bytes

end Disk
end Scriptwright
