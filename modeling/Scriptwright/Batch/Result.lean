import Scriptwright.Files.Replacement
import Scriptwright.Report.Integrity
import Scriptwright.Text.Utf8
/-!
# Results

What became of one script: it was rejected, for one of three reasons, or it was converted, and then its program was kept
back, written, or could not be written.
-/
namespace Scriptwright

/-- Why a script could not be read. -/
inductive ReadFailure where
  | file (e : FileError)
  | decoding (f : Utf8.Fault)
  deriving DecidableEq, Repr

def ReadFailure.message : ReadFailure → Text
  | .file e => e.message
  | .decoding f => f.message

/-- Why there was nothing to convert. -/
inductive Rejection where
  | missing (path : Path)
  | unreadable (why : ReadFailure)
  | blank
  deriving DecidableEq, Repr

def Rejection.message : Rejection → Text
  | .missing path => "Path missing: ".toList ++ path.toText
  | .unreadable why => why.message
  | .blank => "No code to convert".toList

/-- What became of the program. -/
inductive Delivery where
  | kept
  | written (path : Path)
  | failed (e : ReplaceError)
  deriving DecidableEq, Repr

inductive Status where
  | fileNotFound
  | engineError
  | emptyInput
  | unsupported
  | needsReview
  | converted
  deriving DecidableEq, Repr

def Status.name : Status → Text
  | .fileNotFound => "FILE_NOT_FOUND".toList
  | .engineError => "ENGINE_ERROR".toList
  | .emptyInput => "EMPTY_INPUT".toList
  | .unsupported => "UNSUPPORTED".toList
  | .needsReview => "NEEDS_REVIEW".toList
  | .converted => "CONVERTED".toList

def Rejection.status : Rejection → Status
  | .missing _ => .fileNotFound
  | .unreadable _ => .engineError
  | .blank => .emptyInput

def Report.status (r : Report) : Status :=
  if !r.unsupported.isEmpty then .unsupported else if !r.warnings.isEmpty then .needsReview else .converted

/-- A conversion, held against its script, and what became of its program. -/
structure Conversion where
  report : Report
  fault : Option Report.Fault
  delivery : Delivery := .kept
  deriving DecidableEq, Repr

inductive Result where
  | rejected (label : Text) (why : Rejection)
  | converted (label : Text) (c : Conversion)
  deriving DecidableEq, Repr

namespace Result

def label : Result → Text
  | .rejected l _ => l
  | .converted l _ => l

def status : Result → Status
  | .rejected _ why => why.status
  | .converted _ c => c.report.status

/-- A conversion succeeds unless it does not pass its check or its program could not be written. -/
def success : Result → Bool
  | .rejected _ _ => false
  | .converted _ c =>
    c.fault.isNone &&
      match c.delivery with
      | .failed _ => false
      | _ => true

def report? : Result → Option Report
  | .rejected _ _ => none
  | .converted _ c => some c.report

def warnings (r : Result) : List Text := (r.report?.map fun x => x.warnings.map (·.message)).getD []

def unsupported (r : Result) : List Text := (r.report?.map fun x => x.unsupported.map (·.message)).getD []

def outputPath? : Result → Option Path
  | .converted _ { delivery := .written p, .. } => some p
  | _ => none

def written (r : Result) : Bool := r.outputPath?.isSome

/-- Why there was nothing to convert. -/
def error? : Result → Option Text
  | .rejected _ why => some why.message
  | .converted _ _ => none

def writeError? : Result → Option Text
  | .converted _ { delivery := .failed e, .. } => some e.message
  | _ => none

/-- What is wrong with the conversion; empty if nothing is. -/
def faultMessage : Result → Text
  | .converted _ { fault := some f, .. } => f.message
  | _ => []

end Result
end Scriptwright
