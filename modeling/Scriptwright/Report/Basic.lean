import Scriptwright.Conversion.Outcome
import Scriptwright.Conversion.Preamble
/-!
# Conversion reports

A report holds the converted program and the diagnostics, warnings and unsupported constructs apart.  It is put together
from the outcomes of the lines: a draft records what they contribute, one after the other.  That is to say that it holds
what all of them contribute (`foldl_record`).
-/
namespace Scriptwright

/-- The result of a conversion. -/
structure Report where
  code : Text
  dialect : Dialect
  language : Language := .auto
  warnings : List Diagnostic := []
  unsupported : List Diagnostic := []
  deriving DecidableEq, Repr

namespace Report

/-- All diagnostics by line, a warning before an unsupported construct of the same line. -/
def diagnostics (r : Report) : List Diagnostic :=
  (r.warnings ++ r.unsupported).mergeSort fun a b => a.line ≤ b.line

/-- Nothing to look at. -/
def isClean (r : Report) : Bool := r.warnings.isEmpty && r.unsupported.isEmpty

end Report

/-- A report in the making. -/
structure Draft where
  kinds : List Kind := []
  body : List Text := []
  warnings : List Diagnostic := []
  unsupported : List Diagnostic := []
  deriving DecidableEq, Repr

namespace Draft

/-- The draft with one more outcome. -/
def record (d : Draft) (o : Outcome) : Draft :=
  let d' := { d with kinds := d.kinds ++ [o.kind], body := d.body ++ o.lines }
  match o.diagnostic with
  | none => d'
  | some x =>
    match x.severity with
    | .warning => { d' with warnings := d'.warnings ++ [x] }
    | .unsupported => { d' with unsupported := d'.unsupported ++ [x] }

/-- The diagnostics of one severity, in the order of the outcomes. -/
def diagnosticsOf (severity : Severity) (os : List Outcome) : List Diagnostic :=
  (os.filterMap (·.diagnostic)).filter fun x => x.severity == severity

/-- What the outcomes contribute, taken together. -/
def ofOutcomes (os : List Outcome) : Draft where
  kinds := os.map (·.kind)
  body := os.flatMap (·.lines)
  warnings := diagnosticsOf .warning os
  unsupported := diagnosticsOf .unsupported os

theorem record_ofOutcomes (os : List Outcome) (o : Outcome) : (ofOutcomes os).record o = ofOutcomes (os ++ [o]) := by
  obtain ⟨k, ls, x⟩ := o
  cases x with
  | none => simp [record, ofOutcomes, diagnosticsOf]
  | some x => cases h : x.severity <;> simp [record, ofOutcomes, diagnosticsOf, h]

/-- Outcomes recorded after others. -/
theorem foldl_record_ofOutcomes (os os' : List Outcome) : os'.foldl record (ofOutcomes os) = ofOutcomes (os ++ os') := by
  induction os' generalizing os with
  | nil => simp
  | cons o os' ih => rw [List.foldl_cons, record_ofOutcomes, ih, List.append_assoc]; rfl

theorem foldl_record (os : List Outcome) : os.foldl record {} = ofOutcomes os := foldl_record_ofOutcomes [] os

/-- The report of a draft below a preamble. -/
def toReport (d : Draft) (opening : List Text) (dialect : Dialect) (language : Language) : Report where
  code := Text.joinLines (opening ++ d.body)
  dialect := dialect
  language := language
  warnings := d.warnings
  unsupported := d.unsupported

end Draft

/-- The conversion of a script: the outcomes of its lines recorded in their order. -/
def convert (s : Settings) (d : Dialect) (language : Language) (t : Text) : Report :=
  (((Script.lines t).map (Outcome.ofLine s d)).foldl Draft.record {}).toReport (preamble s d) d language

theorem convert_eq (s : Settings) (d : Dialect) (language : Language) (t : Text) : convert s d language t =
    (Draft.ofOutcomes ((Script.lines t).map (Outcome.ofLine s d))).toReport (preamble s d) d language := by
  rw [convert, Draft.foldl_record]

end Scriptwright
