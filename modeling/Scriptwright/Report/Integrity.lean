import Scriptwright.Report.Basic
/-!
# The integrity of a report

A report is held against the lines it was made from: there are no more diagnostics than lines of code, each list is in
strict order of its lines, each diagnostic points at a line of code, and the program has at least one line for each line
of the script.  The first of these that fails is reported.
-/
namespace Scriptwright

/-- What is wrong with a report. -/
inductive Report.Fault where
  | tooManyDiagnostics (total codeLines : Nat)
  | outOfOrder (list : Severity)
  | strayLines (lines : List Int)
  | missingOutput (inputLines : Nat) (outputLines : Int)
  deriving DecidableEq, Repr

namespace Report.Fault

/-- The name of a list of diagnostics. -/
def listName : Severity → Text
  | .warning => "warnings".toList
  | .unsupported => "unsupported".toList

/-- Numbers between brackets. -/
def numberList (ns : List Int) : Text := '[' :: List.intercalate ", ".toList (ns.map Text.ofInt) ++ [']']

def message (f : Fault) : Text :=
  "Validation Failed: ".toList ++
    match f with
    | .tooManyDiagnostics total codeLines =>
      Text.ofNat total ++ " diagnostics for ".toList ++ Text.ofNat codeLines ++ " convertible lines.".toList
    | .outOfOrder list => listName list ++ " are not in source order.".toList
    | .strayLines lines => "diagnostics reference non-code lines ".toList ++ numberList lines ++ ['.']
    | .missingOutput inputLines outputLines =>
      Text.ofNat inputLines ++ " input lines but ".toList ++ Text.ofInt outputLines ++ " output lines.".toList

end Report.Fault

namespace Report

/-- Each number is below the next one. -/
def strictlyIncreasing : List Int → Bool
  | a :: b :: rest => a < b && strictlyIncreasing (b :: rest)
  | _ => true

/-- The numbers of the diagnostics that point at none of the given lines. -/
def strayLines (r : Report) (codeLines : List Line) : List Int :=
  (r.diagnostics.map (·.line)).filter fun n => !(codeLines.any fun l => l.number == n)

/-- The number of lines below the preamble. -/
def bodyLength (r : Report) : Int :=
  (Text.splitLines r.code).length - (preamble {} r.dialect).length

/-- What is wrong with the report as a conversion of the lines. -/
def fault? (r : Report) (lines : List Line) : Option Fault :=
  let codeLines := lines.filter (·.isCode)
  let total := r.warnings.length + r.unsupported.length
  let stray := r.strayLines codeLines
  if codeLines.length < total then some (.tooManyDiagnostics total codeLines.length)
  else if !strictlyIncreasing (r.warnings.map (·.line)) then some (.outOfOrder .warning)
  else if !strictlyIncreasing (r.unsupported.map (·.line)) then some (.outOfOrder .unsupported)
  else if !stray.isEmpty then some (.strayLines stray)
  else if !lines.isEmpty && r.bodyLength < lines.length then some (.missingOutput lines.length r.bodyLength)
  else none

/-- The message of a report that passes. -/
def passMessage : Text := "Report passes line-level integrity check.".toList

/-- Whether the report passes, and the message that says so or why not. -/
def verdict (r : Report) (lines : List Line) : Bool × Text :=
  match r.fault? lines with
  | none => (true, passMessage)
  | some f => (false, f.message)

end Report
end Scriptwright
