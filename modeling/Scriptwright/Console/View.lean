import Scriptwright.Batch.Tally
import Scriptwright.Console.Block
import Scriptwright.Text.Case
/-!
# Views

How a report, a batch and a tally look on the console.
-/
namespace Scriptwright
namespace Console

def programVersion : Text := "scriptcuro v1.0.0".toList

/-- The panel at the start of a run. -/
def header (subtitle : String) : Block :=
  .panel
    (.markup (styled "bold cyan" programVersion ++ ['\n'] ++ List.replicate 66 '═'))
    (some (styled "bold white" subtitle.toList)) "cyan".toList true

/-! ## Reports -/

/-- The language in whose colours a script is shown. -/
def listingLanguage : Language → Text
  | .perl => "perl".toList
  | _ => "bash".toList

def programListing (code : Text) : Block := .listing code "python".toList

/-- A script and its program next to each other. -/
def sideBySide (script : Text) (r : Report) (name : Text) : Block :=
  .table none false false [{}, {}]
    [[.panel (.listing (Text.trimRight script) (listingLanguage r.language))
        (some (styled "bold red" ("LEGACY: ".toList ++ name))) "red".toList false,
      .panel (programListing (Text.trimRight r.code))
        (some (styled "bold green" ("CONVERTED (".toList ++ r.dialect.name ++ ")".toList))) "green".toList false]]

def severityMark (s : Severity) : Text :=
  styled (match s with | .warning => "yellow" | .unsupported => "red") (Text.upper s.name)

/-- The diagnostics of a report by line. -/
def diagnostics (r : Report) (name : Text) : Block :=
  if r.isClean then
    .markup (styled "dim" ("ℹ No manual review needed for ".toList ++ name ++ ".".toList))
  else
    .table (some ("Diagnostics: ".toList ++ name)) true false
      [⟨"Line".toList, .right, "dim".toList⟩, { header := "Severity".toList }, { header := "Message".toList }]
      (r.diagnostics.map fun d =>
        [.markup (Text.ofInt d.line), .markup (severityMark d.severity), .markup d.message])

/-! ## Batches -/

def statusColor (status : Text) : String :=
  if status = Status.converted.name then "green"
  else if status = Status.needsReview.name || status = Status.unsupported.name then "yellow"
  else "red"

def doneMark : Text := "✅".toList

def reviewMark : Text := "⚠️".toList

def failureMark : Text := "❌".toList

/-- The status that is shown. -/
def shownStatus (r : Row) : Text := r.status.getD "FAILED".toList

/-- The mark of a row. -/
def resultMark (r : Row) : Text :=
  if shownStatus r = Status.converted.name then doneMark else if r.success then reviewMark else failureMark

def batchCells (r : Row) : List Text :=
  [r.path, styled (statusColor (shownStatus r)) (shownStatus r), Text.ofNat r.warnings, Text.ofNat r.unsupported,
    resultMark r]

def batchColumns : List Column :=
  [{ header := "File Path".toList, style := "cyan".toList }, { header := "Status".toList, style := "bold".toList },
   { header := "Warnings".toList, justify := .right }, { header := "Unsupported".toList, justify := .right },
   { header := "Result".toList, justify := .center }]

/-- The rows of a batch. -/
def batchTable (rows : List Row) : Block :=
  .table (some "ScriptCuro Execution Report".toList) true true batchColumns
    (rows.map fun r => (batchCells r).map .markup)

/-- The counts of a batch. -/
def summary (t : Tally) : Block :=
  .panel
    (.markup (Text.joinLines
      [styled "bold white" "Summary Report".toList,
       List.replicate 40 '═',
       "Total Files:     ".toList ++ Text.ofNat t.total,
       "Success Rate:    ".toList ++ styled "green" t.percentText,
       "Warnings:        ".toList ++ styled "yellow" (Text.ofNat t.warnings),
       "Unsupported:     ".toList ++ styled "red" (Text.ofNat t.unsupported),
       "Written:         ".toList ++ Text.ofNat t.written,
       "System Errors:   ".toList ++ styled "red" (Text.ofNat t.systemErrors)]))
    none "dim".toList false

end Console
end Scriptwright
