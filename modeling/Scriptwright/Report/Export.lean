import Scriptwright.Report.Basic
import Scriptwright.Json.Writer
import Scriptwright.Yaml.Writer
/-!
# Reports in other formats

A report is handed on as a data value, which JSON and YAML write out, or as a plain list of its diagnostics.  Each of
these turns line numbers into text, and there is a limit on the digits of what is turned into text: a report with a number
beyond it is not written at all.
-/
namespace Scriptwright

def Diagnostic.toValue (d : Diagnostic) : Value :=
  .record [("line", .int d.line), ("severity", .text d.severity.name), ("message", .text d.message)]

namespace Report

/-- The report as a data value. -/
def toValue (r : Report) : Value :=
  .record
    [("target_dialect", .text r.dialect.name),
     ("source_language", .text r.language.name),
     ("filename", .text (downloadName r.dialect)),
     ("converted_code", .text r.code),
     ("warnings", .list (r.warnings.map Diagnostic.toValue)),
     ("unsupported_constructs", .list (r.unsupported.map Diagnostic.toValue))]

def toJson (r : Report) : Text := Json.write r.toValue

def toYaml (r : Report) : Text := Yaml.write r.toValue

/-- A heading and the diagnostics below it; nothing when there are none. -/
def listing (heading : String) (ds : List Diagnostic) : List Text :=
  if ds.isEmpty then []
  else heading.toList :: ds.map fun d => "  L".toList ++ Text.ofInt d.line ++ ": ".toList ++ d.message

/-- The diagnostics for a reader. -/
def toText (r : Report) : Text :=
  Text.joinLines (listing "Conversion Warnings:" r.warnings ++ listing "Unsupported Constructs:" r.unsupported)

/-- What a report is written as. -/
inductive Form where
  | json
  | yaml
  | text
  deriving DecidableEq, Repr

def document (r : Report) : Form → Text
  | .json => r.toJson
  | .yaml => r.toYaml
  | .text => r.toText

/-- A line number has more digits than the limit. -/
structure TooLong where
  limit : Nat
  deriving DecidableEq, Repr

def TooLong.message (e : TooLong) : Text := Value.digitsMessage e.limit

/-- The document of a report, if all line numbers keep to the limit on digits; a limit of zero is none. -/
def exportAs (limit : Nat) (f : Form) (r : Report) : Except TooLong Text :=
  if (r.warnings ++ r.unsupported).all fun d => Value.fitsDigits limit d.line then .ok (r.document f)
  else .error ⟨limit⟩

end Report
end Scriptwright
