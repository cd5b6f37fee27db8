import Scriptwright.Proofs.Layout
import Scriptwright.Proofs.Segments
/-!
# Scripts put together

A line is converted for itself, and its number is only written into its diagnostic.  So two scripts that meet at a line
end are converted one after the other: the lines of the second stand below those of the first, and its diagnostics move
down by as many lines as the first script has (`convert_append`).
-/
namespace Scriptwright

/-! ## Lines moved down -/

/-- The line, `n` lines further down. -/
def Line.movedBy (n : Int) (l : Line) : Line := { l with number := l.number + n }

/-- The diagnostic of a line `n` lines further down. -/
def Diagnostic.movedBy (n : Int) (x : Diagnostic) : Diagnostic := { x with line := x.line + n }

def Outcome.movedBy (n : Int) (o : Outcome) : Outcome := { o with diagnostic := o.diagnostic.map (·.movedBy n) }

theorem Outcome.ofConstruct_movedBy (s : Settings) (n : Int) (l : Line) (c : Construct) :
    ofConstruct s (l.movedBy n) c = (ofConstruct s l c).movedBy n := by
  cases c <;> rfl

theorem Outcome.ofLine_movedBy (s : Settings) (d : Dialect) (n : Int) (l : Line) :
    ofLine s d (l.movedBy n) = (ofLine s d l).movedBy n :=
  ofConstruct_movedBy s n l (Construct.ofText s d l.text)

namespace Script

theorem numberFrom_movedBy (n : Int) : ∀ (rs : List Text) (m : Int),
    numberFrom (m + n) rs = (numberFrom m rs).map (·.movedBy n)
  | [], _ => rfl
  | r :: rs, m => by
    rw [numberFrom, numberFrom, List.map_cons, ← numberFrom_movedBy n rs (m + 1), Int.add_right_comm]
    rfl

/-- **The lines of two scripts that meet at a line end**: those of the second come after all those of the first. -/
theorem lines_append {a b : Text} (h : Text.MeetAtLineEnd a b) (hb : b.head? ≠ some Text.mark) :
    lines (a ++ b) = lines a ++ (lines b).map (·.movedBy (lines a).length) := by
  unfold lines
  rw [physicalLines_append h hb, numberFrom_append, numberFrom_movedBy, numberFrom_length]

end Script

/-! ## What moved lines become -/

variable (s : Settings) (d : Dialect)

theorem segments_append (ls ls' : List Line) : segments s d (ls ++ ls') = segments s d ls ++ segments s d ls' :=
  List.flatMap_append

theorem segments_movedBy (n : Int) (ls : List Line) : segments s d (ls.map (·.movedBy n)) = segments s d ls := by
  unfold segments
  rw [List.flatMap_map]
  simp only [Outcome.ofLine_movedBy]
  rfl

theorem notes_append (ls ls' : List Line) : notes s d (ls ++ ls') = notes s d ls ++ notes s d ls' :=
  List.filterMap_append

theorem notes_movedBy (n : Int) (ls : List Line) :
    notes s d (ls.map (·.movedBy n)) = (notes s d ls).map (·.movedBy n) := by
  unfold notes
  rw [List.filterMap_map, List.map_filterMap]
  congr 1
  funext l
  show (Outcome.ofLine s d (l.movedBy n)).diagnostic = _
  rw [Outcome.ofLine_movedBy]
  rfl

/-- The diagnostics of one severity, of two scripts one below the other. -/
theorem filter_notes_append (v : Severity) (n : Int) (ls ls' : List Line) :
    (notes s d (ls ++ ls'.map (·.movedBy n))).filter (·.severity == v) =
      (notes s d ls).filter (·.severity == v) ++ ((notes s d ls').filter (·.severity == v)).map (·.movedBy n) := by
  rw [notes_append, notes_movedBy, List.filter_append, List.filter_map]
  rfl

/-! ## Programs -/

theorem Text.joinLines_cons : ∀ (l : Text) (ls : List Text), joinLines (l :: ls) = l ++ ls.flatMap ('\n' :: ·)
  | l, [] => by simp [joinLines]
  | l, l' :: ls => by
    have ih : List.intercalate ['\n'] (l' :: ls) = _ := joinLines_cons l' ls
    rw [joinLines, List.intercalate_cons_cons, ih, List.flatMap_cons, List.append_assoc]
    rfl

/-- Lines joined below others follow the text of those, each with a line feed in front. -/
theorem Text.joinLines_append {ls : List Text} (hne : ls ≠ []) (ls' : List Text) :
    joinLines (ls ++ ls') = joinLines ls ++ ls'.flatMap ('\n' :: ·) := by
  obtain ⟨l, rest, rfl⟩ := List.exists_cons_of_ne_nil hne
  rw [List.cons_append, joinLines_cons, joinLines_cons, List.flatMap_append, List.append_assoc]

theorem convert_code_eq_append (language : Language) (t : Text) :
    (convert s d language t).code =
      Text.joinLines (preamble s d) ++ (segments s d (Script.lines t)).flatMap ('\n' :: ·) := by
  rw [convert_code, Text.joinLines_append (preamble_ne_nil s d)]

/-- **Two scripts that meet at a line end are converted one after the other.**  The lines that the second becomes stand
below those that the first becomes; of its diagnostics only the line numbers change, by the number of lines of the
first. -/
theorem convert_append (s : Settings) (d : Dialect) (language : Language) (a b : Text) (h : Text.MeetAtLineEnd a b)
    (hb : b.head? ≠ some Text.mark) :
    let r := convert s d language
    let n := (Script.lines a).length
    (∀ t, (r t).code = Text.joinLines (preamble s d ++ segments s d (Script.lines t))) ∧
    segments s d (Script.lines (a ++ b)) = segments s d (Script.lines a) ++ segments s d (Script.lines b) ∧
    (r (a ++ b)).code = (r a).code ++ (r b).code.drop (Text.joinLines (preamble s d)).length ∧
    (r (a ++ b)).warnings = (r a).warnings ++ (r b).warnings.map (·.movedBy n) ∧
    (r (a ++ b)).unsupported = (r a).unsupported ++ (r b).unsupported.map (·.movedBy n) := by
  intro r n
  have hlines : Script.lines (a ++ b) = Script.lines a ++ (Script.lines b).map (·.movedBy n) :=
    Script.lines_append h hb
  have hsegments : segments s d (Script.lines (a ++ b)) =
      segments s d (Script.lines a) ++ segments s d (Script.lines b) := by
    rw [hlines, segments_append, segments_movedBy]
  refine ⟨convert_code s d language, hsegments, ?_, ?_, ?_⟩
  · -- what is dropped from the second program is its preamble, the same as that of the first
    show (convert s d language (a ++ b)).code = (convert s d language a).code ++ _
    rw [convert_code_eq_append, convert_code_eq_append, hsegments, List.flatMap_append, ← List.append_assoc]
    show _ = _ ++ (convert s d language b).code.drop _
    rw [convert_code_eq_append, List.drop_left]
  · show (convert s d language (a ++ b)).warnings = _
    rw [convert_warnings, hlines, filter_notes_append, ← convert_warnings s d language,
      ← convert_warnings s d language]
  · show (convert s d language (a ++ b)).unsupported = _
    rw [convert_unsupported, hlines, filter_notes_append, ← convert_unsupported s d language,
      ← convert_unsupported s d language]

/-- A mark in front of the first script, a carriage return at the seam, and a diagnostic on each side of it. -/
theorem convert_append_at_return :
    let a := Text.mark :: "ls\r".toList
    let b := "x=1\nawk".toList
    (Text.MeetAtLineEnd a b ∧ b.head? ≠ some Text.mark) ∧
    segments {} .general (Script.lines (a ++ b)) =
      ["# ls".toList] ++
        ["x = 1".toList, "# Unsupported construct: awk".toList, "# Log: \"Unsupported construct: awk\"".toList] ∧
    (convert {} .general .auto (a ++ b)).warnings = [⟨.warning, 1, "Line may need manual conversion: ls".toList⟩] ++ [] ∧
    (convert {} .general .auto (a ++ b)).unsupported = [] ++ [⟨.unsupported, 2 + 1, "AWK command: awk".toList⟩] := by
  intro a b
  have hmeet : Text.MeetAtLineEnd a b := .inr ⟨by decide, by decide⟩
  have hmark : b.head? ≠ some Text.mark := by decide
  obtain ⟨-, hsegments, -, hwarnings, hunsupported⟩ := convert_append {} .general .auto a b hmeet hmark
  refine ⟨⟨hmeet, hmark⟩, ?_, ?_, ?_⟩
  · rw [hsegments]
    decide +kernel
  · rw [hwarnings]
    decide +kernel
  · rw [hunsupported]
    decide +kernel

end Scriptwright
