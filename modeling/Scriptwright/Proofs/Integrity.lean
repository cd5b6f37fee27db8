import Scriptwright.Proofs.Segments
import Scriptwright.Batch.Workspace
/-!
# Conversions pass the integrity check

What the check asks of a report and the lines it was made from is `Report.Belongs`, and the check finds no fault exactly
where it holds (`fault?_eq_none_iff`).  It holds of every conversion and the lines of its script (`belongs_convert`):
the diagnostics are notes on different lines of code in the order of the script, and joining the lines of a program
loses none of them even where a name from the settings breaks a line.  So the check never stops a conversion
(`conversions_pass`).
-/
namespace Scriptwright

namespace Report

/-! ## What the check asks for -/

theorem strictlyIncreasing_iff_isChain : ∀ ns : List Int, strictlyIncreasing ns = true ↔ ns.IsChain (· < ·)
  | [] => by simp [strictlyIncreasing]
  | [_] => by simp [strictlyIncreasing]
  | a :: b :: rest => by
    simp only [strictlyIncreasing, Bool.and_eq_true, decide_eq_true_eq, List.isChain_cons_cons,
      strictlyIncreasing_iff_isChain (b :: rest)]

theorem strictlyIncreasing_iff (ns : List Int) : strictlyIncreasing ns = true ↔ ns.Pairwise (· < ·) :=
  (strictlyIncreasing_iff_isChain ns).trans List.isChain_iff_pairwise

/-- The report may have been made from the lines. -/
structure Belongs (r : Report) (ls : List Line) : Prop where
  budget : r.warnings.length + r.unsupported.length ≤ (ls.filter (·.isCode)).length
  warningsInOrder : (r.warnings.map (·.line)).Pairwise (· < ·)
  unsupportedInOrder : (r.unsupported.map (·.line)).Pairwise (· < ·)
  onCode : ∀ x ∈ r.diagnostics, ∃ l ∈ ls, l.isCode = true ∧ l.number = x.line
  output : ls = [] ∨ (ls.length : Int) ≤ r.bodyLength

theorem strayLines_eq_nil_iff (r : Report) (ls : List Line) :
    r.strayLines (ls.filter (·.isCode)) = [] ↔ ∀ x ∈ r.diagnostics, ∃ l ∈ ls, l.isCode = true ∧ l.number = x.line := by
  unfold strayLines
  simp only [List.filter_eq_nil_iff, List.mem_map, forall_exists_index, and_imp, forall_apply_eq_imp_iff₂,
    Bool.not_eq_true', Bool.not_eq_false, List.any_eq_true, List.mem_filter, beq_iff_eq, and_assoc]

/-- A guard that reports is passed where its condition fails. -/
theorem guard_eq_none_iff {c : Prop} [Decidable c] {f : Fault} {o : Option Fault} :
    (if c then some f else o) = none ↔ ¬ c ∧ o = none := by
  split <;> simp_all

theorem outputGuard_iff (r : Report) (ls : List Line) :
    ¬ (!ls.isEmpty && decide (r.bodyLength < ls.length)) = true ↔ ls = [] ∨ (ls.length : Int) ≤ r.bodyLength := by
  cases ls with
  | nil => simp
  | cons l rest => simp

/-- **The check finds no fault exactly in the reports that may have been made from the lines.** -/
theorem fault?_eq_none_iff (r : Report) (ls : List Line) : r.fault? ls = none ↔ r.Belongs ls := by
  unfold fault?
  simp only [guard_eq_none_iff, outputGuard_iff, Nat.not_lt, Bool.not_eq_true', Bool.not_eq_false,
    strictlyIncreasing_iff, List.isEmpty_iff, strayLines_eq_nil_iff, and_true]
  constructor
  · rintro ⟨hbudget, hwarnings, hunsupported, hcode, houtput⟩
    exact ⟨hbudget, hwarnings, hunsupported, hcode, houtput⟩
  · intro h
    exact ⟨h.budget, h.warningsInOrder, h.unsupportedInOrder, h.onCode, h.output⟩

end Report

/-! ## What conversions satisfy -/

/-- Only code has diagnostics. -/
theorem notes_filter_isCode (s : Settings) (d : Dialect) (ls : List Line) :
    notes s d (ls.filter (·.isCode)) = notes s d ls := by
  unfold notes
  rw [List.filterMap_filter]
  congr 1
  funext l
  by_cases hl : l.isCode = true
  · simp [hl]
  · cases hx : (Outcome.ofLine s d l).diagnostic with
    | none => simp
    | some x => exact absurd (Outcome.noteOn_of_diagnostic hx).code hl

theorem length_notes_le (s : Settings) (d : Dialect) (ls : List Line) :
    (notes s d ls).length ≤ (ls.filter (·.isCode)).length := by
  rw [← notes_filter_isCode]
  exact List.length_filterMap_le _ _

theorem length_preamble (s s' : Settings) (d : Dialect) : (preamble s d).length = (preamble s' d).length := by
  cases d <;> rfl

/-- A program has a line for each line of the script, below a preamble of the same length for all settings. -/
theorem length_le_bodyLength (s : Settings) (d : Dialect) (language : Language) (t : Text) :
    ((Script.lines t).length : Int) ≤ (convert s d language t).bodyLength := by
  -- the check measures with the preamble of the default settings
  have hjoin := Text.length_le_splitLines_joinLines (preamble s d ++ segments s d (Script.lines t))
  rw [← convert_code s d language, List.length_append, length_segments, length_preamble s {} d] at hjoin
  show _ ≤ ((Text.splitLines (convert s d language t).code).length : Int) - ((preamble {} d).length : Int)
  omega

/-- **A conversion belongs to the lines of its script.** -/
theorem belongs_convert (s : Settings) (d : Dialect) (language : Language) (t : Text) :
    (convert s d language t).Belongs (Script.lines t) := by
  have hnotes : (notes s d (Script.lines t)).Pairwise fun a b => a.line < b.line :=
    pairwise_notes (Script.pairwise_lines t)
  refine ⟨?_, ?_, ?_, ?_, .inr (length_le_bodyLength s d language t)⟩
  · rw [convert_warnings, convert_unsupported, ← List.length_append, (parted_perm _).length_eq]
    exact length_notes_le s d _
  · rw [convert_warnings, List.pairwise_map]
    exact hnotes.filter _
  · rw [convert_unsupported, List.pairwise_map]
    exact hnotes.filter _
  · intro x hx
    rw [convert_diagnostics] at hx
    obtain ⟨l, hl, hd⟩ := mem_notes.1 hx
    have hnote := Outcome.noteOn_of_diagnostic hd
    exact ⟨l, hl, hnote.code, hnote.line.symm⟩

theorem fault?_convert (s : Settings) (d : Dialect) (language : Language) (t : Text) :
    (convert s d language t).fault? (Script.lines t) = none :=
  (Report.fault?_eq_none_iff _ _).2 (belongs_convert s d language t)

/-- A workspace rejects a blank text, and what it converts carries no fault. -/
theorem Workspace.convertText_eq (w : Workspace) (d : Dialect) (language : Language) (label t : Text) :
    w.convertText d language label t =
      ([], if Text.allBlank t then .rejected label .blank
        else .converted label ⟨convert w.settings d language t, none, .kept⟩) := by
  unfold convertText
  simp only [fault?_convert]
  split <;> rfl

/-- **Every conversion belongs to the lines of its script and passes the check against them**, the conversion of no
text included, so what a workspace converts is logged without a warning and carries no fault. -/
theorem conversions_pass (s : Settings) (d : Dialect) (language : Language) (given : Option Text) :
    let t := Script.textOf given
    (convert s d language t).Belongs (Script.lines t) ∧
    (convert s d language t).verdict (Script.lines t) = (true, Report.passMessage) ∧
    ∀ (w : Workspace) (label : Text), w.convertText d language label t =
      ([], if Text.allBlank t then .rejected label .blank
        else .converted label ⟨convert w.settings d language t, none, .kept⟩) := by
  intro t
  refine ⟨belongs_convert s d language t, ?_, fun w label => w.convertText_eq d language label t⟩
  unfold Report.verdict
  rw [fault?_convert]

end Scriptwright
