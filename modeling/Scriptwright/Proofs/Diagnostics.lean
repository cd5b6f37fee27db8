import Mathlib.Data.List.Nodup
import Scriptwright.Proofs.Outcome
import Scriptwright.Report.Basic
/-!
# Diagnostics in the order of the script

A draft keeps warnings and unsupported constructs apart, and the report sorts them together again.  The sort undoes the
parting: line numbers increase from line to line and a line has at most one diagnostic, so the lists of a script's
diagnostics have one sorted merge, the diagnostics as the lines gave them (`mergeSort_parted`, `convert_diagnostics`).
-/
namespace Scriptwright

/-! ## Line numbers -/

namespace Script

theorem le_number_of_mem : ∀ {rs : List Text} {n : Int} {l : Line}, l ∈ numberFrom n rs → n ≤ l.number
  | [], _, _, h => by cases h
  | r :: rs, n, l, h => by
    rcases List.mem_cons.1 h with rfl | h
    · exact Int.le_refl n
    · have := le_number_of_mem h
      omega

theorem pairwise_numberFrom : ∀ (rs : List Text) (n : Int),
    (numberFrom n rs).Pairwise fun a b => a.number < b.number
  | [], _ => List.Pairwise.nil
  | r :: rs, n => by
    refine List.Pairwise.cons (fun l hl => ?_) (pairwise_numberFrom rs (n + 1))
    have := le_number_of_mem hl
    show n < l.number
    omega

theorem pairwise_lines (t : Text) : (lines t).Pairwise fun a b => a.number < b.number := pairwise_numberFrom _ 1

end Script

/-! ## The diagnostics of some lines -/

/-- The diagnostics of the lines, in the order of the lines. -/
def notes (s : Settings) (d : Dialect) (ls : List Line) : List Diagnostic :=
  ls.filterMap fun l => (Outcome.ofLine s d l).diagnostic

variable {s : Settings} {d : Dialect} {ls : List Line}

theorem mem_notes {x : Diagnostic} : x ∈ notes s d ls ↔ ∃ l ∈ ls, (Outcome.ofLine s d l).diagnostic = some x :=
  List.mem_filterMap

theorem notes_cons (l : Line) (ls : List Line) :
    notes s d (l :: ls) = (Outcome.ofLine s d l).diagnostic.toList ++ notes s d ls := by
  unfold notes
  rw [List.filterMap_cons]
  cases (Outcome.ofLine s d l).diagnostic <;> rfl

/-- **The diagnostics of lines in order are in strict order.** -/
theorem pairwise_notes (h : ls.Pairwise fun a b => a.number < b.number) :
    (notes s d ls).Pairwise fun a b => a.line < b.line := by
  unfold notes
  rw [List.pairwise_filterMap]
  refine h.imp fun hlt x hx y hy => ?_
  rw [(Outcome.noteOn_of_diagnostic hx).line, (Outcome.noteOn_of_diagnostic hy).line]
  exact hlt

theorem diagnosticsOf_map (v : Severity) :
    Draft.diagnosticsOf v (ls.map (Outcome.ofLine s d)) = (notes s d ls).filter (·.severity == v) := by
  unfold Draft.diagnosticsOf notes
  rw [List.filterMap_map]
  rfl

/-- The lines of the unsupported constructs are the lines of that kind. -/
theorem unsupported_notes_lines : ∀ ls : List Line,
    ((notes s d ls).filter (·.severity == .unsupported)).map (·.line) =
      (ls.filter fun l => l.kind s d = .unsupportedCommand).map (·.number)
  | [] => rfl
  | l :: ls => by
    have hiff := Outcome.severity_eq_unsupported_iff s d l
    rw [notes_cons, List.filter_append, List.map_append, unsupported_notes_lines ls, List.filter_cons]
    cases hx : (Outcome.ofLine s d l).diagnostic with
    | none =>
      have hk : l.kind s d ≠ .unsupportedCommand := fun hk => by simpa [hx] using hiff.2 hk
      simp [hk]
    | some x =>
      rw [hx] at hiff
      simp only [Option.map_some, Option.some.injEq] at hiff
      by_cases hk : l.kind s d = .unsupportedCommand
      · simp [hk, hiff.2 hk, (Outcome.noteOn_of_diagnostic hx).line]
      · have hv : x.severity ≠ .unsupported := fun hv => hk (hiff.1 hv)
        simp [hk, hv]

/-! ## Parting and merging -/

theorem severity_eq_warning_iff_ne (x : Diagnostic) : (x.severity == .warning) = !(x.severity == .unsupported) := by
  cases x.severity <;> rfl

theorem parted_perm (xs : List Diagnostic) :
    (xs.filter (·.severity == .warning) ++ xs.filter (·.severity == .unsupported)).Perm xs := by
  simp only [severity_eq_warning_iff_ne]
  exact List.perm_append_comm.trans (List.filter_append_perm _ xs)

theorem pairwise_mergeSort_line (xs : List Diagnostic) :
    (xs.mergeSort fun a b => a.line ≤ b.line).Pairwise fun a b => a.line ≤ b.line := by
  refine (List.pairwise_mergeSort ?_ ?_ _).imp of_decide_eq_true
  · intro a b c hab hbc
    exact decide_eq_true (Int.le_trans (of_decide_eq_true hab) (of_decide_eq_true hbc))
  · intro a b
    rcases Int.le_total a.line b.line with hab | hba
    · simp [hab]
    · simp [hba]

/-- **Sorting by line puts parted diagnostics back into order**, where each line has one at most. -/
theorem mergeSort_parted {xs : List Diagnostic} (h : xs.Pairwise fun a b => a.line < b.line) :
    (xs.filter (·.severity == .warning) ++ xs.filter (·.severity == .unsupported)).mergeSort
      (fun a b => a.line ≤ b.line) = xs := by
  have hperm := (List.mergeSort_perm _ fun a b : Diagnostic => decide (a.line ≤ b.line)).trans (parted_perm xs)
  have hsorted := pairwise_mergeSort_line (xs.filter (·.severity == .warning) ++ xs.filter (·.severity == .unsupported))
  -- `≤` on lines is antisymmetric only among diagnostics of different lines
  have hnodup : (xs.map (·.line)).Nodup := List.pairwise_map.2 (h.imp Int.ne_of_lt)
  refine List.Perm.eq_of_pairwise ?_ hsorted (h.imp Int.le_of_lt) hperm
  intro a b ha hb hab hba
  exact List.inj_on_of_nodup_map hnodup (hperm.mem_iff.1 ha) hb (Int.le_antisymm hab hba)

/-! ## Reports -/

theorem convert_warnings (s : Settings) (d : Dialect) (language : Language) (t : Text) :
    (convert s d language t).warnings = (notes s d (Script.lines t)).filter (·.severity == .warning) := by
  rw [convert_eq]
  exact diagnosticsOf_map .warning

theorem convert_unsupported (s : Settings) (d : Dialect) (language : Language) (t : Text) :
    (convert s d language t).unsupported = (notes s d (Script.lines t)).filter (·.severity == .unsupported) := by
  rw [convert_eq]
  exact diagnosticsOf_map .unsupported

theorem convert_diagnostics (s : Settings) (d : Dialect) (language : Language) (t : Text) :
    (convert s d language t).diagnostics = notes s d (Script.lines t) := by
  unfold Report.diagnostics
  rw [convert_warnings, convert_unsupported]
  exact mergeSort_parted (pairwise_notes (Script.pairwise_lines t))

/-- **The diagnostics of a report are those of the script's lines, in the order of the lines.**  They are in strict
order, the warnings and the unsupported constructs are those of the severity, each is a note on a line of code, and the
unsupported constructs stand on the lines of that kind. -/
theorem diagnostics_in_source_order (s : Settings) (d : Dialect) (language : Language) (t : Text) :
    let r := convert s d language t
    r.diagnostics = (Script.lines t).filterMap (fun l => (Outcome.ofLine s d l).diagnostic) ∧
    (r.diagnostics.map (·.line)).Pairwise (· < ·) ∧
    r.warnings = r.diagnostics.filter (·.severity == .warning) ∧
    r.unsupported = r.diagnostics.filter (·.severity == .unsupported) ∧
    (∀ x ∈ r.diagnostics, ∃ l ∈ Script.lines t, l.number = x.line ∧ l.isCode = true ∧ l.text <:+ x.message) ∧
    r.unsupported.map (·.line) =
      ((Script.lines t).filter fun l => l.kind s d = .unsupportedCommand).map (·.number) := by
  intro r
  have hr : r.diagnostics = notes s d (Script.lines t) := convert_diagnostics s d language t
  refine ⟨hr, ?_, ?_, ?_, ?_, ?_⟩
  · rw [hr, List.pairwise_map]
    exact pairwise_notes (Script.pairwise_lines t)
  · rw [hr]
    exact convert_warnings s d language t
  · rw [hr]
    exact convert_unsupported s d language t
  · intro x hx
    rw [hr] at hx
    obtain ⟨l, hl, hd⟩ := mem_notes.1 hx
    have hnote := Outcome.noteOn_of_diagnostic hd
    exact ⟨l, hl, hnote.line.symm, hnote.code, hnote.message⟩
  · rw [show r.unsupported = _ from convert_unsupported s d language t]
    exact unsupported_notes_lines (Script.lines t)

end Scriptwright
