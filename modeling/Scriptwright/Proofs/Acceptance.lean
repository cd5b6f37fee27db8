import Mathlib.Data.List.Perm.Subperm
import Scriptwright.Proofs.Integrity
/-!
# What the integrity check lets through

The check looks at the order of the warnings and at that of the unsupported constructs, each list for itself, and at the
number of both together.  So a line has at most one diagnostic of each list, and the diagnostics merged by line are in
strict order exactly if no line has one of both (`strictlyOrdered_iff`).  The check does not see to that: it accepts a
report with a warning and an unsupported construct on the same line, as long as another line of code has neither
(`two_diagnostics_pass`).  Lines with two are at most as many as lines of code with none (`doubled_le_bare`), which is all
that the common number of diagnostics gives.
-/
namespace Scriptwright
namespace Report

def warningLines (r : Report) : List Int := r.warnings.map (·.line)

def unsupportedLines (r : Report) : List Int := r.unsupported.map (·.line)

/-- The lines of the merged diagnostics. -/
def diagnosticLines (r : Report) : List Int := r.diagnostics.map (·.line)

variable {r : Report} {ls : List Line}

theorem mem_diagnostics {x : Diagnostic} : x ∈ r.diagnostics ↔ x ∈ r.warnings ++ r.unsupported := List.mem_mergeSort

theorem diagnosticLines_perm (r : Report) : r.diagnosticLines.Perm (r.warningLines ++ r.unsupportedLines) := by
  unfold diagnosticLines warningLines unsupportedLines diagnostics
  rw [← List.map_append]
  exact (List.mergeSort_perm _ _).map _

theorem mem_diagnosticLines {n : Int} : n ∈ r.diagnosticLines ↔ n ∈ r.warningLines ∨ n ∈ r.unsupportedLines := by
  rw [r.diagnosticLines_perm.mem_iff, List.mem_append]

theorem diagnosticLines_sorted (r : Report) : r.diagnosticLines.Pairwise (· ≤ ·) :=
  List.pairwise_map.2 (pairwise_mergeSort_line _)

theorem pairwise_lt_iff_nodup {ns : List Int} (h : ns.Pairwise (· ≤ ·)) : ns.Pairwise (· < ·) ↔ ns.Nodup := by
  constructor
  · exact fun hlt => hlt.imp Int.ne_of_lt
  · exact fun hne => (h.and hne).imp fun ⟨hle, hne⟩ => by omega

theorem Belongs.nodup_warningLines (h : r.Belongs ls) : r.warningLines.Nodup := h.warningsInOrder.imp Int.ne_of_lt

theorem Belongs.nodup_unsupportedLines (h : r.Belongs ls) : r.unsupportedLines.Nodup :=
  h.unsupportedInOrder.imp Int.ne_of_lt

/-- **The merged diagnostics are in strict order exactly if no line has one of each list.** -/
theorem Belongs.strictlyOrdered_iff (h : r.Belongs ls) :
    r.diagnosticLines.Pairwise (· < ·) ↔ ∀ n ∈ r.warningLines, n ∉ r.unsupportedLines := by
  rw [pairwise_lt_iff_nodup r.diagnosticLines_sorted, r.diagnosticLines_perm.nodup_iff, List.nodup_append']
  simp only [h.nodup_warningLines, h.nodup_unsupportedLines, true_and, List.disjoint_left]

theorem Belongs.count_diagnosticLines (h : r.Belongs ls) (n : Int) :
    r.diagnosticLines.count n = (if n ∈ r.warningLines then 1 else 0) + if n ∈ r.unsupportedLines then 1 else 0 := by
  rw [r.diagnosticLines_perm.count_eq, List.count_append, h.nodup_warningLines.count, h.nodup_unsupportedLines.count]

/-! ## What the number of diagnostics gives -/

/-- The lines with a warning and an unsupported construct. -/
def doubled (r : Report) : List Int := r.warningLines.filter fun n => n ∈ r.unsupportedLines

/-- The lines of code without a diagnostic. -/
def bare (r : Report) (ls : List Line) : List Line := ls.filter fun l => l.isCode && l.number ∉ r.diagnosticLines

/-- **Lines with two diagnostics are at most as many as lines of code with none.** -/
theorem Belongs.doubled_le_bare (h : r.Belongs ls) (hls : (ls.map (·.number)).Nodup) :
    r.doubled.length ≤ (r.bare ls).length := by
  -- every line of code with a diagnostic is one of the unsupported ones, or one of the warnings besides these
  let code := ls.filter (·.isCode)
  let noted := code.filter fun l => l.number ∈ r.diagnosticLines
  let single := r.warningLines.filter fun n => n ∉ r.unsupportedLines
  have hnoted : noted.length ≤ single.length + r.unsupportedLines.length := by
    have hnodup : (noted.map (·.number)).Nodup :=
      hls.sublist ((List.filter_sublist.trans List.filter_sublist).map _)
    have hsub : noted.map (·.number) ⊆ single ++ r.unsupportedLines := by
      intro n hn
      obtain ⟨l, hl, rfl⟩ := List.mem_map.1 hn
      have hmem := of_decide_eq_true (List.mem_filter.1 hl).2
      by_cases hu : l.number ∈ r.unsupportedLines
      · exact List.mem_append_right _ hu
      · refine List.mem_append_left _ (List.mem_filter.2 ⟨?_, by simpa using hu⟩)
        exact (mem_diagnosticLines.1 hmem).resolve_right hu
    have hle := (hnodup.subperm hsub).length_le
    rwa [List.length_map, List.length_append] at hle
  have hwarnings : r.warningLines.length = r.doubled.length + single.length := by
    simpa [doubled, single, List.countP_eq_length_filter] using
      List.length_eq_countP_add_countP (fun n => decide (n ∈ r.unsupportedLines)) (l := r.warningLines)
  have hcode : code.length = noted.length + (r.bare ls).length := by
    have hbare : r.bare ls = code.filter fun l => decide (l.number ∉ r.diagnosticLines) := by
      simp only [bare, code, List.filter_filter, Bool.and_comm]
    rw [hbare]
    simpa [noted, List.countP_eq_length_filter] using
      List.length_eq_countP_add_countP (fun l : Line => decide (l.number ∈ r.diagnosticLines)) (l := code)
  have hbudget : r.warningLines.length + r.unsupportedLines.length ≤ code.length := by
    simpa only [warningLines, unsupportedLines, List.length_map] using h.budget
  omega

/-! ## Accepted reports -/

/-- **How far an accepted report has one diagnostic for a line.**  The merged diagnostics are in order, no line has more
than one of each list, and they are in strict order exactly if no line has one of both.  The lines that do are no more
than the lines of code without any. -/
theorem accepted_diagnostics (hls : (ls.map (·.number)).Nodup) (h : r.fault? ls = none) :
    r.diagnosticLines.Pairwise (· ≤ ·) ∧
    (∀ n, r.diagnosticLines.count n =
      (if n ∈ r.warningLines then 1 else 0) + if n ∈ r.unsupportedLines then 1 else 0) ∧
    (r.diagnosticLines.Pairwise (· < ·) ↔ ∀ n ∈ r.warningLines, n ∉ r.unsupportedLines) ∧
    r.doubled.length ≤ (r.bare ls).length := by
  have hbelongs : r.Belongs ls := (fault?_eq_none_iff r ls).1 h
  exact ⟨r.diagnosticLines_sorted, hbelongs.count_diagnosticLines, hbelongs.strictlyOrdered_iff,
    hbelongs.doubled_le_bare hls⟩

/-- Warnings around an unsupported construct, and a blank line. -/
theorem accepted_diagnostics_interleaved :
    let r : Report :=
      { code := "import os\nimport re\nimport sys\n\n# ls\n# awk\n# log\n\n# pwd".toList, dialect := .general,
        warnings := [⟨.warning, 1, "ls".toList⟩, ⟨.warning, 4, "pwd".toList⟩],
        unsupported := [⟨.unsupported, 2, "awk".toList⟩] }
    let ls : List Line := [⟨1, "ls".toList⟩, ⟨2, "awk".toList⟩, ⟨3, []⟩, ⟨4, "pwd".toList⟩]
    (ls.map (·.number)).Nodup ∧ r.fault? ls = none ∧ r.diagnosticLines.Pairwise (· < ·) := by
  intro r ls
  have hls : (ls.map (·.number)).Nodup := by decide
  have hpass : r.fault? ls = none := by
    refine (fault?_eq_none_iff r ls).2 ⟨by decide, by decide, by decide, ?_, .inr (by decide)⟩
    simp only [mem_diagnostics]
    decide
  have hapart : ∀ n ∈ r.warningLines, n ∉ r.unsupportedLines := by decide
  exact ⟨hls, hpass, (accepted_diagnostics hls hpass).2.2.1.2 hapart⟩

/-- **Two diagnostics on one line pass the check**, because the second line of code has none. -/
theorem two_diagnostics_pass :
    let r : Report :=
      { code := "import os\nimport re\nimport sys\n\n# ls\n# pwd".toList, dialect := .general,
        warnings := [⟨.warning, 1, "ls".toList⟩], unsupported := [⟨.unsupported, 1, "ls".toList⟩] }
    let ls : List Line := [⟨1, "ls".toList⟩, ⟨2, "pwd".toList⟩]
    (ls.map (·.number)).Nodup ∧ r.verdict ls = (true, passMessage) ∧ ¬ r.diagnosticLines.Pairwise (· < ·) := by
  intro r ls
  have hbelongs : r.Belongs ls := by
    refine ⟨by decide, by decide, by decide, ?_, .inr (by decide)⟩
    simp only [mem_diagnostics]
    decide
  refine ⟨by decide, ?_, fun hstrict => ?_⟩
  · rw [verdict, (fault?_eq_none_iff r ls).2 hbelongs]
  · exact hbelongs.strictlyOrdered_iff.1 hstrict 1 (by decide) (by decide)

end Report
end Scriptwright
