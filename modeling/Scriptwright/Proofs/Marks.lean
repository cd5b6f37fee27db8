import Mathlib.Data.List.Forall2
import Scriptwright.Console.View
import Scriptwright.Proofs.Accounting
/-!
# The marks of a batch

Each row of the table of a batch ends with a mark.  The status chooses it, and success is asked only if the status leaves
it open; but a status is settled before the program is written and knows nothing of a write that fails.  As no conversion
carries a fault, this shows in one case only: a conversion without diagnostics whose program could not be written is lost
(`Result.isLost`), and its row says that all is done (`lost_program_marked_done`).  Every other result is marked as what
it is, so the failure marks of the table and the lost results make up the failures that the tally counts
(`failures_marked_unless_lost`).
-/
namespace Scriptwright

/-! ## Columns -/

namespace Console

def Block.text? : Block → Option Text
  | .markup t => some t
  | _ => none

/-- What a table holds under a header, row by row. -/
def Block.column (header : Text) : Block → List (Option Text)
  | .table _ _ _ columns rows => rows.map fun cells => cells[columns.findIdx (·.header == header)]?.bind Block.text?
  | _ => []

theorem column_batchTable (header : Text) (rows : List Row) :
    (batchTable rows).column header = rows.map fun r => (batchCells r)[batchColumns.findIdx (·.header == header)]? := by
  have htext : ∀ cell : Option Text, (cell.map Block.markup).bind Block.text? = cell
    | none => rfl
    | some _ => rfl
  simp only [batchTable, Block.column, List.map_map]
  refine List.map_congr_left fun r _ => ?_
  rw [Function.comp_apply, List.getElem?_map, htext]

theorem paths_batchTable (rows : List Row) :
    (batchTable rows).column "File Path".toList = rows.map fun r => some r.path :=
  column_batchTable _ rows

theorem marks_batchTable (rows : List Row) :
    (batchTable rows).column "Result".toList = rows.map fun r => some (resultMark r) :=
  column_batchTable _ rows

end Console

/-! ## Results -/

theorem Report.status_eq_converted_iff (r : Report) : r.status = .converted ↔ r.isClean = true := by
  unfold Report.status Report.isClean
  cases r.warnings.isEmpty <;> cases r.unsupported.isEmpty <;> decide

namespace Result

def isClean (r : Result) : Bool := r.report?.any (·.isClean)

/-- A conversion without diagnostics whose program could not be written. -/
def isLost (r : Result) : Bool := r.isClean && r.writeError?.isSome

/-- What a mark says of a result. -/
structure ShownBy (r : Result) (mark : Option Text) : Prop where
  failure : mark = some Console.failureMark ↔ r.success = false ∧ r.isLost = false
  review : mark = some Console.reviewMark ↔ r.success = true ∧ r.isClean = false
  done : mark = some Console.doneMark ↔ r.success = true ∧ r.isClean = true ∨ r.isLost = true

theorem name_status_eq_converted_iff (r : Result) : r.status.name = Status.converted.name ↔ r.isClean = true := by
  have hname : ∀ s : Status, s.name = Status.converted.name ↔ s = .converted := fun s => by cases s <;> decide
  rw [hname]
  cases r with
  | rejected label why =>
    have hstatus : why.status ≠ .converted := by cases why <;> intro h <;> cases h
    exact iff_of_false hstatus Bool.false_ne_true
  | converted label c => exact c.report.status_eq_converted_iff

theorem resultMark_row (r : Result) :
    Console.resultMark r.row =
      if r.isClean then Console.doneMark else if r.success then Console.reviewMark else Console.failureMark :=
  if_congr r.name_status_eq_converted_iff rfl rfl

theorem success_of_isLost {r : Result} (h : r.isLost = true) : r.success = false := by
  obtain ⟨-, hwrite⟩ := Bool.and_eq_true_iff.1 h
  cases r with
  | rejected label why => rfl
  | converted label c =>
    obtain ⟨report, fault, delivery⟩ := c
    cases delivery with
    | failed e => exact Bool.and_false _
    | kept => cases hwrite
    | written path => cases hwrite

/-- Without a fault, only a write can fail a conversion. -/
theorem Faultless.isLost_eq {r : Result} (h : r.Faultless) : r.isLost = (r.isClean && !r.success) := by
  cases r with
  | rejected label why => rfl
  | converted label c =>
    obtain ⟨report, fault, delivery⟩ := c
    obtain rfl : fault = none := h
    cases delivery <;> rfl

/-- **A result without a fault is marked as what it is**, unless it is lost. -/
theorem Faultless.shownBy {r : Result} (h : r.Faultless) : r.ShownBy (some (Console.resultMark r.row)) := by
  have hmark := r.resultMark_row
  have hlost := h.isLost_eq
  -- clean or not and successful or not: of the four cases only a clean failure is not marked as a failure
  constructor <;> rw [hmark]
  · rw [hlost]
    cases r.isClean <;> cases r.success <;> decide
  · cases r.isClean <;> cases r.success <;> decide
  · rw [hlost]
    cases r.isClean <;> cases r.success <;> decide

theorem length_eq_of_shownBy {rs : List Result} {marks : List (Option Text)} (h : List.Forall₂ ShownBy rs marks) :
    rs.length = rs.countP (·.success) + (marks.count (some Console.failureMark) + rs.countP (·.isLost)) := by
  induction h with
  | nil => rfl
  | @cons r mark rs marks hr _ ih =>
    -- a result succeeds, is marked as failed, or is lost, and only one of these
    have hone : (if r.success then 1 else 0) +
        ((if mark == some Console.failureMark then 1 else 0) + if r.isLost then 1 else 0) = 1 := by
      simp only [beq_iff_eq, hr.failure]
      cases hlost : r.isLost with
      | true => simp [success_of_isLost hlost]
      | false => cases r.success <;> rfl
    simp only [List.length_cons, List.countP_cons, List.count_cons]
    omega

end Result

/-! ## Turns -/

namespace Workspace

/-- What a script is converted to, if it can be read and is not blank. -/
def reportOf? (w : Workspace) (d : Dialect) (language : Language) (disk : Disk) (names : List Text) : Option Report :=
  match readScript disk (w.placeOf disk names) with
  | .error _ => none
  | .ok t => if Text.allBlank t then none else some (convert w.settings d language t)

/-- The script is converted without diagnostics, and its program cannot be written. -/
def loses (w : Workspace) (d : Dialect) (language : Language) (disk : Disk) (names : List Text) : Bool :=
  (w.reportOf? d language disk names).any (·.isClean) && !w.delivers d language disk names

theorem report?_turnIn (w : Workspace) (d : Dialect) (language : Language) (dryRun : Bool) (disk : Disk)
    (names : List Text) :
    (w.turnIn d language dryRun disk names).result.report? = w.reportOf? d language disk names := by
  by_cases h : ∀ t, readScript disk (w.placeOf disk names) = .ok t → Text.allBlank t = true
  · obtain ⟨log, why, hturn⟩ : ∃ log why,
        w.turnIn d language dryRun disk names = ⟨disk, log, .rejected (Path.toText ⟨.here, names⟩) why⟩ :=
      convertAt_idle h dryRun _
    rw [hturn, reportOf?]
    cases hread : readScript disk (w.placeOf disk names) with
    | error why => rfl
    | ok t => exact (if_pos (h t hread)).symm
  · obtain ⟨t, hread, hblank⟩ : ∃ t, readScript disk (w.placeOf disk names) = .ok t ∧ Text.allBlank t = false := by
      simpa using h
    have hreport : w.reportOf? d language disk names = some (convert w.settings d language t) := by
      simp [reportOf?, hread, hblank]
    rw [hreport]
    cases dryRun with
    | true =>
      rw [turnIn, convertAt_dry hread, convertText_eq, hblank]
      rfl
    | false =>
      have hturn : w.turnIn d language false disk names = _ := convertAt_active hread hblank _
      rw [hturn]
      rfl

/-- **A result is lost exactly if its script has a clean conversion that cannot be written**; a dry run loses nothing. -/
theorem isLost_turnIn (w : Workspace) (d : Dialect) (language : Language) (dryRun : Bool) (disk : Disk)
    (names : List Text) :
    (w.turnIn d language dryRun disk names).result.isLost = (!dryRun && w.loses d language disk names) := by
  have h := accounts_turnIn w d language dryRun disk names
  rw [h.faultless.isLost_eq, h.success, h.written, Result.isClean, report?_turnIn]
  cases dryRun with
  | true => cases w.reportOf? d language disk names <;> simp
  | false => rfl

/-! ## Batches -/

section Batches

variable (w : Workspace) (d : Dialect) (language : Language) (dryRun : Bool) (disk : Disk) (scripts : List (List Text))

theorem shownBy_convertEach :
    let results := (w.convertEach d language dryRun disk scripts).results
    List.Forall₂ Result.ShownBy results ((Console.batchTable (results.map (·.row))).column "Result".toList) := by
  intro results
  rw [Console.marks_batchTable, List.map_map, List.forall₂_map_right_iff, List.forall₂_same]
  intro r hr
  obtain ⟨disk', names, h⟩ := exists_accounts w d language dryRun hr
  exact h.faultless.shownBy

theorem map_isLost_convertEach :
    (w.convertEach d language dryRun disk scripts).results.map (·.isLost) =
      (w.inTurn d language dryRun disk scripts).map fun p => !dryRun && w.loses d language p.1 p.2 := by
  rw [results_convertEach, List.map_map]
  exact List.map_congr_left fun p _ => isLost_turnIn w d language dryRun p.1 p.2

end Batches

/-- **The table of a batch marks as failed what did not succeed, except for lost results**, whatever the disk refuses to
read or to write.  There is one row for each result, in order.  The lost results are marked as done, so the failures that
the tally counts are the failure marks and the lost results.  These are the scripts that, on the disk their turn finds,
are converted without diagnostics and cannot be written; a dry run has none, and its failure marks are exact. -/
theorem failures_marked_unless_lost (w : Workspace) (d : Dialect) (language : Language) (dryRun : Bool) (disk : Disk)
    (extensions : List Text) (depth : Int) :
    let results := (w.scan d language dryRun disk extensions depth).results
    let table := Console.batchTable (results.map (·.row))
    let marks := table.column "Result".toList
    table.column "File Path".toList = results.map (fun r => some r.label) ∧
    List.Forall₂ Result.ShownBy results marks ∧
    (Tally.ofResults results).total = (Tally.ofResults results).successful +
      (marks.count (some Console.failureMark) + results.countP (·.isLost)) ∧
    results.map (·.isLost) = (w.inTurn d language dryRun disk (w.discover disk extensions depth)).map fun p =>
      !dryRun && w.loses d language p.1 p.2 := by
  intro results table marks
  have hpaths : table.column "File Path".toList = results.map fun r => some r.label := by
    rw [Console.paths_batchTable, List.map_map]
    rfl
  have hshown : List.Forall₂ Result.ShownBy results marks := shownBy_convertEach w d language dryRun disk _
  have htally : (Tally.ofResults results).total = (Tally.ofResults results).successful +
      (marks.count (some Console.failureMark) + results.countP (·.isLost)) := by
    rw [Tally.ofResults_total, Tally.ofResults_successful]
    exact Result.length_eq_of_shownBy hshown
  exact ⟨hpaths, hshown, htally, map_isLost_convertEach w d language dryRun disk _⟩

/-- A file stands where the programs are to go, so that neither can be written.  The script without diagnostics is marked
as done; the other, which needs a review, as failed. -/
theorem lost_program_marked_done :
    let ws := "ws".toList
    let out := [ws, "out".toList]
    let w : Workspace := { root := [ws], outputDir := some out }
    let disk : Disk := { tree := ⟨[([ws], .directory), ([ws, "a.sh".toList], .file (Utf8.encode "x=1".toList)),
      ([ws, "b.sh".toList], .file (Utf8.encode "ls".toList)), (out, .file [])]⟩ }
    let results := (w.scan .general .auto false disk Script.suffixes Script.depth).results
    results.map (·.success) = [false, false] ∧
    results.map (·.writeError?) = List.replicate 2 (some "[Errno 17] File exists: '/ws/out'".toList) ∧
    (Console.batchTable (results.map (·.row))).column "Result".toList =
      [some Console.doneMark, some Console.failureMark] := by
  intro ws out w disk results
  have hw : w.root.Direct := by decide
  have ht : disk.tree.Plain := ⟨by decide, by decide, by decide, by decide, by decide⟩
  have hscripts : w.discover disk Script.suffixes Script.depth = [["a.sh".toList], ["b.sh".toList]] :=
    discover_eq_of_perm ht hw (by decide +kernel) (by decide)
  simp only [results, scan, hscripts]
  decide +kernel

end Workspace
end Scriptwright
