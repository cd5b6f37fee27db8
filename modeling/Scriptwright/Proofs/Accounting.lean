import Scriptwright.Batch.Tally
import Scriptwright.Proofs.Failure
/-!
# The tally of a batch adds up

Success, delivery, status and the failure to write are four things that a result says on its own, and a tally counts
them apart.  They hang together because no conversion carries a fault: a result succeeds, or its status says that there
was nothing to convert, or its program could not be written, and only one of the three (`Result.Faultless.exactly_one`).
What holds of the turn of one script on the disk it finds (`accounts_turnIn`) then adds up over the turns of a batch,
whatever the disk refuses to read or to write.  A program counts as written if no step of writing it failed, and then it
is to be found on the disk after the turn (`vouches_turnIn`).

All this is so of a batch that comes to its end (`batch_accounting`).  A look that is denied ends it before: the scripts
that are left have no result, and those that had their turn are not reported either (`denied_look_ends_batch`).
-/
namespace Scriptwright

/-! ## Results -/

namespace Result

/-- The status says that there was nothing to convert. -/
def hasRejectionStatus (r : Result) : Bool := [Status.fileNotFound, .emptyInput, .engineError].contains r.status

/-- The result carries no fault of the conversion. -/
def Faultless : Result → Prop
  | .rejected _ _ => True
  | .converted _ c => c.fault = none

theorem hasRejectionStatus_rejected (label : Text) (why : Rejection) :
    (Result.rejected label why).hasRejectionStatus = true := by
  cases why <;> rfl

theorem hasRejectionStatus_converted (label : Text) (c : Conversion) :
    (Result.converted label c).hasRejectionStatus = false := by
  show [Status.fileNotFound, .emptyInput, .engineError].contains c.report.status = false
  unfold Report.status
  split
  · rfl
  · split <;> rfl

/-- **A result without a fault succeeds, or had nothing to convert, or could not be written, and only one of these.** -/
theorem Faultless.exactly_one {r : Result} (h : r.Faultless) :
    (if r.success then 1 else 0) + (if r.hasRejectionStatus then 1 else 0) + (if r.writeError?.isSome then 1 else 0) =
      1 := by
  cases r with
  | rejected label why =>
    rw [hasRejectionStatus_rejected]
    rfl
  | converted label c =>
    obtain ⟨report, fault, delivery⟩ := c
    obtain rfl : fault = none := h
    rw [hasRejectionStatus_converted]
    cases delivery <;> rfl

theorem length_eq_of_faultless : ∀ {rs : List Result}, (∀ r ∈ rs, r.Faultless) →
    rs.length = rs.countP (·.success) + (rs.countP (·.hasRejectionStatus) + rs.countP (·.writeError?.isSome))
  | [], _ => rfl
  | r :: rs, h => by
    obtain ⟨hr, hrs⟩ := List.forall_mem_cons.1 h
    have hone := hr.exactly_one
    have ih := length_eq_of_faultless hrs
    simp only [List.length_cons, List.countP_cons]
    omega

end Result

namespace Tally

theorem ofResults_total (rs : List Result) : (ofResults rs).total = rs.length := List.length_map _

theorem ofResults_successful (rs : List Result) : (ofResults rs).successful = rs.countP (·.success) := List.countP_map

theorem ofResults_written (rs : List Result) : (ofResults rs).written = rs.countP (·.written) := List.countP_map

end Tally

/-! ## Turns -/

namespace Workspace

/-- The script can be read and is not blank, and its program can be written. -/
def delivers (w : Workspace) (d : Dialect) (language : Language) (disk : Disk) (names : List Text) : Bool :=
  match readScript disk (w.placeOf disk names) with
  | .error _ => false
  | .ok t =>
    !Text.allBlank t &&
      (disk.replace (w.programPath d (.ofLocation (w.placeOf disk names))).parts
        (Utf8.encode ((convert w.settings d language t).code ++ ['\n']))).2.isNone

/-- The script can be read and is not blank, and no step of writing its program fails. -/
def Delivers (w : Workspace) (d : Dialect) (language : Language) (disk : Disk) (names : List Text) : Prop :=
  ∃ t, readScript disk (w.placeOf disk names) = .ok t ∧ Text.allBlank t = false ∧
    ¬ disk.StepFails (w.programPath d (.ofLocation (w.placeOf disk names))).parts
      (Utf8.encode ((convert w.settings d language t).code ++ ['\n']))

theorem delivers_iff {w : Workspace} {d : Dialect} {language : Language} {disk : Disk} {names : List Text} :
    w.delivers d language disk names = true ↔ w.Delivers d language disk names := by
  unfold delivers Delivers
  cases readScript disk (w.placeOf disk names) with
  | error why => simp
  | ok t => simp [← Disk.replace_ne_none_iff]

instance (w : Workspace) (d : Dialect) (language : Language) (disk : Disk) (names : List Text) :
    Decidable (w.Delivers d language disk names) :=
  decidable_of_iff _ delivers_iff

/-- The turn of a script in a batch, links on the way to it followed. -/
def turnIn (w : Workspace) (d : Dialect) (language : Language) (dryRun : Bool) (disk : Disk) (names : List Text) :
    Turn :=
  w.convertAt d language dryRun disk (Path.toText ⟨.here, names⟩) (w.placeOf disk names)

/-- What a script's result says, the script met on `disk`. -/
structure Accounts (w : Workspace) (d : Dialect) (language : Language) (dryRun : Bool) (disk : Disk) (names : List Text)
    (r : Result) : Prop where
  label : r.label = Path.toText ⟨.here, names⟩
  faultless : r.Faultless
  success : r.success = if dryRun then r.report?.isSome else r.written
  written : r.written = (!dryRun && w.delivers d language disk names)

/-- No link stands at the seat of the scratch file of the script's program. -/
def ScratchFree (w : Workspace) (d : Dialect) (disk : Disk) (names : List Text) : Prop :=
  ∀ q, disk.tree.seat? (scratchFor (w.programPath d (.ofLocation (w.placeOf disk names))).parts) = some q →
    disk.tree.LinkFree q

/-- What a turn's result says of the program is to be seen on the disk after it. -/
structure Vouches (w : Workspace) (d : Dialect) (language : Language) (disk : Disk) (names : List Text) : Prop where
  /-- A program that was written holds what the script was converted to. -/
  written : (w.turnIn d language false disk names).result.written = true →
    ∃ t q, readScript disk (w.placeOf disk names) = .ok t ∧
      disk.tree.seat? (w.programPath d (.ofLocation (w.placeOf disk names))).parts = some q ∧
      (w.turnIn d language false disk names).disk.tree.get? q =
        some (.file (Utf8.encode ((convert w.settings d language t).code ++ ['\n'])))
  /-- Where one was not written all is as before. -/
  unwritten : (w.turnIn d language false disk names).result.written = false →
    ∀ q, disk.tree.seat? (w.programPath d (.ofLocation (w.placeOf disk names))).parts = some q →
      (w.turnIn d language false disk names).disk.tree.get? q = disk.tree.get? q

section Turns

variable {w : Workspace} {d : Dialect} {language : Language} {disk : Disk} {names : List Text}

theorem idle_or_active (w : Workspace) (disk : Disk) (names : List Text) :
    (∀ t, readScript disk (w.placeOf disk names) = .ok t → Text.allBlank t = true) ∨
      ∃ t, readScript disk (w.placeOf disk names) = .ok t ∧ Text.allBlank t = false := by
  rw [or_iff_not_imp_left]
  intro h
  simpa using h

theorem turnIn_idle (h : ∀ t, readScript disk (w.placeOf disk names) = .ok t → Text.allBlank t = true) (d : Dialect)
    (language : Language) (dryRun : Bool) :
    ∃ log why, w.turnIn d language dryRun disk names = ⟨disk, log, .rejected (Path.toText ⟨.here, names⟩) why⟩ :=
  convertAt_idle h dryRun _

theorem delivers_of_idle (h : ∀ t, readScript disk (w.placeOf disk names) = .ok t → Text.allBlank t = true) :
    w.delivers d language disk names = false := by
  unfold delivers
  cases hread : readScript disk (w.placeOf disk names) with
  | error why => rfl
  | ok t => simp [h t hread]

theorem delivers_of_active {t : Text} (hread : readScript disk (w.placeOf disk names) = .ok t)
    (hblank : Text.allBlank t = false) :
    w.delivers d language disk names =
      (disk.replace (w.programPath d (.ofLocation (w.placeOf disk names))).parts
        (Utf8.encode ((convert w.settings d language t).code ++ ['\n']))).2.isNone := by
  unfold delivers
  simp [hread, hblank]

/-- **A turn accounts for its script**, whatever the disk refuses. -/
theorem accounts_turnIn (w : Workspace) (d : Dialect) (language : Language) (dryRun : Bool) (disk : Disk)
    (names : List Text) : w.Accounts d language dryRun disk names (w.turnIn d language dryRun disk names).result := by
  rcases idle_or_active w disk names with h | ⟨t, hread, hblank⟩
  · obtain ⟨log, why, hturn⟩ := turnIn_idle h d language dryRun
    rw [hturn]
    refine ⟨rfl, trivial, by cases dryRun <;> rfl, ?_⟩
    rw [delivers_of_idle h, Bool.and_false]
    rfl
  · cases dryRun with
    | true =>
      rw [turnIn, convertAt_dry hread, convertText_eq, hblank]
      exact ⟨rfl, rfl, rfl, rfl⟩
    | false =>
      have hturn : w.turnIn d language false disk names = _ := convertAt_active hread hblank _
      have hdelivers : w.delivers d language disk names = _ := delivers_of_active hread hblank
      rw [hturn, fault?_convert]
      -- the result is a conversion without a fault, and all else hangs on how the replacement ended
      generalize disk.replace _ _ = replaced at hdelivers ⊢
      cases hout : replaced.2 <;> rw [hout] at hdelivers <;> exact ⟨rfl, rfl, rfl, hdelivers.symm⟩

theorem direct_placeOf {t : Text} (h : readScript disk (w.placeOf disk names) = .ok t) :
    Location.Direct (w.placeOf disk names) := by
  unfold placeOf at h ⊢
  cases hfollow : disk.tree.follow? [] (w.root ++ names) with
  | some q => exact Tree.direct_follow? hfollow
  | none =>
    -- nothing is read by way of a link that leads back to itself
    rw [hfollow, Option.getD_none] at h
    have hpresent := present_of_readScript h
    simp [Tree.present, Tree.find, hfollow, Except.toOption] at hpresent

theorem formed_turnIn (hw : w.Resolved) (ht : disk.tree.Formed) (dryRun : Bool) :
    (w.turnIn d language dryRun disk names).disk.tree.Formed := by
  rcases idle_or_active w disk names with h | ⟨t, hread, hblank⟩
  · obtain ⟨log, why, hturn⟩ := turnIn_idle h d language dryRun
    rw [hturn]
    exact ht
  · cases dryRun with
    | true =>
      rw [turnIn, convertAt_dry hread]
      exact ht
    | false =>
      rw [turnIn, convertAt_active hread hblank]
      exact Disk.replace_formed ht (direct_programDir hw (direct_placeOf hread)) _ _

/-- **A turn tells the truth about its program**, if no link stands at the seat of the scratch file. -/
theorem vouches_turnIn (hw : w.Resolved) (ht : disk.tree.Formed) (hfree : w.ScratchFree d disk names) :
    w.Vouches d language disk names := by
  rcases idle_or_active w disk names with h | ⟨t, hread, hblank⟩
  · obtain ⟨log, why, hturn⟩ := turnIn_idle h d language false
    constructor <;> rw [hturn]
    · exact fun h => absurd h Bool.false_ne_true
    · exact fun _ q _ => rfl
  · have hdir := direct_programDir hw (direct_placeOf hread)
    have hturn : w.turnIn d language false disk names = _ := convertAt_active hread hblank _
    have hwritten : (w.turnIn d language false disk names).result.written = _ :=
      (accounts_turnIn w d language false disk names).written.trans (delivers_of_active hread hblank)
    constructor <;> rw [hwritten, hturn] <;> intro hout
    · obtain ⟨q, hseat, hfile, -⟩ := Disk.replace_done ht hdir hfree (Option.isNone_iff_eq_none.1 hout)
      exact ⟨t, q, hread, hseat, hfile⟩
    · have hfailed := Option.isSome_iff_ne_none.1 (Option.isNone_eq_false_iff.1 hout)
      exact (Disk.replace_failed ht hdir hfree hfailed).file

end Turns

/-! ## Batches -/

/-- The scripts of a batch, each with the disk that its turn finds. -/
def inTurn (w : Workspace) (d : Dialect) (language : Language) (dryRun : Bool) :
    Disk → List (List Text) → List (Disk × List Text)
  | _, [] => []
  | disk, names :: rest => (disk, names) :: inTurn w d language dryRun (w.turnIn d language dryRun disk names).disk rest

section Batches

variable (w : Workspace) (d : Dialect) (language : Language) (dryRun : Bool)

theorem map_snd_inTurn : ∀ (scripts : List (List Text)) (disk : Disk),
    (w.inTurn d language dryRun disk scripts).map (·.2) = scripts
  | [], _ => rfl
  | names :: rest, _ => congrArg (names :: ·) (map_snd_inTurn rest _)

theorem formed_inTurn (hw : w.Resolved) : ∀ (scripts : List (List Text)) (disk : Disk), disk.tree.Formed →
    ∀ p ∈ w.inTurn d language dryRun disk scripts, p.1.tree.Formed
  | [], _, _, _, hp => nomatch hp
  | names :: rest, disk, ht, p, hp => by
    rcases List.mem_cons.1 hp with rfl | hp
    · exact ht
    · exact formed_inTurn hw rest _ (formed_turnIn hw ht dryRun) p hp

theorem results_convertEach : ∀ (scripts : List (List Text)) (disk : Disk),
    (w.convertEach d language dryRun disk scripts).results =
      (w.inTurn d language dryRun disk scripts).map fun p => (w.turnIn d language dryRun p.1 p.2).result
  | [], _ => rfl
  | names :: rest, disk => congrArg ((w.turnIn d language dryRun disk names).result :: ·) (results_convertEach rest _)

theorem labels_convertEach (disk : Disk) (scripts : List (List Text)) :
    (w.convertEach d language dryRun disk scripts).results.map (·.label) =
      scripts.map fun names => Path.toText ⟨.here, names⟩ := by
  have hlabel : ∀ p : Disk × List Text,
      (w.turnIn d language dryRun p.1 p.2).result.label = Path.toText ⟨.here, p.2⟩ :=
    fun p => (accounts_turnIn w d language dryRun p.1 p.2).label
  rw [results_convertEach, List.map_map]
  conv => rhs; rw [← map_snd_inTurn w d language dryRun scripts disk, List.map_map]
  exact List.map_congr_left fun p _ => hlabel p

theorem exists_accounts {disk : Disk} {scripts : List (List Text)} {r : Result}
    (hr : r ∈ (w.convertEach d language dryRun disk scripts).results) :
    ∃ disk' names, w.Accounts d language dryRun disk' names r := by
  rw [results_convertEach, List.mem_map] at hr
  obtain ⟨p, -, rfl⟩ := hr
  exact ⟨p.1, p.2, accounts_turnIn w d language dryRun p.1 p.2⟩

theorem length_convertEach (disk : Disk) (scripts : List (List Text)) :
    let results := (w.convertEach d language dryRun disk scripts).results
    results.length = results.countP (·.success) +
      (results.countP (·.hasRejectionStatus) + results.countP (·.writeError?.isSome)) := by
  intro results
  refine Result.length_eq_of_faultless fun r hr => ?_
  obtain ⟨disk', names, h⟩ := exists_accounts w d language dryRun hr
  exact h.faultless

theorem countP_success_convertEach (disk : Disk) (scripts : List (List Text)) :
    let results := (w.convertEach d language dryRun disk scripts).results
    results.countP (·.success) = results.countP fun r => if dryRun then r.report?.isSome else r.written := by
  intro results
  refine List.countP_congr fun r hr => ?_
  obtain ⟨disk', names, h⟩ := exists_accounts w d language dryRun hr
  rw [h.success]

theorem countP_written_convertEach (disk : Disk) (scripts : List (List Text)) :
    (w.convertEach d language dryRun disk scripts).results.countP (·.written) =
      (w.inTurn d language dryRun disk scripts).countP fun p => !dryRun && w.delivers d language p.1 p.2 := by
  rw [results_convertEach, List.countP_map]
  refine List.countP_congr fun p _ => ?_
  rw [Function.comp_apply, (accounts_turnIn w d language dryRun p.1 p.2).written]

/-- **A batch comes to its end if it may look at each script when its turn comes**, and then it is the same as if nothing
were ever denied. -/
theorem convertWhileSeen_of_seen : ∀ (scripts : List (List Text)) (disk : Disk),
    (∀ p ∈ w.inTurn d language dryRun disk scripts, p.1.denial? (w.placeOf p.1 p.2) = none) →
      w.convertWhileSeen d language dryRun disk scripts = .ok (w.convertEach d language dryRun disk scripts)
  | [], _, _ => rfl
  | names :: rest, disk, h => by
    obtain ⟨hfirst, hrest⟩ := List.forall_mem_cons.1 h
    have ih := convertWhileSeen_of_seen rest _ hrest
    rw [convertWhileSeen, hfirst]
    simp only
    unfold turnIn at ih
    rw [ih]
    rfl

/-- **A batch stops at a script that it may not look at**, when those before it have had their turns. -/
theorem convertWhileSeen_of_denied : ∀ (scripts : List (List Text)) (disk : Disk),
    (∃ p ∈ w.inTurn d language dryRun disk scripts, p.1.denial? (w.placeOf p.1 p.2) ≠ none) →
      ∃ stop before names rest, w.convertWhileSeen d language dryRun disk scripts = .error stop ∧
        scripts = before ++ names :: rest ∧ stop.run = w.convertEach d language dryRun disk before ∧
        stop.run.disk.denial? (w.placeOf stop.run.disk names) = some stop.error
  | [], _, ⟨_, hp, _⟩ => nomatch hp
  | names :: rest, disk, ⟨p, hp, hdenied⟩ => by
    rw [convertWhileSeen]
    cases hfirst : disk.denial? (w.placeOf disk names) with
    | some e => exact ⟨_, [], names, rest, rfl, rfl, rfl, hfirst⟩
    | none =>
      have hlater : p ∈ w.inTurn d language dryRun (w.turnIn d language dryRun disk names).disk rest := by
        rcases List.mem_cons.1 hp with rfl | hp
        · exact absurd hfirst hdenied
        · exact hp
      obtain ⟨stop, before, last, after, hstop, rfl, hrun, herror⟩ := convertWhileSeen_of_denied rest _ ⟨p, hlater, hdenied⟩
      unfold turnIn at hstop
      simp only [hstop]
      refine ⟨_, names :: before, last, after, rfl, rfl, ?_, herror⟩
      simp only [hrun]
      rfl

end Batches

/-- Nothing is denied that is looked at: neither in the search for scripts nor when their turns come. -/
structure Seen (w : Workspace) (d : Dialect) (language : Language) (dryRun : Bool) (disk : Disk) (extensions : List Text)
    (depth : Int) : Prop where
  searched : ∀ l ∈ w.lookedAt disk.tree, disk.denial? l = none
  inTurn : ∀ p ∈ w.inTurn d language dryRun disk (w.discover disk extensions depth),
    p.1.denial? (w.placeOf p.1 p.2) = none

section Surveys

variable {w : Workspace} {d : Dialect} {language : Language} {dryRun : Bool} {disk : Disk} {extensions : List Text}
  {depth : Int}

theorem survey_of_seen (h : w.Seen d language dryRun disk extensions depth) :
    w.survey d language dryRun disk extensions depth = .ok (w.scan d language dryRun disk extensions depth) := by
  have hsearch : w.search disk extensions depth = .ok (w.discover disk extensions depth) := by
    rw [search, List.findSome?_eq_none_iff.2 h.searched]
  rw [survey, hsearch]
  exact convertWhileSeen_of_seen w d language dryRun _ disk h.inTurn

theorem survey_of_denied (h : ¬ w.Seen d language dryRun disk extensions depth) :
    ∃ stop, w.survey d language dryRun disk extensions depth = .error stop ∧
      (∃ l, stop.run.disk.denial? l = some stop.error) ∧
      ∃ before, before <+: w.discover disk extensions depth ∧ stop.run = w.convertEach d language dryRun disk before := by
  unfold survey search
  cases hfound : (w.lookedAt disk.tree).findSome? disk.denial? with
  | some e =>
    obtain ⟨l, -, hl⟩ := List.exists_of_findSome?_eq_some hfound
    exact ⟨_, rfl, ⟨l, hl⟩, [], List.nil_prefix, rfl⟩
  | none =>
    have hdenied : ∃ p ∈ w.inTurn d language dryRun disk (w.discover disk extensions depth),
        p.1.denial? (w.placeOf p.1 p.2) ≠ none := by
      by_contra hall
      exact h ⟨List.findSome?_eq_none_iff.1 hfound, fun p hp => by_contra fun hne => hall ⟨p, hp, hne⟩⟩
    obtain ⟨stop, before, names, rest, hstop, hsplit, hrun, herror⟩ :=
      convertWhileSeen_of_denied w d language dryRun _ disk hdenied
    exact ⟨stop, hstop, ⟨_, herror⟩, before, ⟨names :: rest, hsplit.symm⟩, hrun⟩

end Surveys

end Workspace
end Scriptwright
