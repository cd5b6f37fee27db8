import Mathlib.Data.List.Forall2
import Scriptwright.Proofs.Isolation
/-!
# Batches run again

A batch writes only programs and scratch files, which are no scripts, so the same scripts are found after it
(`discover_convertEach`).  A batch that could write all its programs has left each of them holding what the same batch would
write once more: a second one leaves the disk as it is (`convertEach_settled`).

Its results are those of the first one with one exception.  A directory made for the programs of scripts further down may
stand where the scratch file of a program belongs, and then that program cannot be written again (`Repeats`).
-/
namespace Scriptwright
namespace Workspace

section Rerun

variable {w : Workspace} {d : Dialect} {language : Language} {disk : Disk} {names : List Text}

/-- **After a batch the same scripts are found**, whatever its own scripts were. -/
theorem discover_convertEach (hw : w.Resolved) (ht : disk.tree.Plain) {scripts : List (List Text)}
    (hleads : ∀ names ∈ scripts, Leads names) {wanted : List Text} (hspare : SparesScratch wanted) (depth : Int) :
    w.discover (w.convertEach d language false disk scripts).disk wanted depth = w.discover disk wanted depth := by
  have hwithin : Disk.Within (fun q => ∃ names ∈ scripts, Disk.Touched (w.programPlace d names) q) disk
      (w.convertEach d language false disk scripts).disk :=
    convertEach_within hw scripts disk ht hleads fun _ names _ hn _ q hq => ⟨names, hn, hq⟩
  refine discover_eq_of_files ht (hwithin.plain ht) hw.root (fun dir n hwants => hwithin.file? ?_) depth
  rintro ⟨names, hn, htouched⟩
  rw [← List.append_assoc] at htouched
  exact not_touched_of_wants (hleads names hn) hspare hwants htouched

/-! ## The second turn of a script -/

/-- The program of the script, if it has one, is there already. -/
def Settled (w : Workspace) (d : Dialect) (language : Language) (disk : Disk) (names : List Text) : Prop :=
  ∀ bytes, w.program? d language disk names = some bytes → disk.Delivered (w.programPlace d names) bytes

/-- What stands in the way of a program's scratch file. -/
def blockage (w : Workspace) (d : Dialect) (names : List Text) : ReplaceError :=
  .leftover ⟨.isDirectory, .ofLocation (scratchFor (w.programPlace d names)), none⟩

/-- A program that is there already is written again without a change, or a directory is in the way. -/
theorem replace_delivered (hw : w.Resolved) (ht : disk.tree.Plain) (hn : Leads names) {bytes : List UInt8}
    (h : disk.Delivered (w.programPlace d names) bytes) :
    disk.replace (w.programPlace d names) bytes = (disk, none) ∨
      (disk.tree.get? (scratchFor (w.programPlace d names)) = some .directory ∧
        disk.replace (w.programPlace d names) bytes = (disk, some (w.blockage d names))) := by
  have hne := programPlace_ne_nil w d hn
  have hdirect := direct_programPlace hw d hn
  rcases h.cleared with hnone | hdir
  · exact Or.inl (h.holds.replace ht hne hdirect hnone)
  · exact Or.inr ⟨hdir, h.holds.replace_blocked ht hne hdirect hdir⟩

theorem Settled.turnOf_disk (h : w.Settled d language disk names) (hw : w.Resolved) (ht : disk.tree.Plain)
    (hn : Leads names) : (w.turnOf d language disk names).disk = disk := by
  cases hprogram : w.program? d language disk names with
  | none => exact (turnOf_idle hprogram).1
  | some bytes =>
    have hdelivered := h bytes hprogram
    obtain ⟨t, hread, hblank, rfl⟩ := exists_of_program? hprogram
    rw [turnOf_active hn hread hblank]
    rcases replace_delivered hw ht hn hdelivered with hsame | ⟨-, hblocked⟩
    · rw [hsame]
    · rw [hblocked]

/-- **A batch over settled scripts leaves the disk as it is**, and every script has its turn there. -/
theorem convertEach_settled (hw : w.Resolved) (ht : disk.tree.Plain) : ∀ scripts : List (List Text),
    (∀ names ∈ scripts, Leads names ∧ w.Settled d language disk names) →
    w.convertEach d language false disk scripts =
      ⟨disk, scripts.map fun names => ((w.turnOf d language disk names).log, (w.turnOf d language disk names).result)⟩
  | [], _ => rfl
  | names :: rest, h => by
    obtain ⟨⟨hn, hsettled⟩, hrest⟩ := List.forall_mem_cons.1 h
    rw [convertEach_cons hw ht hn]
    simp only
    rw [hsettled.turnOf_disk hw ht hn, convertEach_settled hw ht rest hrest]
    rfl

/-- The turn of a script on a disk goes as before, or is kept from writing by a directory in the place of the scratch
file. -/
def Repeats (w : Workspace) (d : Dialect) (language : Language) (disk : Disk) (names : List Text) (before : Log × Result) :
    Prop :=
  let turn := w.turnOf d language disk names
  (turn.log, turn.result) = before ∨
    (disk.tree.get? (scratchFor (w.programPlace d names)) = some .directory ∧
      turn.result.writeError? = some (w.blockage d names).message)

/-- Where nothing is converted, what is said of a script depends on what is read. -/
theorem turnOf_idle_congr {disk' : Disk}
    (hpresent : disk'.tree.present (w.root ++ names) = disk.tree.present (w.root ++ names))
    (hread : readScript disk' (w.root ++ names) = readScript disk (w.root ++ names))
    (h : w.program? d language disk names = none) :
    ((w.turnOf d language disk' names).log, (w.turnOf d language disk' names).result) =
      ((w.turnOf d language disk names).log, (w.turnOf d language disk names).result) := by
  unfold turnOf convertAt
  rw [hpresent, hread]
  split
  · cases hread' : readScript disk (w.root ++ names) with
    | error why => rfl
    | ok t =>
      cases hblank : Text.allBlank t with
      | true =>
        simp only [convertText, hblank]
        rfl
      | false =>
        rw [program?_of_code hread' hblank] at h
        cases h
  · rfl

theorem present_of_file? (ht : disk.tree.Plain) {l : Location} (hl : l.Direct) (h : (disk.tree.file? l).isSome) :
    disk.tree.present l = true := by
  obtain ⟨bytes, hbytes⟩ := Option.isSome_iff_exists.1 h
  rw [ht.present hl, Tree.file?_eq_some_iff.1 hbytes]
  rfl

/-- **A turn that wrote its program repeats itself** on every later disk that has kept the script and the program. -/
theorem repeats_turnOf {disk' : Disk} (hw : w.Resolved) (ht : disk.tree.Plain) (ht' : disk'.tree.Plain) (hn : Leads names)
    (hfaults : disk'.faults = disk.faults) (hfile : (disk.tree.file? (w.root ++ names)).isSome)
    (hsame : disk'.tree.file? (w.root ++ names) = disk.tree.file? (w.root ++ names))
    (hsettled : w.Settled d language disk' names) (herror : (w.turnOf d language disk names).result.writeError? = none) :
    w.Repeats d language disk' names ((w.turnOf d language disk names).log, (w.turnOf d language disk names).result) := by
  have hl := direct_source hw hn
  have hread := readScript_congr ht ht' hl hfaults hfile hsame
  cases hprogram : w.program? d language disk names with
  | none =>
    refine Or.inl (turnOf_idle_congr ?_ hread hprogram)
    rw [present_of_file? ht hl hfile, present_of_file? ht' hl (by rwa [hsame])]
  | some bytes =>
    obtain ⟨t, hread', hblank, rfl⟩ := exists_of_program? hprogram
    have hdelivered := hsettled _ (program?_of_code (hread.trans hread') hblank)
    have hfirst := replaced_of_writeError? hn hread' hblank herror
    rw [Repeats, turnOf_active hn hread' hblank, turnOf_active hn (hread.trans hread') hblank, hfirst]
    rcases replace_delivered hw ht' hn hdelivered with hagain | ⟨hdir, hagain⟩
    · rw [hagain]
      exact Or.inl rfl
    · rw [hagain]
      exact Or.inr ⟨hdir, rfl⟩

/-! ## The second batch -/

theorem Apart.settled {scripts : List (List Text)} (h : w.Apart d scripts) (hw : w.Resolved) (ht : disk.tree.Plain)
    (hfiles : ∀ names ∈ scripts, (disk.tree.file? (w.root ++ names)).isSome)
    (hresults : ∀ r ∈ (w.convertEach d language false disk scripts).results, r.writeError? = none) (hn : names ∈ scripts) :
    w.Settled d language (w.convertEach d language false disk scripts).disk names := by
  intro bytes hbytes
  rw [program?_within hw ht (h.leads names hn) (h.convertEach_within language hw ht hfiles) (h.not_written disk hn)
    (hfiles names hn)] at hbytes
  exact Apart.delivered hw scripts disk h ht hfiles hresults names hn bytes hbytes

/-- **Every turn of a batch that wrote its programs repeats itself** on the disk that the batch left. -/
theorem Apart.repeats (hw : w.Resolved) : ∀ (scripts : List (List Text)) (disk : Disk), w.Apart d scripts →
    disk.tree.Plain → (∀ names ∈ scripts, (disk.tree.file? (w.root ++ names)).isSome) →
    (∀ r ∈ (w.convertEach d language false disk scripts).results, r.writeError? = none) →
    List.Forall₂ (w.Repeats d language (w.convertEach d language false disk scripts).disk) scripts
      (w.convertEach d language false disk scripts).turns
  | [], _, _, _, _, _ => .nil
  | names :: rest, disk, hapart, ht, hfiles, hresults => by
    have hmem : names ∈ names :: rest := List.mem_cons_self
    have hn := hapart.leads names hmem
    have hwithin := hapart.convertEach_within language hw ht hfiles
    have hsettled := hapart.settled hw ht hfiles hresults hmem
    have hturn := hapart.turnOf_within language hw ht hmem
    have hsame := hwithin.file? (hapart.not_written disk hmem)
    have hplain := hwithin.plain ht
    have hfaults := hwithin.faults
    rw [convertEach_cons hw ht hn] at hresults hsettled hsame hplain hfaults ⊢
    obtain ⟨herror, hresults'⟩ := List.forall_mem_cons.1 hresults
    refine .cons (repeats_turnOf hw ht hplain hn hfaults (hfiles names hmem) hsame hsettled herror) ?_
    refine Apart.repeats hw rest _ hapart.tail (hturn.plain ht) (fun m hm => ?_) hresults'
    rw [hturn.file? (hapart.sources names hmem m (List.mem_cons_of_mem _ hm))]
    exact hfiles m (List.mem_cons_of_mem _ hm)

/-- **A batch can be run again.**  After it the same scripts are found, whichever of its programs could be written and
whatever is wanted but scratch files.  If all could be written, a second batch leaves the disk as it is, and each script's
second turn is logged and ends as the first one, unless a directory has come to stand in the place of the scratch file:
then its result tells so. -/
theorem rerun_stability (hw : w.Resolved) (ht : disk.tree.Plain) (d : Dialect) (language : Language)
    (extensions : List Text) (depth : Int) :
    let scripts := w.discover disk extensions depth
    let run := w.scan d language false disk extensions depth
    let again := w.scan d language false run.disk extensions depth
    (∀ wanted, SparesScratch wanted → ∀ deep, w.discover run.disk wanted deep = w.discover disk wanted deep) ∧
    (NoUnderscore extensions → SparesScratch extensions → (∀ r ∈ run.results, r.writeError? = none) →
      again.disk = run.disk ∧ again.turns.length = run.turns.length ∧
      ∀ (i : Nat) (names : List Text), scripts[i]? = some names → again.turns[i]? = run.turns[i]? ∨
        (run.disk.tree.get? (scratchFor (w.programPlace d names)) = some .directory ∧
          ∃ r : Result, again.results[i]? = some r ∧ r.writeError? = some (w.blockage d names).message)) := by
  intro scripts run again
  have hleads : ∀ names ∈ scripts, Leads names := fun names hn => leads_of_mem_discover hw ht hn
  have hfound : ∀ wanted, SparesScratch wanted → ∀ deep, w.discover run.disk wanted deep = w.discover disk wanted deep :=
    fun wanted hspare deep => discover_convertEach hw ht hleads hspare deep
  refine ⟨hfound, fun hfree hspare hresults => ?_⟩
  have hapart : w.Apart d scripts := apart_discover hw ht hfree hspare d depth
  have hfiles : ∀ names ∈ scripts, (disk.tree.file? (w.root ++ names)).isSome := fun names hn =>
    ((mem_discover_iff ht hw.root).1 hn).2.1
  have hplain := (hapart.convertEach_within language hw ht hfiles).plain ht
  have hagain : again = ⟨run.disk, scripts.map fun names =>
      ((w.turnOf d language run.disk names).log, (w.turnOf d language run.disk names).result)⟩ := by
    have hscripts : w.discover run.disk extensions depth = scripts := hfound extensions hspare depth
    simp only [again, scan, hscripts]
    exact convertEach_settled hw hplain scripts fun names hn =>
      ⟨hleads names hn, hapart.settled hw ht hfiles hresults hn⟩
  have hrepeats := Apart.repeats hw scripts disk hapart ht hfiles hresults
  have hlength : scripts.length = run.turns.length := hrepeats.length_eq
  rw [hagain]
  refine ⟨rfl, by simp [hlength], fun i names hi => ?_⟩
  obtain ⟨hlt, rfl⟩ := List.getElem?_eq_some_iff.1 hi
  have hfirst : run.turns[i]? = some (run.turns.get ⟨i, hlength ▸ hlt⟩) := List.getElem?_eq_getElem _
  rcases hrepeats.get hlt (hlength ▸ hlt) with hsame | ⟨hdir, hblocked⟩
  · left
    rw [hfirst, List.getElem?_map, hi]
    exact congrArg some hsame
  · right
    refine ⟨hdir, _, ?_, hblocked⟩
    rw [Run.results, List.getElem?_map, List.getElem?_map, hi]
    rfl

/-- Scripts on two levels whose programs stand beside them. -/
theorem rerun_stability_two_levels :
    let ws := "ws".toList
    let w : Workspace := { root := [ws] }
    let disk : Disk := { tree := ⟨[([ws], .directory), ([ws, "a.sh".toList], .file [0x23]), ([ws, "b".toList], .directory),
      ([ws, "b".toList, "a.sh".toList], .file [0x23])]⟩ }
    let run := w.scan .general .auto false disk Script.suffixes Script.depth
    let again := w.scan .general .auto false run.disk Script.suffixes Script.depth
    w.Resolved ∧ disk.tree.Plain ∧ w.discover run.disk [".py".toList] 1 = w.discover disk [".py".toList] 1 ∧
    (∀ r ∈ run.results, r.writeError? = none) ∧ again.disk = run.disk := by
  intro ws w disk run again
  have hw : w.Resolved := ⟨by decide, by decide⟩
  have ht : disk.tree.Plain := ⟨by decide, by decide, by decide, by decide, by decide⟩
  have hscripts : w.discover disk Script.suffixes Script.depth = [["a.sh".toList], ["b".toList, "a.sh".toList]] :=
    discover_eq_of_perm ht hw.root (by decide +kernel) (by decide)
  have hresults : ∀ r ∈ run.results, r.writeError? = none := by
    simp only [run, scan, hscripts]
    decide +kernel
  obtain ⟨hfound, hagain⟩ := rerun_stability hw ht .general .auto Script.suffixes Script.depth
  exact ⟨hw, ht, hfound [".py".toList] (by decide) 1, hresults, (hagain (by decide) (by decide) hresults).1⟩

/-- **A mirrored directory in the place of a scratch file.**  All programs could be written, yet the second batch does not
end as the first one did: the directory made for the program of `b.sh` is where the scratch file of the program of `a.sh`
belongs. -/
theorem rerun_meets_mirrored_directory :
    let ws := "ws".toList
    let w : Workspace := { root := [ws], outputDir := some [ws, "out".toList] }
    let disk : Disk := { tree := ⟨[([ws], .directory), ([ws, "a.sh".toList], .file [0x23]),
      ([ws, "a_sh_converted.scriptcuro.tmp".toList], .directory),
      ([ws, "a_sh_converted.scriptcuro.tmp".toList, "b.sh".toList], .file [0x23])]⟩ }
    let run := w.scan .general .auto false disk Script.suffixes Script.depth
    let again := w.scan .general .auto false run.disk Script.suffixes Script.depth
    w.Resolved ∧ disk.tree.Plain ∧ NoUnderscore Script.suffixes ∧ SparesScratch Script.suffixes ∧
    (∀ r ∈ run.results, r.writeError? = none) ∧ again.results ≠ run.results := by
  intro ws w disk run again
  have hw : w.Resolved := ⟨by decide, by decide⟩
  have ht : disk.tree.Plain := ⟨by decide, by decide, by decide, by decide, by decide⟩
  have hscripts : w.discover disk Script.suffixes Script.depth =
      [["a.sh".toList], ["a_sh_converted.scriptcuro.tmp".toList, "b.sh".toList]] :=
    discover_eq_of_perm ht hw.root (by decide +kernel) (by decide)
  have hrun : run = w.convertEach .general .auto false disk
      [["a.sh".toList], ["a_sh_converted.scriptcuro.tmp".toList, "b.sh".toList]] := by
    simp only [run, scan, hscripts]
  have hfound : w.discover run.disk Script.suffixes Script.depth =
      [["a.sh".toList], ["a_sh_converted.scriptcuro.tmp".toList, "b.sh".toList]] := by
    rw [hrun, discover_convertEach hw ht (fun names hn => ?_) (by decide), hscripts]
    exact leads_of_mem_discover hw ht (hscripts ▸ hn)
  refine ⟨hw, ht, by decide, by decide, ?_, ?_⟩
  · rw [hrun]
    decide +kernel
  · simp only [again, scan, hfound]
    rw [hrun]
    decide +kernel

end Rerun

end Workspace
end Scriptwright
