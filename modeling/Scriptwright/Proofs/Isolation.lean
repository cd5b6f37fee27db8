import Scriptwright.Proofs.Discovery
import Scriptwright.Proofs.Replacement
/-!
# Scripts of a batch do not get into each other's way

The turn of a script replaces its program, if there is anything to convert, and touches nothing else (`turnOf_idle`,
`turnOf_active`).  The programs of a batch stand apart from each other and from the scripts (`Apart`), their scratch files
too, so what one turn writes no other turn reads or writes: a batch changes the disk within the places of its programs
(`convertEach_within`), and each program that could be written holds what its script was converted to
(`Apart.delivered`).
-/
namespace Scriptwright
namespace Workspace

/-- The root and the output directory lead upwards nowhere, as locations do that were resolved. -/
structure Resolved (w : Workspace) : Prop where
  root : w.root.Direct
  output : w.programRoot.Direct

/-- The names lead from the root to a place that is not the root. -/
structure Leads (names : List Text) : Prop where
  named : names ≠ []
  direct : Location.Direct names

section Places

variable {w : Workspace} {d : Dialect} {names : List Text}

theorem Leads.concat (h : Leads names) : ∃ dir n, names = dir ++ [n] ∧ Location.Direct dir := by
  obtain ⟨dir, n, rfl⟩ := exists_concat h.named
  exact ⟨dir, n, rfl, fun hmem => h.direct (List.mem_append_left _ hmem)⟩

theorem programName_ne_up (d : Dialect) (n : Text) : "..".toList ≠ programName d n := by
  intro h
  have hsuffix := suffix_programName d n
  rw [← h] at hsuffix
  revert hsuffix
  decide

theorem programPlace_ne_nil (w : Workspace) (d : Dialect) (hn : Leads names) : w.programPlace d names ≠ [] := by
  obtain ⟨dir, n, rfl, -⟩ := hn.concat
  rw [programPlace_concat]
  simp

theorem direct_programPlace (hw : w.Resolved) (d : Dialect) (hn : Leads names) : (w.programPlace d names).Direct := by
  obtain ⟨dir, n, rfl, hdir⟩ := hn.concat
  rw [programPlace_concat]
  refine hw.output.append (Location.Direct.append hdir fun hmem => ?_)
  exact programName_ne_up d n (List.mem_singleton.1 hmem)

theorem direct_source (hw : w.Resolved) (hn : Leads names) : Location.Direct (w.root ++ names) := hw.root.append hn.direct

theorem scratchFor_programPlace (w : Workspace) (d : Dialect) (dir : List Text) (n : Text) :
    scratchFor (w.programPlace d (dir ++ [n])) = w.programRoot ++ (dir ++ [scratchName (programName d n)]) := by
  rw [programPlace_concat, ← List.append_assoc, scratchFor_append, List.append_assoc]

/-- A turn touches two places in one directory: that of the program, and that of its scratch file. -/
theorem touched_concat_iff {dir : List Text} {n : Text} {q : Location} :
    Disk.Touched (w.programPlace d (dir ++ [n])) q ↔
      ∃ m, (m = programName d n ∨ m = scratchName (programName d n)) ∧ q = w.programRoot ++ (dir ++ [m]) := by
  rw [Disk.Touched, scratchFor_programPlace, programPlace_concat]
  simp

/-- **No turn touches a wanted file**, whatever is wanted but scratch files. -/
theorem not_touched_of_wants (hn : Leads names) {extensions : List Text} (hspare : SparesScratch extensions)
    {dir : Location} {n : Text} (hwants : wants extensions n = true) :
    ¬ Disk.Touched (w.programPlace d names) (dir ++ [n]) := by
  obtain ⟨dir', m, rfl, -⟩ := hn.concat
  rw [touched_concat_iff]
  rintro ⟨x, hx, heq⟩
  rw [← List.append_assoc] at heq
  obtain rfl : n = x := by simpa using (List.append_inj' heq rfl).2
  rcases hx with rfl | rfl
  · rw [not_wants_programName] at hwants
    cases hwants
  · rw [not_wants_scratchName hspare] at hwants
    cases hwants

end Places

/-! ## Reading -/

section Reading

variable {disk disk' : Disk} {l : Location}

theorem read_file (ht : disk.tree.Plain) (hl : l.Direct) {bytes : List UInt8} (h : disk.tree.file? l = some bytes) :
    disk.read l = match disk.faults.onReading l with
      | some c => .error ⟨c, .ofLocation l, none⟩
      | none => .ok bytes := by
  have hget := Tree.file?_eq_some_iff.1 h
  rw [Disk.read, ht.find hl, hget]
  cases disk.faults.onReading l with
  | some c => rfl
  | none => simp [hget]

theorem readScript_congr (ht : disk.tree.Plain) (ht' : disk'.tree.Plain) (hl : l.Direct)
    (hfaults : disk'.faults = disk.faults) (hfile : (disk.tree.file? l).isSome)
    (hsame : disk'.tree.file? l = disk.tree.file? l) : readScript disk' l = readScript disk l := by
  obtain ⟨bytes, hbytes⟩ := Option.isSome_iff_exists.1 hfile
  rw [readScript, readScript, read_file ht hl hbytes, read_file ht' hl (hsame.trans hbytes), hfaults]

end Reading

/-! ## Turns -/

/-- What the program of a script is to hold; nothing if the script is blank or cannot be read. -/
def program? (w : Workspace) (d : Dialect) (language : Language) (disk : Disk) (names : List Text) :
    Option (List UInt8) :=
  match readScript disk (w.root ++ names) with
  | .error _ => none
  | .ok t => if Text.allBlank t then none else some (Utf8.encode ((convert w.settings d language t).code ++ ['\n']))

theorem program?_of_blank {w : Workspace} {d : Dialect} {language : Language} {disk : Disk} {names : List Text} {t : Text}
    (hread : readScript disk (w.root ++ names) = .ok t) (hblank : Text.allBlank t = true) :
    w.program? d language disk names = none := by
  simp only [program?, hread, hblank, if_true]

theorem program?_of_code {w : Workspace} {d : Dialect} {language : Language} {disk : Disk} {names : List Text} {t : Text}
    (hread : readScript disk (w.root ++ names) = .ok t) (hblank : Text.allBlank t = false) :
    w.program? d language disk names = some (Utf8.encode ((convert w.settings d language t).code ++ ['\n'])) := by
  simp only [program?, hread, hblank, Bool.false_eq_true, if_false]

theorem exists_of_program? {w : Workspace} {d : Dialect} {language : Language} {disk : Disk} {names : List Text}
    {bytes : List UInt8} (h : w.program? d language disk names = some bytes) :
    ∃ t, readScript disk (w.root ++ names) = .ok t ∧ Text.allBlank t = false ∧
      Utf8.encode ((convert w.settings d language t).code ++ ['\n']) = bytes := by
  cases hread : readScript disk (w.root ++ names) with
  | error why =>
    rw [program?, hread] at h
    cases h
  | ok t =>
    cases hblank : Text.allBlank t with
    | true =>
      rw [program?_of_blank hread hblank] at h
      cases h
    | false =>
      rw [program?_of_code hread hblank] at h
      exact ⟨t, rfl, hblank, Option.some.inj h⟩

/-- The turn of the script that `names` lead to from the root. -/
def turnOf (w : Workspace) (d : Dialect) (language : Language) (disk : Disk) (names : List Text) : Turn :=
  w.convertAt d language false disk (Path.toText ⟨.here, names⟩) (w.root ++ names)

section Turns

variable {w : Workspace} {d : Dialect} {language : Language} {disk disk' : Disk} {names : List Text}

theorem convertEach_cons (hw : w.Resolved) (ht : disk.tree.Plain) (hn : Leads names) (rest : List (List Text)) :
    w.convertEach d language false disk (names :: rest) =
      let turn := w.turnOf d language disk names
      let run := w.convertEach d language false turn.disk rest
      ⟨run.disk, (turn.log, turn.result) :: run.turns⟩ := by
  have hplace : w.placeOf disk names = w.root ++ names := by
    rw [placeOf, ht.follow? (direct_source hw hn)]
    rfl
  rw [convertEach, hplace]
  rfl

theorem present_of_readScript {l : Location} {t : Text} (h : readScript disk l = .ok t) : disk.tree.present l = true := by
  unfold readScript Disk.read at h
  unfold Tree.present
  cases hfind : disk.tree.find l with
  | ok q => rfl
  | error c =>
    rw [hfind] at h
    cases hfault : disk.faults.onReading l <;> simp [hfault] at h

/-- What was read has been looked at. -/
theorem reach_of_readScript {start l : Location} {p : Path} {t : Text} (hplace : disk.tree.resolve start p = .ok l)
    (hread : readScript disk l = .ok t) : reach disk start p = .ok l := by
  have hseen : disk.denial? l = none := by
    rw [Disk.denial?_eq_none_iff]
    cases hdenial : disk.faults.denial? l with
    | none => rfl
    | some c =>
      rw [readScript, Disk.read, Faults.onReading, hdenial] at hread
      cases hread
  rw [reach, hplace]
  simp only [hseen]

/-- What became of a program whose replacement ended so. -/
def deliveryOf (path : Path) : Option ReplaceError → Delivery
  | none => .written path
  | some e => .failed e

/-- A script that cannot be read or is blank is rejected, and the disk left alone. -/
theorem convertAt_idle {l : Location} (h : ∀ t, readScript disk l = .ok t → Text.allBlank t = true) (dryRun : Bool)
    (label : Text) : ∃ log why, w.convertAt d language dryRun disk label l = ⟨disk, log, .rejected label why⟩ := by
  unfold convertAt
  split
  · cases hread : readScript disk l with
    | error why => exact ⟨_, _, rfl⟩
    | ok t =>
      simp only [convertText, h t hread, if_true]
      cases dryRun <;> exact ⟨_, _, rfl⟩
  · exact ⟨_, _, rfl⟩

/-- A dry run converts the text of the script, and leaves the disk alone. -/
theorem convertAt_dry {l : Location} {t : Text} (hread : readScript disk l = .ok t) (label : Text) :
    w.convertAt d language true disk label l =
      ⟨disk, (w.convertText d language label t).1, (w.convertText d language label t).2⟩ := by
  rw [convertAt, if_pos (present_of_readScript hread), hread]
  rfl

/-- A script with something to convert has its program replaced. -/
theorem convertAt_active {l : Location} {t : Text} (hread : readScript disk l = .ok t) (hblank : Text.allBlank t = false)
    (label : Text) :
    let r := convert w.settings d language t
    let path := w.programPath d (.ofLocation l)
    let replaced := disk.replace path.parts (Utf8.encode (r.code ++ ['\n']))
    w.convertAt d language false disk label l =
      ⟨replaced.1, (w.convertText d language label t).1,
        .converted label ⟨r, r.fault? (Script.lines t), deliveryOf path replaced.2⟩⟩ := by
  intro r path replaced
  rw [convertAt, if_pos (present_of_readScript hread), hread]
  simp only [convertText, hblank, Bool.false_eq_true, if_false, deliver]
  have hpath : w.programPath r.dialect (.ofLocation l) = path := rfl
  rw [hpath]
  cases hout : disk.replace path.parts (Utf8.encode (r.code ++ ['\n'])) with
  | mk disk' e => cases e <;> simp [replaced, hout, deliveryOf, r]

theorem turnOf_idle (h : w.program? d language disk names = none) :
    (w.turnOf d language disk names).disk = disk ∧ (w.turnOf d language disk names).result.writeError? = none := by
  have hblank : ∀ t, readScript disk (w.root ++ names) = .ok t → Text.allBlank t = true := fun t hread => by
    by_contra hblank
    rw [program?_of_code hread (Bool.eq_false_iff.2 hblank)] at h
    cases h
  obtain ⟨log, why, hturn⟩ : ∃ log why,
      w.turnOf d language disk names = ⟨disk, log, .rejected (Path.toText ⟨.here, names⟩) why⟩ :=
    convertAt_idle hblank false _
  rw [hturn]
  exact ⟨rfl, rfl⟩

theorem turnOf_active (hn : Leads names) {t : Text} (hread : readScript disk (w.root ++ names) = .ok t)
    (hblank : Text.allBlank t = false) :
    let label := Path.toText ⟨.here, names⟩
    let r := convert w.settings d language t
    let replaced := disk.replace (w.programPlace d names) (Utf8.encode (r.code ++ ['\n']))
    w.turnOf d language disk names =
      ⟨replaced.1, (w.convertText d language label t).1,
        .converted label ⟨r, r.fault? (Script.lines t), deliveryOf (.ofLocation (w.programPlace d names)) replaced.2⟩⟩ := by
  have hturn : w.turnOf d language disk names = _ := convertAt_active hread hblank _
  rw [programPath_eq w d hn.named] at hturn
  exact hturn

/-- **A turn touches the program of its script**, if there is anything to convert. -/
theorem turnOf_within (hw : w.Resolved) (ht : disk.tree.Plain) (hn : Leads names) :
    Disk.Within (fun q => (w.program? d language disk names).isSome ∧ Disk.Touched (w.programPlace d names) q) disk
      (w.turnOf d language disk names).disk := by
  cases hprogram : w.program? d language disk names with
  | none =>
    rw [(turnOf_idle hprogram).1]
    exact .refl ht.formed
  | some bytes =>
    obtain ⟨t, hread, hblank, -⟩ := exists_of_program? hprogram
    rw [turnOf_active hn hread hblank]
    exact (Disk.replace_within ht (programPlace_ne_nil w d hn) (direct_programPlace hw d hn)).within fun q hq => ⟨rfl, hq⟩

/-- A turn that reports no failure has replaced the program. -/
theorem replaced_of_writeError? (hn : Leads names) {t : Text} (hread : readScript disk (w.root ++ names) = .ok t)
    (hblank : Text.allBlank t = false) (herror : (w.turnOf d language disk names).result.writeError? = none) :
    (disk.replace (w.programPlace d names) (Utf8.encode ((convert w.settings d language t).code ++ ['\n']))).2 = none := by
  rw [turnOf_active hn hread hblank] at herror
  generalize disk.replace _ _ = replaced at herror ⊢
  cases hout : replaced.2 with
  | none => rfl
  | some e =>
    simp only [hout] at herror
    cases herror

/-- **A program that was written holds what its script was converted to.** -/
theorem delivered_turnOf (hw : w.Resolved) (ht : disk.tree.Plain) (hn : Leads names) {bytes : List UInt8}
    (h : w.program? d language disk names = some bytes)
    (herror : (w.turnOf d language disk names).result.writeError? = none) :
    (w.turnOf d language disk names).disk.Delivered (w.programPlace d names) bytes := by
  obtain ⟨t, hread, hblank, rfl⟩ := exists_of_program? h
  have hreplaced := replaced_of_writeError? hn hread hblank herror
  rw [turnOf_active hn hread hblank]
  exact Disk.delivered_of_replace ht (programPlace_ne_nil w d hn) (direct_programPlace hw d hn) hreplaced

/-- What a script is converted to depends on the file it stands in. -/
theorem program?_within {S : Location → Prop} (hw : w.Resolved) (ht : disk.tree.Plain) (hn : Leads names)
    (h : Disk.Within S disk disk') (hS : ¬ S (w.root ++ names)) (hfile : (disk.tree.file? (w.root ++ names)).isSome) :
    w.program? d language disk' names = w.program? d language disk names := by
  rw [program?, program?, readScript_congr ht (h.plain ht) (direct_source hw hn) h.faults hfile (h.file? hS)]

end Turns

/-! ## Batches -/

section Batches

variable {w : Workspace} {d : Dialect} {language : Language} {scripts : List (List Text)}

/-- **A batch changes the disk within the places of its programs.** -/
theorem convertEach_within {S : Location → Prop} (hw : w.Resolved) : ∀ (scripts : List (List Text)) (disk : Disk),
    disk.tree.Plain → (∀ names ∈ scripts, Leads names) →
    (∀ disk' names, Disk.Within S disk disk' → names ∈ scripts → (w.program? d language disk' names).isSome →
      ∀ q, Disk.Touched (w.programPlace d names) q → S q) →
    Disk.Within S disk (w.convertEach d language false disk scripts).disk
  | [], disk, ht, _, _ => .refl ht.formed
  | names :: rest, disk, ht, hleads, hS => by
    obtain ⟨hn, hrest⟩ := List.forall_mem_cons.1 hleads
    have hturn : Disk.Within S disk (w.turnOf d language disk names).disk :=
      (turnOf_within hw ht hn).within fun q hq => hS disk names (.refl ht.formed) List.mem_cons_self hq.1 q hq.2
    rw [convertEach_cons hw ht hn]
    exact hturn.trans (convertEach_within hw rest _ (hturn.plain ht) hrest fun disk' m hd hm =>
      hS disk' m (hturn.trans hd) (List.mem_cons_of_mem _ hm))

/-- The scripts' programs and their scratch files stand apart from each other and from the scripts. -/
structure Apart (w : Workspace) (d : Dialect) (scripts : List (List Text)) : Prop where
  leads : ∀ a ∈ scripts, Leads a
  sources : ∀ a ∈ scripts, ∀ b ∈ scripts, ¬ Disk.Touched (w.programPlace d a) (w.root ++ b)
  programs : scripts.Pairwise fun a b => ∀ q, Disk.Touched (w.programPlace d a) q → ¬ Disk.Touched (w.programPlace d b) q

theorem Apart.tail {names : List Text} {rest : List (List Text)} (h : w.Apart d (names :: rest)) : w.Apart d rest :=
  ⟨fun a ha => h.leads a (List.mem_cons_of_mem _ ha),
    fun a ha b hb => h.sources a (List.mem_cons_of_mem _ ha) b (List.mem_cons_of_mem _ hb),
    (List.pairwise_cons.1 h.programs).2⟩

/-- The places that a batch touches: those of the programs of scripts that have something to convert. -/
def Written (w : Workspace) (d : Dialect) (language : Language) (disk : Disk) (scripts : List (List Text)) (q : Location) :
    Prop :=
  ∃ names ∈ scripts, (w.program? d language disk names).isSome ∧ Disk.Touched (w.programPlace d names) q

theorem Apart.not_written (h : w.Apart d scripts) (disk : Disk) {names : List Text} (hn : names ∈ scripts) :
    ¬ w.Written d language disk scripts (w.root ++ names) :=
  fun ⟨a, ha, _, htouched⟩ => h.sources a ha names hn htouched

theorem Apart.convertEach_within (h : w.Apart d scripts) (language : Language) (hw : w.Resolved) {disk : Disk}
    (ht : disk.tree.Plain) (hfiles : ∀ names ∈ scripts, (disk.tree.file? (w.root ++ names)).isSome) :
    Disk.Within (w.Written d language disk scripts) disk (w.convertEach d language false disk scripts).disk := by
  refine Workspace.convertEach_within hw scripts disk ht h.leads fun disk' names hd hn hsome q hq => ⟨names, hn, ?_, hq⟩
  rwa [program?_within hw ht (h.leads names hn) hd (h.not_written disk hn) (hfiles names hn)] at hsome

theorem Apart.turnOf_within {names : List Text} (h : w.Apart d scripts) (language : Language) (hw : w.Resolved) {disk : Disk}
    (ht : disk.tree.Plain) (hn : names ∈ scripts) :
    Disk.Within (Disk.Touched (w.programPlace d names)) disk (w.turnOf d language disk names).disk :=
  (Workspace.turnOf_within hw ht (h.leads names hn)).within fun _ hq => hq.2

/-- **After a batch that could write its programs, each of them holds what its script was converted to.** -/
theorem Apart.delivered (hw : w.Resolved) : ∀ (scripts : List (List Text)) (disk : Disk), w.Apart d scripts →
    disk.tree.Plain → (∀ names ∈ scripts, (disk.tree.file? (w.root ++ names)).isSome) →
    (∀ r ∈ (w.convertEach d language false disk scripts).results, r.writeError? = none) →
    ∀ names ∈ scripts, ∀ bytes, w.program? d language disk names = some bytes →
      (w.convertEach d language false disk scripts).disk.Delivered (w.programPlace d names) bytes
  | [], _, _, _, _, _, _, hn, _, _ => nomatch hn
  | first :: rest, disk, hapart, ht, hfiles, hresults, names, hn, bytes, hbytes => by
    have hfirst := hapart.leads first List.mem_cons_self
    have hturn := hapart.turnOf_within language hw ht List.mem_cons_self
    have hsources : ∀ m ∈ rest, ¬ Disk.Touched (w.programPlace d first) (w.root ++ m) := fun m hm =>
      hapart.sources first List.mem_cons_self m (List.mem_cons_of_mem _ hm)
    have hfiles' : ∀ m ∈ rest, ((w.turnOf d language disk first).disk.tree.file? (w.root ++ m)).isSome := by
      intro m hm
      rw [hturn.file? (hsources m hm)]
      exact hfiles m (List.mem_cons_of_mem _ hm)
    rw [convertEach_cons hw ht hfirst] at hresults ⊢
    obtain ⟨herror, hresults'⟩ := List.forall_mem_cons.1 hresults
    rcases List.mem_cons.1 hn with rfl | hn
    · -- written now, and left alone by the turns that follow
      have hrest := hapart.tail.convertEach_within language hw (hturn.plain ht) hfiles'
      have hapart' := (List.pairwise_cons.1 hapart.programs).1
      refine (delivered_turnOf hw ht hfirst hbytes herror).within hturn.formed hrest ?_ ?_
      · rintro ⟨m, hm, -, htouched⟩
        exact hapart' m hm _ (Or.inl rfl) htouched
      · rintro ⟨m, hm, -, htouched⟩
        exact hapart' m hm _ (Or.inr rfl) htouched
    · -- its script is what it was before the first turn
      refine Apart.delivered hw rest _ hapart.tail (hturn.plain ht) hfiles' hresults' names hn bytes ?_
      rwa [program?_within hw ht (hapart.leads names (List.mem_cons_of_mem _ hn)) hturn (hsources names hn)
        (hfiles names (List.mem_cons_of_mem _ hn))]

end Batches

/-! ## The scripts of a workspace -/

section Isolation

variable {w : Workspace} {disk : Disk} {extensions : List Text}

theorem leads_of_mem_discover (hw : w.Resolved) (ht : disk.tree.Plain) {depth : Int} {names : List Text}
    (h : names ∈ w.discover disk extensions depth) : Leads names := by
  obtain ⟨hne, hfile, -⟩ := (mem_discover_iff ht hw.root).1 h
  obtain ⟨bytes, hbytes⟩ := Option.isSome_iff_exists.1 hfile
  have hmem := Tree.mem_of_get? (by simp [hne]) (Tree.file?_eq_some_iff.1 hbytes)
  exact ⟨hne, fun hup => ht.direct _ hmem (List.mem_append_right _ hup)⟩

theorem concat_of_mem_discover (hw : w.Resolved) (ht : disk.tree.Plain) {depth : Int} {names : List Text}
    (h : names ∈ w.discover disk extensions depth) : ∃ dir n, names = dir ++ [n] ∧ wants extensions n = true := by
  obtain ⟨hne, -, hwants, -⟩ := (mem_discover_iff ht hw.root).1 h
  obtain ⟨dir, n, rfl⟩ := exists_concat hne
  rw [List.getLast?_concat, Option.getD_some] at hwants
  exact ⟨dir, n, rfl, hwants⟩

theorem scratchName_programName_inj {d : Dialect} {m n : Text}
    (h : scratchName (programName d m) = scratchName (programName d n)) : programName d m = programName d n := by
  have hstem : Name.stem (programName d m) = Name.stem (programName d n) := List.append_cancel_right h
  rw [← Name.stem_append_suffix (programName d m), ← Name.stem_append_suffix (programName d n), hstem,
    suffix_programName, suffix_programName]

theorem programName_ne_scratchName (d : Dialect) (m n : Text) : programName d m ≠ scratchName n := by
  intro h
  have hsuffix := congrArg Name.suffix h
  rw [suffix_programName, suffix_scratchName] at hsuffix
  revert hsuffix
  decide

/-- **What two turns both touch is the program of one script**, if no underscore stands in the suffixes. -/
theorem eq_of_touched (hfree : NoUnderscore extensions) {d : Dialect} {dir dir' : List Text} {m n : Text}
    (hm : wants extensions m = true) (hn : wants extensions n = true) {q : Location}
    (h : Disk.Touched (w.programPlace d (dir ++ [m])) q) (h' : Disk.Touched (w.programPlace d (dir' ++ [n])) q) :
    dir ++ [m] = dir' ++ [n] := by
  obtain ⟨x, hx, rfl⟩ := touched_concat_iff.1 h
  obtain ⟨y, hy, heq⟩ := touched_concat_iff.1 h'
  obtain ⟨rfl, rfl⟩ : dir = dir' ∧ x = y := by simpa using heq
  have hname : programName d m = programName d n := by
    rcases hx with rfl | rfl <;> rcases hy with hy | hy
    · exact hy
    · exact absurd hy (programName_ne_scratchName d m _)
    · exact absurd hy.symm (programName_ne_scratchName d n _)
    · exact scratchName_programName_inj hy
  rw [programName_injective hfree hm hn hname]

theorem apart_discover (hw : w.Resolved) (ht : disk.tree.Plain) (hfree : NoUnderscore extensions)
    (hspare : SparesScratch extensions) (d : Dialect) (depth : Int) : w.Apart d (w.discover disk extensions depth) := by
  refine ⟨fun a ha => leads_of_mem_discover hw ht ha, fun a ha b hb => ?_, ?_⟩
  · obtain ⟨dir, n, rfl, hwants⟩ := concat_of_mem_discover hw ht hb
    rw [← List.append_assoc]
    exact not_touched_of_wants (leads_of_mem_discover hw ht ha) hspare hwants
  · refine (nodup_discover ht hw.root extensions depth).imp_of_mem fun {a b} ha hb hne q hq hq' => hne ?_
    obtain ⟨dir, m, rfl, hm⟩ := concat_of_mem_discover hw ht ha
    obtain ⟨dir', n, rfl, hn⟩ := concat_of_mem_discover hw ht hb
    exact eq_of_touched hfree hm hn hq hq'

/-- **The programs of a batch do not get into each other's way.**  They stand at different places, none of them at a
script's.  Whatever can be written, the batch changes no file but programs of scripts that have something to convert, and
their scratch files; scripts stay as they are.  If every program can be written, each of these holds the code its script
is converted to and a last line feed, and no scratch file is left. -/
theorem batch_isolation (hw : w.Resolved) (ht : disk.tree.Plain) (hfree : NoUnderscore extensions)
    (hspare : SparesScratch extensions) (d : Dialect) (language : Language) (depth : Int) :
    let scripts := w.discover disk extensions depth
    let run := w.scan d language false disk extensions depth
    (scripts.map fun names => w.programPath d (.ofLocation (w.root ++ names))).Nodup ∧
    (∀ a ∈ scripts, ∀ b ∈ scripts, w.programPath d (.ofLocation (w.root ++ a)) ≠ .ofLocation (w.root ++ b)) ∧
    (∀ l, ¬ w.Written d language disk scripts l → run.disk.tree.file? l = disk.tree.file? l) ∧
    (∀ names ∈ scripts, run.disk.tree.file? (w.root ++ names) = disk.tree.file? (w.root ++ names)) ∧
    ((∀ r ∈ run.results, r.writeError? = none) → ∀ names ∈ scripts, ∀ t,
      readScript disk (w.root ++ names) = .ok t → Text.allBlank t = false →
        run.disk.tree.file? (w.programPlace d names) =
          some (Utf8.encode ((convert w.settings d language t).code ++ ['\n'])) ∧
        run.disk.tree.file? (scratchFor (w.programPlace d names)) = none) := by
  intro scripts run
  have hapart : w.Apart d scripts := apart_discover hw ht hfree hspare d depth
  have hfiles : ∀ names ∈ scripts, (disk.tree.file? (w.root ++ names)).isSome := fun names hn =>
    ((mem_discover_iff ht hw.root).1 hn).2.1
  have hwithin := hapart.convertEach_within language hw ht hfiles
  refine ⟨?_, fun a ha b hb heq => ?_, fun l hl => hwithin.file? hl, fun names hn => hwithin.file? (hapart.not_written disk hn),
    fun hresults names hn t hread hblank => ?_⟩
  · rw [List.Nodup, List.pairwise_map]
    exact hapart.programs.imp fun hdisjoint heq => hdisjoint _ (Or.inl rfl) (Or.inl (congrArg Path.parts heq))
  · exact hapart.sources a ha b hb (Or.inl (congrArg Path.parts heq).symm)
  · have hdelivered := Apart.delivered hw scripts disk hapart ht hfiles hresults names hn _ (program?_of_code hread hblank)
    exact ⟨hdelivered.file?, hdelivered.scratch_file?⟩

/-- Two scripts of one stem and a blank one, with an output directory among them. -/
theorem batch_isolation_one_stem :
    let ws := "ws".toList
    let w : Workspace := { root := [ws], outputDir := some [ws, "out".toList] }
    let disk : Disk := { tree := ⟨[([ws], .directory), ([ws, "a.sh".toList], .file [0x23]),
      ([ws, "a.pl".toList], .file [0x23]), ([ws, "b.SH".toList], .file [0x20])]⟩ }
    let run := w.scan .general .auto false disk Script.suffixes Script.depth
    w.Resolved ∧ disk.tree.Plain ∧ NoUnderscore Script.suffixes ∧ SparesScratch Script.suffixes ∧
    (∀ r ∈ run.results, r.writeError? = none) ∧
    run.disk.tree.file? [ws, "out".toList, "a_sh_converted.py".toList] =
      some (Utf8.encode "import os\nimport re\nimport sys\n\n#\n".toList) := by
  intro ws w disk run
  have hw : w.Resolved := ⟨by decide, by decide⟩
  have ht : disk.tree.Plain := ⟨by decide, by decide, by decide, by decide, by decide⟩
  have hfree : NoUnderscore Script.suffixes := by decide
  have hspare : SparesScratch Script.suffixes := by decide
  have hscripts : w.discover disk Script.suffixes Script.depth = [["a.pl".toList], ["a.sh".toList], ["b.SH".toList]] :=
    discover_eq_of_perm ht hw.root (by decide +kernel) (by decide)
  have hresults : ∀ r ∈ run.results, r.writeError? = none := by
    simp only [run, scan, hscripts]
    decide +kernel
  have hread : readScript disk (w.root ++ ["a.sh".toList]) = .ok "#".toList := by decide +kernel
  have hprogram := ((batch_isolation hw ht hfree hspare .general .auto Script.depth).2.2.2.2 hresults ["a.sh".toList]
    (by rw [hscripts]; decide) _ hread (by decide)).1
  have hcode : (convert w.settings .general .auto "#".toList).code ++ ['\n'] =
      "import os\nimport re\nimport sys\n\n#\n".toList := by decide +kernel
  rw [hcode] at hprogram
  exact ⟨hw, ht, hfree, hspare, hresults, hprogram⟩

end Isolation

end Workspace
end Scriptwright
