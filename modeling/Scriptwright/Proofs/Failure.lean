import Scriptwright.Batch.Named
import Scriptwright.Proofs.Integrity
import Scriptwright.Proofs.Isolation
/-!
# Replacements that fail

A replacement has four steps: the directory is made, access to it is checked, the scratch file is written, and it takes
the name of the file.  Whichever of them fails, and however much of the scratch file was written by then, the file is what
it was, no scratch file came about, and every path reads as before that did not lead to the place of the scratch file
(`replace_failed`); directories that were made on the way are all there is to see.  If no step fails, the file holds the
bytes (`replace_done`).

Links may stand anywhere but at the seat of the scratch file.  A link there is written through, and what it leads to is
lost (`failed_write_noticed`).
-/
namespace Scriptwright
namespace Disk

/-- A step of the replacement of `l` fails: its directory cannot be made or is not to be written to, the scratch file
cannot be written, be it after some bytes, or it cannot take the name. -/
inductive StepFails (d : Disk) (l : Location) (bytes : List UInt8) : Prop where
  | directory {d₁ : Disk} {e : FileError} (hmake : d.makeDirs l.dropLast = (d₁, some e))
  | access {d₁ : Disk} (hmake : d.makeDirs l.dropLast = (d₁, none)) (haccess : d₁.readOnly.contains l.dropLast = true)
  | writing {d₁ d₂ : Disk} {e : FileError} (hmake : d.makeDirs l.dropLast = (d₁, none))
      (haccess : d₁.readOnly.contains l.dropLast = false) (hwrite : d₁.write (scratchFor l) bytes = (d₂, some e))
  | moving {d₁ d₂ : Disk} {e : FileError} (hmake : d.makeDirs l.dropLast = (d₁, none))
      (haccess : d₁.readOnly.contains l.dropLast = false) (hwrite : d₁.write (scratchFor l) bytes = (d₂, none))
      (hmove : d₂.rename (scratchFor l) l = .error e)

/-- From `d` to `d'` nothing is to be seen of an attempt to replace `l` but directories that were made on the way. -/
structure Unnoticed (l : Location) (d d' : Disk) : Prop where
  /-- The file is what it was, or is missing as it was. -/
  file : ∀ q, d.tree.seat? l = some q → d'.tree.get? q = d.tree.get? q
  /-- No scratch file came about. -/
  scratch : ∀ q, d.tree.seat? (scratchFor l) = some q → d'.tree.get? q = d.tree.get? q ∨ d'.tree.get? q = none
  others : ∀ q, d.tree.seat? (scratchFor l) ≠ some q →
    d'.tree.get? q = d.tree.get? q ∨ (d.tree.get? q = none ∧ d'.tree.get? q = some .directory)
  /-- Every path reads as before, unless it led to a file in the place of the scratch file. -/
  reading : ∀ p, d.tree.follow? [] p ≠ d.tree.seat? (scratchFor l) → (d'.read p).toOption = (d.read p).toOption

section Replacing

variable {S N : Location → Prop} {d d' : Disk} {l dir : Location} {n : Text} {bytes : List UInt8}

/-- **A replacement ends with an error exactly if one of its steps fails.** -/
theorem replace_ne_none_iff : (d.replace l bytes).2 ≠ none ↔ d.StepFails l bytes := by
  constructor
  · intro h
    rcases replace_cases d l bytes with ⟨d₁, e, hmake, -⟩ | ⟨d₁, e, hmake, haccess, -⟩ | ⟨d₁, hmake, haccess, hswap⟩
    · exact .directory hmake
    · exact .access hmake haccess
    · rw [hswap, swapIn] at h
      cases hwrite : d₁.write (scratchFor l) bytes with
      | mk d₂ r =>
        cases r with
        | some e => exact .writing hmake haccess hwrite
        | none =>
          cases hmove : d₂.rename (scratchFor l) l with
          | error e => exact .moving hmake haccess hwrite hmove
          | ok d₃ =>
            rw [hwrite] at h
            simp only [hmove] at h
            exact absurd rfl h
  · intro h
    cases h with
    | directory hmake => simp [replace, hmake]
    | access hmake haccess =>
      simp only [replace, hmake, haccess, if_true]
      exact Option.some_ne_none _
    | writing hmake haccess hwrite =>
      simp only [replace, hmake, haccess, Bool.false_eq_true, if_false, swapIn, hwrite]
      exact abandon_ne_none _ _ _
    | moving hmake haccess hwrite hmove =>
      simp only [replace, hmake, haccess, Bool.false_eq_true, if_false, swapIn, hwrite, hmove]
      exact abandon_ne_none _ _ _

theorem toOption_read (d : Disk) (p : Location) : (d.read p).toOption =
    match d.faults.onReading p with
    | some _ => none
    | none => (d.tree.follow? [] p).bind d.tree.file? := by
  unfold read Tree.find Tree.file?
  cases d.faults.onReading p with
  | some c => rfl
  | none =>
    cases d.tree.follow? [] p with
    | none => rfl
    | some q =>
      cases hget : d.tree.get? q with
      | none => simp [hget, Except.toOption]
      | some e => cases e <;> simp [hget, Except.toOption]

namespace Kept

/-- What has its seat in a directory is kept while the directory is made. -/
theorem seat (h : Kept S (d.tree.OnWay dir) d d') (ht : d.tree.Formed) (hdir : dir.Direct) {q : Location}
    (hq : d.tree.seat? (dir ++ [n]) = some q) (hS : ¬ S q) : d'.tree.get? q = d.tree.get? q := by
  rw [Tree.seat?_concat] at hq
  obtain ⟨base, hbase, rfl⟩ := Option.map_eq_some_iff.1 hq
  rcases h.entries (base ++ [n]) with heq | hq | ⟨⟨way, hway, hfollow⟩, hnone, -⟩
  · exact heq
  · exact absurd hq hS
  · exact absurd rfl (ht.ne_seat hway hdir hfollow hnone hbase)

theorem reading (h : Kept S N d d') (ht : d.tree.Formed) {p : Location} (hp : ∀ q, d.tree.follow? [] p = some q → ¬ S q) :
    (d'.read p).toOption = (d.read p).toOption := by
  rw [toOption_read, toOption_read, h.faults, h.follow? ht]
  cases hfollow : d.tree.follow? [] p with
  | none => rfl
  | some q => simp only [Option.bind_some, h.file? (hp q hfollow)]

theorem unnoticed (h : Kept (fun q => d.tree.seat? (scratchFor (dir ++ [n])) = some q) (d.tree.OnWay dir) d d')
    (ht : d.tree.Formed) (hdir : dir.Direct)
    (hscratch : ∀ q, d.tree.seat? (scratchFor (dir ++ [n])) = some q →
      d'.tree.get? q = d.tree.get? q ∨ d'.tree.get? q = none) : Unnoticed (dir ++ [n]) d d' := by
  refine ⟨fun q hq => h.seat ht hdir hq ?_, hscratch, fun q hq => ?_, fun p hp => h.reading ht ?_⟩
  · -- the file and its scratch file have different names
    intro hself
    rw [scratchFor_append, Tree.seat?_concat] at hself
    rw [Tree.seat?_concat] at hq
    obtain ⟨base, hbase, rfl⟩ := Option.map_eq_some_iff.1 hq
    rw [hbase] at hself
    exact scratchName_ne n (by simpa using hself)
  · exact h.others hq
  · intro q hq hself
    exact hp (hq.trans hself.symm)

end Kept

/-- Once its directory is there, the scratch file has its seat in it, and what stands there stood there before. -/
theorem standsAt_of_makeDirs (ht : d.tree.Formed) (hdir : dir.Direct)
    (hfree : ∀ q, d.tree.seat? (scratchFor (dir ++ [n])) = some q → d.tree.LinkFree q) (h : d.makeDirs dir = (d', none)) :
    ∃ base, d.tree.follow? [] dir = some base ∧ d'.tree.StandsAt dir base ∧
      d'.tree.get? (base ++ [scratchName n]) = d.tree.get? (base ++ [scratchName n]) ∧
      d'.tree.LinkFree (base ++ [scratchName n]) := by
  have hkept := makeDirs_kept (S := fun _ => False) ht hdir
  rw [h] at hkept
  obtain ⟨base, hfollow, hget⟩ := Tree.leadsToDirectory_iff.1 (makeDirs_ready ht hdir h).directory
  have hbase : d.tree.follow? [] dir = some base := by rw [← hkept.follow? ht]; exact hfollow
  have hseat : d.tree.seat? (dir ++ [scratchName n]) = some (base ++ [scratchName n]) := by
    rw [Tree.seat?_concat, hbase]
    rfl
  have hsame := hkept.seat ht hdir hseat id
  refine ⟨base, hbase, ⟨hkept.formed, hfollow, hget⟩, hsame, ?_⟩
  unfold Tree.LinkFree
  rw [hsame]
  exact hfree _ (by rw [scratchFor_append]; exact hseat)

/-- **A replacement that fails goes unnoticed**, whichever step it fails at. -/
theorem replace_failed (ht : d.tree.Formed) (hdir : dir.Direct)
    (hfree : ∀ q, d.tree.seat? (scratchFor (dir ++ [n])) = some q → d.tree.LinkFree q)
    (h : (d.replace (dir ++ [n]) bytes).2 ≠ none) : Unnoticed (dir ++ [n]) d (d.replace (dir ++ [n]) bytes).1 := by
  have hmade := makeDirs_kept (S := fun _ => False) ht hdir
  have hcases := replace_cases d (dir ++ [n]) bytes
  rw [List.dropLast_concat] at hcases
  -- a failure before the scratch file is touched
  have hearly : ∀ {d₁ : Disk}, Kept (fun _ => False) (d.tree.OnWay dir) d d₁ → Unnoticed (dir ++ [n]) d d₁ := fun hkept =>
    (hkept.mono (fun _ => False.elim) fun _ h => h).unnoticed ht hdir fun q hq =>
      .inl (hkept.seat ht hdir (scratchFor_append dir n ▸ hq) id)
  rcases hcases with ⟨d₁, e, hmake, hreplace⟩ | ⟨d₁, e, hmake, -, hreplace⟩ | ⟨d₁, hmake, -, hreplace⟩
  · rw [hmake] at hmade
    rw [hreplace]
    exact hearly hmade
  · rw [hmake] at hmade
    rw [hreplace]
    exact hearly hmade
  · rw [hmake] at hmade
    rw [hreplace] at h ⊢
    obtain ⟨base, hbase, hd, hsame, hfree₁⟩ := standsAt_of_makeDirs ht hdir hfree hmake
    obtain ⟨hswap, hgone⟩ := swapIn_failed (N := d.tree.OnWay dir) hd hfree₁ h
    have hseat : d.tree.seat? (scratchFor (dir ++ [n])) = some (base ++ [scratchName n]) := by
      rw [scratchFor_append, Tree.seat?_concat, hbase]
      rfl
    refine Kept.unnoticed ?_ ht hdir fun q hq => ?_
    · refine (hmade.mono (fun _ => False.elim) fun _ h => h).trans (hswap.mono ?_ fun _ h => h)
      rintro q rfl
      exact hseat
    · obtain rfl : base ++ [scratchName n] = q := Option.some.inj (hseat.symm.trans hq)
      rwa [hsame] at hgone

/-- **A replacement that succeeds leaves the bytes in the file**, and no scratch file. -/
theorem replace_done (ht : d.tree.Formed) (hdir : dir.Direct)
    (hfree : ∀ q, d.tree.seat? (scratchFor (dir ++ [n])) = some q → d.tree.LinkFree q)
    (h : (d.replace (dir ++ [n]) bytes).2 = none) :
    ∃ q, d.tree.seat? (dir ++ [n]) = some q ∧ (d.replace (dir ++ [n]) bytes).1.tree.get? q = some (.file bytes) ∧
      ∀ q', d.tree.seat? (scratchFor (dir ++ [n])) = some q' → (d.replace (dir ++ [n]) bytes).1.tree.get? q' = none := by
  have hcases := replace_cases d (dir ++ [n]) bytes
  rw [List.dropLast_concat] at hcases
  rcases hcases with ⟨d₁, e, -, hreplace⟩ | ⟨d₁, e, -, -, hreplace⟩ | ⟨d₁, hmake, -, hreplace⟩
  · rw [hreplace] at h
    cases h
  · rw [hreplace] at h
    cases h
  · rw [hreplace] at h ⊢
    obtain ⟨base, hbase, hd, -, hfree₁⟩ := standsAt_of_makeDirs ht hdir hfree hmake
    have hswapped := swapIn_done hd hfree₁ h
    simp only [scratchFor_append, Tree.seat?_concat, hbase, Option.map_some, Option.some.injEq]
    exact ⟨_, rfl, hswapped.file, by rintro q' rfl; exact hswapped.cleared⟩

end Replacing

end Disk

/-! ## Converting a file -/

theorem Dialect.ofValue_name (d : Dialect) : Dialect.ofValue (.text d.name) = .ok d := by
  have hkey : ∀ d ∈ Dialect.all, Dialect.key (.text d.name) = d.name := by decide +kernel
  rw [Dialect.ofValue, hkey d d.mem_all]
  cases d <;> rfl

namespace Workspace

variable {w : Workspace} {d : Dialect} {disk : Disk} {l : Location}

theorem direct_programDir (hw : w.Resolved) (hl : l.Direct) : Location.Direct (w.programDir (.ofLocation l)).parts := by
  have houtput := hw.output
  unfold programRoot at houtput
  unfold programDir
  cases hout : w.outputDir with
  | none => exact hl.dropLast
  | some out =>
    rw [hout] at houtput
    simp only
    split
    · rename_i names hnames
      unfold Path.below? at hnames
      split at hnames
      · cases hnames
        exact Location.Direct.append houtput fun hmem => hl.dropLast (List.mem_of_mem_drop hmem)
      · cases hnames
    · exact houtput

theorem convertFileNamed_of_reach {name : Value} {file : Text} (hname : Dialect.ofValue name = .ok d)
    (language : Language) (h : reach disk w.root (Path.ofText file) = .ok l) :
    w.convertFileNamed name language false disk file = .ok (.ok (w.convertAt d language false disk file l)) := by
  rw [convertFileNamed, hname]
  simp only [convertFile, h]
  rfl

theorem read_eq_of_toOption {disk' : Disk} {t : Text} (hread : readScript disk l = .ok t)
    (h : (disk'.read l).toOption = (disk.read l).toOption) : disk'.read l = disk.read l := by
  unfold readScript at hread
  cases hbytes : disk.read l with
  | error e =>
    rw [hbytes] at hread
    cases hread
  | ok bytes =>
    rw [hbytes] at h
    cases hbytes' : disk'.read l with
    | error e =>
      rw [hbytes'] at h
      cases h
    | ok bytes' =>
      rw [hbytes'] at h
      cases h
      rfl

end Workspace
end Scriptwright
