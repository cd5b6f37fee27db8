import Scriptwright.Proofs.Frame
import Scriptwright.Proofs.Name
/-!
# What a replacement changes

The seat of a file and that of its scratch file are where a replacement is at work.  Nothing but directories comes about
elsewhere, whether it succeeds or fails.  If the scratch file has been written and does not take the name, it goes away
again (`swapIn_failed`); if it takes the name, the file holds the bytes (`swapIn_done`).

Without links every seat is the location itself, so that a replacement touches the file and its scratch file
(`replace_within`).  After a success the disk is as it has to be for the same replacement to succeed again
(`replace_none`), in which case it changes nothing at all (`Holds.replace`).  Only a directory in the place of the scratch
file stands in its way, and then the replacement fails and changes nothing either (`Holds.replace_blocked`).
-/
namespace Scriptwright

/-! ## A directory and what it holds -/

/-- The directory `dir` stands at `base`. -/
structure Tree.StandsAt (t : Tree) (dir base : Location) : Prop where
  formed : t.Formed
  follow : t.follow? [] dir = some base
  directory : t.get? base = some .directory

namespace Tree.StandsAt

variable {t : Tree} {dir base : Location} {n : Text}

theorem place (h : t.StandsAt dir base) (n : Text) : t.place (dir ++ [n]) = .ok (base ++ [n]) :=
  place_concat_eq_ok_iff.2 ⟨base, h.follow, h.directory, rfl⟩

theorem parent (h : t.StandsAt dir base) (n : Text) : t.isDirectory (base ++ [n]).dropLast = true := by
  rw [List.dropLast_concat]
  exact isDirectory_iff.2 h.directory

theorem direct (h : t.StandsAt dir base) (hn : n ≠ "..".toList) : Location.Direct (base ++ [n]) :=
  Location.direct_concat.2 ⟨direct_follow? h.follow, hn⟩

theorem writePlace_ok (h : t.StandsAt dir base) (hn : n ≠ "..".toList) (hfree : t.LinkFree (base ++ [n])) {q : Location}
    (hq : Disk.writePlace t (dir ++ [n]) = .ok q) : q = base ++ [n] ∧ t.isDirectory (base ++ [n]) = false := by
  obtain ⟨hfollow, hleaf, -⟩ := Disk.writePlace_eq_ok hq
  rw [Tree.follow?_concat h.follow hn hfree, Option.some.injEq] at hfollow
  subst hfollow
  exact ⟨rfl, hleaf⟩

end Tree.StandsAt

namespace Disk

section Steps

variable {S N : Location → Prop} {d d' : Disk} {dir base : Location} {n : Text} {bytes : List UInt8}

theorem Kept.standsAt (h : Kept S N d d') (hd : d.tree.StandsAt dir base) : d'.tree.StandsAt dir base :=
  ⟨h.formed, by rw [h.follow? hd.formed]; exact hd.follow, h.directories base hd.directory⟩

/-- What a write does to the seat: nothing, or the bytes that were written stand there. -/
theorem write_seat (hd : d.tree.StandsAt dir base) (hn : n ≠ "..".toList) (hfree : d.tree.LinkFree (base ++ [n]))
    (bytes : List UInt8) :
    (∃ e, d.write (dir ++ [n]) bytes = (d, some e)) ∨
      ∃ d₁ written r, d.write (dir ++ [n]) bytes = (d₁, r) ∧ d.denial? (dir ++ [n]) = none ∧
        (r = none → written = bytes ∧ d.faults.onWriting (dir ++ [n]) = none) ∧
        d₁.tree.get? (base ++ [n]) = some (.file written) ∧ Kept (· = base ++ [n]) N d d₁ := by
  have hput : ∀ {q : Location}, writePlace d.tree (dir ++ [n]) = .ok q → ∀ written,
      (d.tree.put q (.file written)).get? (base ++ [n]) = some (.file written) ∧
      Kept (· = base ++ [n]) N d { d with tree := d.tree.put q (.file written) } := by
    intro q hplace written
    obtain ⟨rfl, hleaf⟩ := hd.writePlace_ok hn hfree hplace
    exact ⟨by rw [Tree.get?_put _ (by simp), if_pos rfl],
      .of_put hd.formed (by simp) (hd.direct hn) (hd.parent n) hleaf hfree rfl (.inl rfl)⟩
  rcases write_cases d (dir ++ [n]) bytes with h | ⟨q, hplace, hseen, ⟨hfault, h⟩ | ⟨k, e, h⟩⟩
  · exact .inl h
  · exact .inr ⟨_, bytes, none, h, hseen, fun _ => ⟨rfl, hfault⟩, hput hplace bytes⟩
  · exact .inr ⟨_, bytes.take k, some e, h, hseen, nofun, hput hplace (bytes.take k)⟩

/-- What is abandoned goes away, unless it is a directory or nobody may look for it. -/
theorem abandon_seat (hd : d.tree.StandsAt dir base) (hn : n ≠ "..".toList) (hfree : d.tree.LinkFree (base ++ [n]))
    (e : FileError) :
    Kept (· = base ++ [n]) N d (d.abandon (dir ++ [n]) e).1 ∧
      ((d.abandon (dir ++ [n]) e).1.tree.get? (base ++ [n]) = none ∨
        ((d.abandon (dir ++ [n]) e).1 = d ∧
          (d.denial? (dir ++ [n]) ≠ none ∨ d.tree.get? (base ++ [n]) = some .directory))) := by
  unfold abandon
  cases hseen : d.denial? (dir ++ [n]) with
  | some e' => exact ⟨.refl hd.formed, .inr ⟨rfl, .inl nofun⟩⟩
  | none =>
    simp only
    rw [Tree.present_of_follow? (Tree.follow?_concat hd.follow hn hfree)]
    cases hget : d.tree.get? (base ++ [n]) with
    | none => exact ⟨.refl hd.formed, .inl hget⟩
    | some entry =>
      simp only [Option.isSome_some, if_true]
      cases hunlink : d.unlink (dir ++ [n]) with
      | ok d₁ =>
        obtain ⟨q, hplace, hleaf, rfl⟩ := unlink_eq_ok hunlink
        cases (hd.place n).symm.trans hplace
        exact ⟨.of_erase hd.formed hleaf hfree rfl, .inl (by rw [Tree.get?_erase _ (by simp), if_pos rfl])⟩
      | error e' =>
        refine ⟨.refl hd.formed, .inr ⟨rfl, .inr ?_⟩⟩
        rw [unlink, hd.place n] at hunlink
        simp only [hget] at hunlink
        split at hunlink
        · cases ‹some entry = none›
        · assumption
        · cases hunlink

/-- The scratch file is written in part or as a whole and then abandoned: nothing is left of it. -/
theorem abandon_written {d₁ : Disk} {written : List UInt8} (hd : d.tree.StandsAt dir base) (hn : n ≠ "..".toList)
    (hseen : d.denial? (dir ++ [n]) = none) (hwritten : d₁.tree.get? (base ++ [n]) = some (.file written))
    (hkept : Kept (· = base ++ [n]) N d d₁) (e : FileError) :
    Kept (· = base ++ [n]) N d (d₁.abandon (dir ++ [n]) e).1 ∧
      (d₁.abandon (dir ++ [n]) e).1.tree.get? (base ++ [n]) = none := by
  have hfree := Tree.linkFree_of_get? hwritten rfl
  obtain ⟨habandon, hgone | ⟨-, hdenied | hdir⟩⟩ := abandon_seat (N := N) (hkept.standsAt hd) hn hfree e
  · exact ⟨hkept.trans habandon, hgone⟩
  · exact absurd ((hkept.denial? _).trans hseen) hdenied
  · cases hwritten.symm.trans hdir

theorem abandon_ne_none (d : Disk) (l : Location) (e : FileError) : (d.abandon l e).2 ≠ none := by
  unfold abandon
  split
  · exact nofun
  · split
    · split <;> exact nofun
    · exact nofun

/-- The seats of a file named `n` and its scratch file in the directory that stands at `base`. -/
def Seats (base : Location) (n : Text) (q : Location) : Prop := q = base ++ [n] ∨ q = base ++ [scratchName n]

theorem rename_seat (hd : d.tree.StandsAt dir base) (hwritten : d.tree.get? (base ++ [scratchName n]) = some (.file bytes))
    (h : d.rename (dir ++ [scratchName n]) (dir ++ [n]) = .ok d') :
    d.faults.onMoving (dir ++ [n]) = none ∧ d'.tree.get? (base ++ [n]) = some (.file bytes) ∧
      d'.tree.get? (base ++ [scratchName n]) = none ∧
      (n ≠ "..".toList → d.tree.LinkFree (base ++ [n]) → Kept (Seats base n) N d d') := by
  obtain ⟨hfault, q, q', e, hplace, hplace', hget, hleaf, rfl⟩ := rename_eq_ok h
  cases (hd.place _).symm.trans hplace
  cases (hd.place _).symm.trans hplace'
  cases hwritten.symm.trans hget
  have hne : base ++ [scratchName n] ≠ base ++ [n] := fun heq => scratchName_ne n (by simpa using heq)
  have hlook := d.tree.get?_erase (l := base ++ [scratchName n]) (by simp)
  refine ⟨hfault, ?_, ?_, fun hn hfree => ?_⟩
  · rw [Tree.get?_put _ (by simp), if_pos rfl]
  · rw [Tree.get?_put _ (by simp), if_neg hne, hlook, if_pos rfl]
  · have hfile : d.tree.isDirectory (base ++ [scratchName n]) = false := by
      rw [Tree.isDirectory_eq_false_iff, hwritten]
      exact nofun
    have herase : Kept (Seats base n) N d { d with tree := d.tree.erase (base ++ [scratchName n]) } :=
      .of_erase hd.formed hfile (Tree.linkFree_of_get? hwritten rfl) (.inr rfl)
    have hd₁ := herase.standsAt hd
    have hsame : (d.tree.erase (base ++ [scratchName n])).get? (base ++ [n]) = d.tree.get? (base ++ [n]) :=
      (hlook _).trans (if_neg hne.symm)
    refine herase.trans (.of_put herase.formed (by simp) (hd₁.direct hn) (hd₁.parent n) ?_ ?_ rfl (.inl (.inl rfl)))
    · rw [Tree.isDirectory_eq_false_iff] at hleaf ⊢
      exact fun hdir => hleaf (hsame.symm.trans hdir)
    · exact fun target hlink => hfree target (hsame.symm.trans hlink)

/-- **A swap that fails leaves no scratch file and changes nothing else.** -/
theorem swapIn_failed (hd : d.tree.StandsAt dir base) (hfree : d.tree.LinkFree (base ++ [scratchName n]))
    (h : (d.swapIn (dir ++ [n]) bytes).2 ≠ none) :
    Kept (· = base ++ [scratchName n]) N d (d.swapIn (dir ++ [n]) bytes).1 ∧
      ((d.swapIn (dir ++ [n]) bytes).1.tree.get? (base ++ [scratchName n]) = d.tree.get? (base ++ [scratchName n]) ∨
        (d.swapIn (dir ++ [n]) bytes).1.tree.get? (base ++ [scratchName n]) = none) := by
  have hn := (scratchName_ne_up n).symm
  unfold swapIn at h ⊢
  rw [scratchFor_append] at h ⊢
  rcases write_seat (N := N) hd hn hfree bytes with ⟨e, hwrite⟩ | ⟨d₁, written, r, hwrite, hseen, -, hwritten, hkept⟩
  · rw [hwrite]
    obtain ⟨habandon, hgone | ⟨hsame, -⟩⟩ := abandon_seat (N := N) hd hn hfree e
    · exact ⟨habandon, .inr hgone⟩
    · exact ⟨habandon, .inl (by rw [hsame])⟩
  · -- whether the write broke off or the renaming failed, what was written is abandoned
    have habandon := abandon_written hd hn hseen hwritten hkept
    rw [hwrite] at h ⊢
    cases r with
    | some e => exact ⟨(habandon e).1, .inr (habandon e).2⟩
    | none =>
      simp only at h ⊢
      cases hmove : d₁.rename (dir ++ [scratchName n]) (dir ++ [n]) with
      | error e => exact ⟨(habandon e).1, .inr (habandon e).2⟩
      | ok d₂ =>
        rw [hmove] at h
        exact absurd rfl h

theorem abandon_formed (ht : d.tree.Formed) (l : Location) (e : FileError) : (d.abandon l e).1.tree.Formed := by
  unfold abandon
  split
  · exact ht
  · split
    · split
      · rename_i d₁ hunlink
        exact unlink_formed ht hunlink
      · exact ht
    · exact ht

/-- A swap leaves the tree formed even where links stand at the seats. -/
theorem swapIn_formed (ht : d.tree.Formed) (dir : Location) (n : Text) (bytes : List UInt8) :
    (d.swapIn (dir ++ [n]) bytes).1.tree.Formed := by
  unfold swapIn
  rw [scratchFor_append]
  cases hwrite : d.write (dir ++ [scratchName n]) bytes with
  | mk d₁ r =>
    have ht₁ : d₁.tree.Formed := by simpa [hwrite] using write_formed ht (dir ++ [scratchName n]) bytes
    cases r with
    | some e => exact abandon_formed ht₁ _ e
    | none =>
      simp only
      cases hmove : d₁.rename (dir ++ [scratchName n]) (dir ++ [n]) with
      | error e => exact abandon_formed ht₁ _ e
      | ok d₂ => exact rename_formed ht₁ (fun q => write_leaf ht (scratchName_ne_up n).symm hwrite) hmove

/-- What a swap leaves that succeeds. -/
structure Swapped (dir base : Location) (n : Text) (bytes : List UInt8) (d d' : Disk) : Prop where
  file : d'.tree.get? (base ++ [n]) = some (.file bytes)
  cleared : d'.tree.get? (base ++ [scratchName n]) = none
  writing : d.faults.onWriting (dir ++ [scratchName n]) = none
  moving : d.faults.onMoving (dir ++ [n]) = none
  kept : n ≠ "..".toList → d.tree.LinkFree (base ++ [n]) → Within (Seats base n) d d'

/-- **A swap that succeeds leaves the bytes in the file and no scratch file.** -/
theorem swapIn_done (hd : d.tree.StandsAt dir base) (hfree : d.tree.LinkFree (base ++ [scratchName n]))
    (h : (d.swapIn (dir ++ [n]) bytes).2 = none) : Swapped dir base n bytes d (d.swapIn (dir ++ [n]) bytes).1 := by
  have hn := (scratchName_ne_up n).symm
  unfold swapIn at h ⊢
  rw [scratchFor_append] at h ⊢
  rcases write_seat (N := fun _ => True) hd hn hfree bytes with
    ⟨e, hwrite⟩ | ⟨d₁, written, r, hwrite, -, hall, hwritten, hkept⟩
  · rw [hwrite] at h
    exact absurd h (abandon_ne_none _ _ _)
  · rw [hwrite] at h ⊢
    cases r with
    | some e => exact absurd h (abandon_ne_none _ _ _)
    | none =>
      obtain ⟨rfl, hwriting⟩ := hall rfl
      simp only at h ⊢
      cases hmove : d₁.rename (dir ++ [scratchName n]) (dir ++ [n]) with
      | error e =>
        rw [hmove] at h
        exact absurd h (abandon_ne_none _ _ _)
      | ok d₂ =>
        obtain ⟨hmoving, hfile, hgone, hmoved⟩ := rename_seat (N := fun _ => True) (hkept.standsAt hd) hwritten hmove
        refine ⟨hfile, hgone, hwriting, hkept.faults ▸ hmoving, fun hup hlink => ?_⟩
        have hne : base ++ [n] ≠ base ++ [scratchName n] := fun heq => scratchName_ne n (by simpa using heq.symm)
        have hlink₁ : d₁.tree.LinkFree (base ++ [n]) := by
          rcases hkept.others hne with heq | ⟨-, hdir⟩
          · unfold Tree.LinkFree
            rw [heq]
            exact hlink
          · exact Tree.linkFree_of_get? hdir rfl
        exact (hkept.within fun q hq => .inr hq).trans (hmoved hup hlink₁)

end Steps

/-! ## Replacing -/

section Replacing

variable {d d' : Disk} {l : Location} {bytes : List UInt8}

theorem replace_cases (d : Disk) (l : Location) (bytes : List UInt8) :
    (∃ d₁ e, d.makeDirs l.dropLast = (d₁, some e) ∧ d.replace l bytes = (d₁, some (.noDirectory e))) ∨
    (∃ d₁ e, d.makeDirs l.dropLast = (d₁, none) ∧ d₁.readOnly.contains l.dropLast = true ∧
      d.replace l bytes = (d₁, some e)) ∨
    ∃ d₁, d.makeDirs l.dropLast = (d₁, none) ∧ d₁.readOnly.contains l.dropLast = false ∧
      d.replace l bytes = d₁.swapIn l bytes := by
  unfold replace
  cases hmake : d.makeDirs l.dropLast with
  | mk d₁ r =>
    cases r with
    | some e => exact .inl ⟨d₁, e, rfl, rfl⟩
    | none =>
      simp only
      cases haccess : d₁.readOnly.contains l.dropLast with
      | true => exact .inr (.inl ⟨d₁, _, rfl, haccess, rfl⟩)
      | false => exact .inr (.inr ⟨d₁, rfl, haccess, rfl⟩)

/-- **A replacement leaves the tree formed**, whatever becomes of it and wherever links stand. -/
theorem replace_formed (ht : d.tree.Formed) {dir : Location} (hdir : dir.Direct) (n : Text) (bytes : List UInt8) :
    (d.replace (dir ++ [n]) bytes).1.tree.Formed := by
  have hmade := (makeDirs_kept (S := fun _ => False) ht hdir).formed
  have hcases := replace_cases d (dir ++ [n]) bytes
  rw [List.dropLast_concat] at hcases
  rcases hcases with ⟨d₁, e, hmake, hreplace⟩ | ⟨d₁, e, hmake, -, hreplace⟩ | ⟨d₁, hmake, -, hreplace⟩ <;>
    rw [hmake] at hmade <;> rw [hreplace]
  · exact hmade
  · exact hmade
  · exact swapIn_formed hmade dir n bytes

/-- The file and its scratch file. -/
def Touched (l q : Location) : Prop := q = l ∨ q = scratchFor l

theorem touched_of_seats {dir q : Location} {n : Text} (h : Seats dir n q) : Touched (dir ++ [n]) q := by
  rwa [Touched, scratchFor_append]

theorem Ready.standsAt {dir : Location} (h : d.Ready dir) (ht : d.tree.Plain) (hdir : dir.Direct) :
    d.tree.StandsAt dir dir :=
  ⟨ht.formed, ht.follow? hdir, h.get? ht hdir⟩

/-- **A replacement touches the file and its scratch file**, whatever becomes of it. -/
theorem replace_within (ht : d.tree.Plain) (hne : l ≠ []) (hl : l.Direct) :
    Within (Touched l) d (d.replace l bytes).1 := by
  obtain ⟨dir, n, rfl⟩ := exists_concat hne
  obtain ⟨hdir, hn⟩ := Location.direct_concat.1 hl
  have hmade : Within (Touched (dir ++ [n])) d (d.makeDirs dir).1 :=
    (makeDirs_kept (S := fun _ => False) ht.formed hdir).within fun _ => False.elim
  have hcases := replace_cases d (dir ++ [n]) bytes
  rw [List.dropLast_concat] at hcases
  rcases hcases with ⟨d₁, e, hmake, hreplace⟩ | ⟨d₁, e, hmake, -, hreplace⟩ | ⟨d₁, hmake, -, hreplace⟩
  · rw [hmake] at hmade
    rwa [hreplace]
  · rw [hmake] at hmade
    rwa [hreplace]
  · rw [hmake] at hmade
    rw [hreplace]
    have hplain := hmade.plain ht
    have hd := (makeDirs_ready ht.formed hdir hmake).standsAt hplain hdir
    refine hmade.trans ?_
    cases hout : (d₁.swapIn (dir ++ [n]) bytes).2 with
    | none =>
      have hswapped := (swapIn_done hd hplain.not_link hout).kept hn hplain.not_link
      exact hswapped.within fun q hq => touched_of_seats hq
    | some e =>
      have hfailed := swapIn_failed (N := fun _ => True) hd hplain.not_link (by rw [hout]; exact nofun)
      exact hfailed.1.within fun q hq => touched_of_seats (.inr hq)

/-- The file holds the bytes, and nothing that the disk has in store keeps them from being written. -/
structure Holds (d : Disk) (l : Location) (bytes : List UInt8) : Prop where
  file : d.tree.get? l = some (.file bytes)
  ready : d.Ready l.dropLast
  access : d.readOnly.contains l.dropLast = false
  writing : d.faults.onWriting (scratchFor l) = none
  moving : d.faults.onMoving l = none

/-- **A replacement that succeeds leaves the bytes in the file**, and no scratch file. -/
theorem replace_none (ht : d.tree.Plain) (hne : l ≠ []) (hl : l.Direct) (h : d.replace l bytes = (d', none)) :
    d'.Holds l bytes ∧ d'.tree.get? (scratchFor l) = none := by
  obtain ⟨dir, n, rfl⟩ := exists_concat hne
  obtain ⟨hdir, hn⟩ := Location.direct_concat.1 hl
  have hcases := replace_cases d (dir ++ [n]) bytes
  rw [List.dropLast_concat] at hcases
  rcases hcases with ⟨d₁, e, -, hreplace⟩ | ⟨d₁, e, -, -, hreplace⟩ | ⟨d₁, hmake, haccess, hreplace⟩
  · cases hreplace.symm.trans h
  · cases hreplace.symm.trans h
  · have hmade := makeDirs_kept (S := fun _ => False) ht.formed hdir
    rw [hmake] at hmade
    have hplain := hmade.plain ht
    have hready := makeDirs_ready ht.formed hdir hmake
    rw [hreplace] at h
    have hswapped := swapIn_done (hready.standsAt hplain hdir) hplain.not_link (by rw [h])
    rw [h] at hswapped
    have hkept := hswapped.kept hn hplain.not_link
    rw [scratchFor_append]
    refine ⟨⟨hswapped.file, ?_, ?_, ?_, ?_⟩, hswapped.cleared⟩
    · rw [List.dropLast_concat]
      exact hready.kept hplain.formed hkept
    · rw [List.dropLast_concat, hkept.readOnly]
      exact haccess
    · rw [scratchFor_append, hkept.faults]
      exact hswapped.writing
    · rw [hkept.faults]
      exact hswapped.moving

namespace Holds

theorem directory (h : d.Holds l bytes) (ht : d.tree.Plain) (hl : l.Direct) : d.tree.isDirectory l.dropLast = true :=
  Tree.isDirectory_iff.2 (h.ready.get? ht hl.dropLast)

theorem scratch_parent (h : d.Holds l bytes) (ht : d.tree.Plain) (hne : l ≠ []) (hl : l.Direct) :
    d.tree.isDirectory (scratchFor l).dropLast = true := by
  rw [dropLast_scratchFor hne]
  exact h.directory ht hl

/-- The scratch file comes and goes, and the file gets the bytes it has. -/
theorem swapIn (h : d.Holds l bytes) (ht : d.tree.Plain) (hne : l ≠ []) (hl : l.Direct)
    (hscratch : d.tree.get? (scratchFor l) = none) : d.swapIn l bytes = (d, none) := by
  have hdirect := direct_scratchFor hne hl
  have hsne := scratchFor_ne_nil hne
  have hleaf : d.tree.isDirectory (scratchFor l) = false := by
    rw [Tree.isDirectory_eq_false_iff, hscratch]
    exact nofun
  have hwrite : d.write (scratchFor l) bytes = ({ d with tree := d.tree.put (scratchFor l) (.file bytes) }, none) := by
    have hplace : writePlace d.tree (scratchFor l) = .ok (scratchFor l) := by
      rw [writePlace, ht.follow? hdirect]
      simp only [hscratch, h.scratch_parent ht hne hl, if_true]
    rw [write, hplace]
    simp only [h.writing]
  generalize ht₁ : d.tree.put (scratchFor l) (.file bytes) = t₁ at hwrite
  have hplain : t₁.Plain := ht₁ ▸ ht.put hsne hdirect rfl (h.scratch_parent ht hne hl) hleaf
  have hlook := d.tree.get?_put hsne (.file bytes)
  rw [ht₁] at hlook
  have hdir : t₁.isDirectory l.dropLast = true := by
    rw [Tree.isDirectory_iff, hlook, if_neg ?_, h.ready.get? ht hl.dropLast]
    intro heq
    rw [← heq, h.directory ht hl] at hleaf
    cases hleaf
  have hrename : ({ d with tree := t₁ } : Disk).rename (scratchFor l) l = .ok d := by
    have hplace : t₁.place (scratchFor l) = .ok (scratchFor l) :=
      (hplain.place_eq_ok_iff hdirect).2 ⟨rfl, by rw [dropLast_scratchFor hne]; exact hdir⟩
    have hplace' : t₁.place l = .ok l := (hplain.place_eq_ok_iff hl).2 ⟨rfl, hdir⟩
    have hget : t₁.get? (scratchFor l) = some (.file bytes) := (hlook _).trans (if_pos rfl)
    have hnodir : t₁.isDirectory l = false := by
      rw [Tree.isDirectory_eq_false_iff, hlook, if_neg (scratchFor_ne hne).symm, h.file]
      exact nofun
    have hsame : (t₁.erase (scratchFor l)).put l (.file bytes) = d.tree := by
      rw [← ht₁, Tree.erase_put hsne hscratch, ht.put_self hne h.file]
    rw [rename]
    simp only [h.moving, hplace, hplace', hget, hnodir, Bool.false_eq_true, if_false, hsame]
  rw [Disk.swapIn, hwrite]
  simp only [hrename]

/-- **Replacing a file by what it holds changes nothing.** -/
theorem replace (h : d.Holds l bytes) (ht : d.tree.Plain) (hne : l ≠ []) (hl : l.Direct)
    (hscratch : d.tree.get? (scratchFor l) = none) : d.replace l bytes = (d, none) := by
  rw [Disk.replace, h.ready.makeDirs ht hl.dropLast]
  simp only [h.access, Bool.false_eq_true, if_false]
  exact h.swapIn ht hne hl hscratch

/-- **A directory in the place of the scratch file blocks the replacement**, which changes nothing then. -/
theorem replace_blocked (h : d.Holds l bytes) (ht : d.tree.Plain) (hne : l ≠ []) (hl : l.Direct)
    (hscratch : d.tree.get? (scratchFor l) = some .directory) :
    d.replace l bytes = (d, some (.leftover ⟨.isDirectory, .ofLocation (scratchFor l), none⟩)) := by
  have hdirect := direct_scratchFor hne hl
  have hseen : d.denial? (scratchFor l) = none := denial?_eq_none_iff.2 (seen_of_onWriting (by simp [h.writing]))
  have hwrite : d.write (scratchFor l) bytes = (d, some ⟨.isDirectory, .ofLocation (scratchFor l), none⟩) := by
    have hplace : writePlace d.tree (scratchFor l) = .error .isDirectory := by
      rw [writePlace, ht.follow? hdirect]
      simp only [hscratch]
    rw [write, hplace]
  have hunlink : d.unlink (scratchFor l) = .error ⟨.isDirectory, .ofLocation (scratchFor l), none⟩ := by
    rw [unlink, (ht.place_eq_ok_iff hdirect).2 ⟨rfl, h.scratch_parent ht hne hl⟩]
    simp only [hscratch]
  have hpresent : d.tree.present (scratchFor l) = true := by
    rw [ht.present hdirect, hscratch]
    rfl
  rw [Disk.replace, h.ready.makeDirs ht hl.dropLast]
  simp only [h.access, Bool.false_eq_true, if_false]
  rw [Disk.swapIn, hwrite]
  simp only
  rw [abandon, hseen]
  simp only [hpresent, if_true, hunlink]

/-- What a file holds it goes on holding while only others are touched. -/
theorem within (h : d.Holds l bytes) {S : Location → Prop} (ht : d.tree.Formed) (hd : Within S d d') (hl : ¬ S l) :
    d'.Holds l bytes := by
  refine ⟨?_, h.ready.kept ht hd, ?_, ?_, ?_⟩
  · rcases hd.others hl with heq | ⟨hnone, -⟩
    · rw [heq, h.file]
    · rw [h.file] at hnone
      cases hnone
  · rw [hd.readOnly]
    exact h.access
  · rw [hd.faults]
    exact h.writing
  · rw [hd.faults]
    exact h.moving

end Holds

/-- The file holds the bytes, and no scratch file is left. -/
structure Delivered (d : Disk) (l : Location) (bytes : List UInt8) : Prop where
  holds : d.Holds l bytes
  cleared : d.tree.get? (scratchFor l) = none ∨ d.tree.get? (scratchFor l) = some .directory

theorem delivered_of_replace (ht : d.tree.Plain) (hne : l ≠ []) (hl : l.Direct) (h : (d.replace l bytes).2 = none) :
    (d.replace l bytes).1.Delivered l bytes := by
  obtain ⟨hholds, hnone⟩ := replace_none ht hne hl (Prod.ext rfl h)
  exact ⟨hholds, Or.inl hnone⟩

theorem Delivered.within (h : d.Delivered l bytes) {S : Location → Prop} (ht : d.tree.Formed) (hd : Within S d d')
    (hl : ¬ S l) (hscratch : ¬ S (scratchFor l)) : d'.Delivered l bytes := by
  refine ⟨h.holds.within ht hd hl, ?_⟩
  rcases hd.others hscratch with heq | ⟨-, hdir⟩
  · rw [heq]
    exact h.cleared
  · exact Or.inr hdir

theorem Delivered.file? (h : d.Delivered l bytes) : d.tree.file? l = some bytes := Tree.file?_eq_some_iff.2 h.holds.file

theorem Delivered.scratch_file? (h : d.Delivered l bytes) : d.tree.file? (scratchFor l) = none := by
  rcases h.cleared with hnone | hdir
  · rw [Tree.file?, hnone]
  · rw [Tree.file?, hdir]

end Replacing
end Disk
end Scriptwright
