import Scriptwright.Proofs.Links
/-!
# What an operation leaves as it was

Each operation on a disk changes what stands at a few places, and while it is at it directories may come to stand on the
way.  Links stay, directories do not go away, and nothing changes elsewhere.  One relation says this of two disks
(`Kept`); the places are its parameters, and it is carried from step to step (`Kept.trans`).

What an operation did that succeeded is said once for each of them (`makeDir_eq_ok`, `rename_eq_ok`, `unlink_eq_ok`,
`write_cases`), and from this it follows that the tree stays formed, wherever links stand.  A directory that has been made
is ready: it is there, and is not made again (`makeDirs_ready`, `Ready.makeDirs`).
-/
namespace Scriptwright

/-- `q` is a place on the way to `dir`, or that of `dir` itself. -/
def Tree.OnWay (t : Tree) (dir q : Location) : Prop := ∃ way, way <+: dir ∧ t.follow? [] way = some q

namespace Disk

/-- From `d` to `d'` links and directories are kept, and so is what stands anywhere but in `S`; within `N` directories may
come to stand where nothing stood. -/
structure Kept (S N : Location → Prop) (d d' : Disk) : Prop where
  faults : d'.faults = d.faults
  readOnly : d'.readOnly = d.readOnly
  formed : d'.tree.Formed
  direct : (∀ x ∈ d.tree.entries, Location.Direct x.1) → ∀ x ∈ d'.tree.entries, Location.Direct x.1
  links : d'.tree.links = d.tree.links
  directories : ∀ q, d.tree.get? q = some .directory → d'.tree.get? q = some .directory
  entries : ∀ q, d'.tree.get? q = d.tree.get? q ∨ S q ∨ (N q ∧ d.tree.get? q = none ∧ d'.tree.get? q = some .directory)

/-- Nothing but directories comes about outside of `S`, wherever they are. -/
abbrev Within (S : Location → Prop) (d d' : Disk) : Prop := Kept S (fun _ => True) d d'

namespace Kept

variable {S S' N N' : Location → Prop} {d d' d'' : Disk} {l q : Location}

theorem refl (h : d.tree.Formed) : Kept S N d d := ⟨rfl, rfl, h, id, rfl, fun _ hq => hq, fun _ => .inl rfl⟩

theorem trans (h : Kept S N d d') (h' : Kept S N d' d'') : Kept S N d d'' := by
  refine ⟨h'.faults.trans h.faults, h'.readOnly.trans h.readOnly, h'.formed, fun hd => h'.direct (h.direct hd),
    h'.links.trans h.links, fun q hq => h'.directories q (h.directories q hq), fun q => ?_⟩
  rcases h.entries q with heq | hS | ⟨hN, hnone, hdir⟩
  · rw [← heq]
    exact h'.entries q
  · exact .inr (.inl hS)
  · exact .inr (.inr ⟨hN, hnone, h'.directories q hdir⟩)

theorem mono (h : Kept S N d d') (hS : ∀ q, S q → S' q) (hN : ∀ q, N q → N' q) : Kept S' N' d d' := by
  refine ⟨h.faults, h.readOnly, h.formed, h.direct, h.links, h.directories, fun q => ?_⟩
  rcases h.entries q with heq | hq | ⟨hq, hnew⟩
  · exact .inl heq
  · exact .inr (.inl (hS q hq))
  · exact .inr (.inr ⟨hN q hq, hnew⟩)

theorem within (h : Kept S N d d') (hS : ∀ q, S q → S' q) : Within S' d d' := h.mono hS fun _ _ => trivial

theorem denial? (h : Kept S N d d') (l : Location) : d'.denial? l = d.denial? l := by
  rw [Disk.denial?, h.faults, Disk.denial?]

theorem follow? (h : Kept S N d d') (ht : d.tree.Formed) : d'.tree.follow? = d.tree.follow? :=
  Tree.follow?_congr ht h.formed h.links

/-- Where there were no links, none come about. -/
theorem plain (h : Kept S N d d') (ht : d.tree.Plain) : d'.tree.Plain := by
  refine ⟨h.formed.nodup, h.formed.listed, h.direct ht.direct, fun x hx => ?_, h.formed.rooted⟩
  cases hlink : Tree.isLink x.2 with
  | false => rfl
  | true =>
    have hmem : x ∈ d.tree.links := h.links ▸ List.mem_filter.2 ⟨hx, hlink⟩
    obtain ⟨hold, -⟩ := List.mem_filter.1 hmem
    exact hlink.symm.trans (ht.unlinked x hold)

theorem others (h : Kept S N d d') (hq : ¬ S q) :
    d'.tree.get? q = d.tree.get? q ∨ (d.tree.get? q = none ∧ d'.tree.get? q = some .directory) := by
  rcases h.entries q with heq | hS | ⟨-, hnew⟩
  · exact .inl heq
  · exact absurd hS hq
  · exact .inr hnew

/-- **Files elsewhere are what they were.** -/
theorem file? (h : Kept S N d d') (hq : ¬ S q) : d'.tree.file? q = d.tree.file? q := by
  unfold Tree.file?
  rcases h.others hq with heq | ⟨hnone, hdir⟩
  · rw [heq]
  · rw [hnone, hdir]

theorem of_put {e : Entry} (ht : d.tree.Formed) (hl : l ≠ []) (hdirect : l.Direct)
    (hparent : d.tree.isDirectory l.dropLast = true) (hleaf : d.tree.isDirectory l = false) (hfree : d.tree.LinkFree l)
    (he : Tree.isLink e = false) (h : S l ∨ (N l ∧ d.tree.get? l = none ∧ e = .directory)) :
    Kept S N d { d with tree := d.tree.put l e } := by
  have hlook := d.tree.get?_put hl e
  refine ⟨rfl, rfl, ht.put hl hparent hleaf, fun hd x hx => ?_, ht.links_put hfree he, fun q hq => ?_, fun q => ?_⟩
  · rcases Tree.mem_put hx with rfl | ⟨hx, -⟩
    · exact hdirect
    · exact hd x hx
  · have hne : q ≠ l := by
      rintro rfl
      exact Tree.isDirectory_eq_false_iff.1 hleaf hq
    rw [hlook, if_neg hne, hq]
  · by_cases hq : q = l
    · subst hq
      rcases h with hS | ⟨hN, hnone, rfl⟩
      · exact .inr (.inl hS)
      · exact .inr (.inr ⟨hN, hnone, by rw [hlook, if_pos rfl]⟩)
    · exact .inl (by rw [hlook, if_neg hq])

theorem of_erase (ht : d.tree.Formed) (hleaf : d.tree.isDirectory l = false) (hfree : d.tree.LinkFree l) (h : S l) :
    Kept S N d { d with tree := d.tree.erase l } := by
  have hl : l ≠ [] := by
    rintro rfl
    cases hleaf
  have hlook := d.tree.get?_erase hl
  refine ⟨rfl, rfl, ht.erase hleaf, fun hd x hx => hd x (Tree.mem_erase.1 hx).1, ht.links_erase hfree, fun q hq => ?_,
    fun q => ?_⟩
  · have hne : q ≠ l := by
      rintro rfl
      exact Tree.isDirectory_eq_false_iff.1 hleaf hq
    rw [hlook, if_neg hne, hq]
  · by_cases hq : q = l
    · exact .inr (.inl (hq ▸ h))
    · exact .inl (by rw [hlook, if_neg hq])

end Kept

/-! ## What an operation does that succeeds -/

section Inversion

variable {d d' : Disk} {l l' : Location} {f : Faults}

theorem denial?_eq_none_iff : d.denial? l = none ↔ d.faults.denial? l = none := Option.map_eq_none_iff

theorem makeDir_eq_ok (h : d.makeDir l = .ok d') : d.faults.onMaking l = none ∧
    ∃ q, d.tree.place l = .ok q ∧ d.tree.get? q = none ∧ d' = { d with tree := d.tree.put q .directory } := by
  unfold makeDir at h
  split at h
  · cases h
  · rename_i hfault
    split at h
    · cases h
    · rename_i q hplace
      split at h
      · cases h
      · rename_i hnone
        cases h
        exact ⟨hfault, q, hplace, by simpa using hnone, rfl⟩

theorem rename_eq_ok (h : d.rename l l' = .ok d') : d.faults.onMoving l' = none ∧
    ∃ q q' e, d.tree.place l = .ok q ∧ d.tree.place l' = .ok q' ∧ d.tree.get? q = some e ∧
      d.tree.isDirectory q' = false ∧ d' = { d with tree := (d.tree.erase q).put q' e } := by
  unfold rename at h
  simp only at h
  split at h
  · cases h
  · rename_i hfault
    split at h
    · cases h
    · cases h
    · rename_i q q' hplace hplace'
      split at h
      · cases h
      · rename_i e hget
        split at h
        · cases h
        · rename_i hleaf
          cases h
          exact ⟨hfault, q, q', e, hplace, hplace', hget, by simpa using hleaf, rfl⟩

theorem unlink_eq_ok (h : d.unlink l = .ok d') : ∃ q, d.tree.place l = .ok q ∧ d.tree.isDirectory q = false ∧
    d' = { d with tree := d.tree.erase q } := by
  unfold unlink at h
  split at h
  · cases h
  · rename_i q hplace
    split at h
    · cases h
    · cases h
    · rename_i e hne hget
      cases h
      refine ⟨q, hplace, Tree.isDirectory_eq_false_iff.2 ?_, rfl⟩
      rw [hget]
      exact fun heq => hne (Option.some.inj heq)

theorem writePlace_eq_ok {t : Tree} {q : Location} (h : writePlace t l = .ok q) :
    t.follow? [] l = some q ∧ t.isDirectory q = false ∧ (t.get? q = none → t.isDirectory q.dropLast = true) := by
  unfold writePlace at h
  split at h
  · cases h
  · rename_i p hfollow
    split at h
    · cases h
    · rename_i e hne hget
      cases h
      rw [Tree.isDirectory_eq_false_iff, hget]
      exact ⟨hfollow, fun heq => hne (Option.some.inj heq), nofun⟩
    · rename_i hget
      split at h
      · rename_i hparent
        cases h
        rw [Tree.isDirectory_eq_false_iff, hget]
        exact ⟨hfollow, nofun, fun _ => hparent⟩
      · cases h

/-- Nothing is written where a look is denied. -/
theorem seen_of_onWriting (h : ∀ c, f.onWriting l ≠ some ⟨none, c⟩) : f.denial? l = none := by
  cases hdenial : f.denial? l with
  | none => rfl
  | some c => exact absurd (by rw [Faults.onWriting, hdenial]; rfl) (h c)

/-- A write changes the file to the bytes or, where it breaks off, to some of them; or it changes nothing. -/
theorem write_cases (d : Disk) (l : Location) (bytes : List UInt8) :
    (∃ e, d.write l bytes = (d, some e)) ∨ ∃ q, writePlace d.tree l = .ok q ∧ d.denial? l = none ∧
      ((d.faults.onWriting l = none ∧ d.write l bytes = ({ d with tree := d.tree.put q (.file bytes) }, none)) ∨
        ∃ n e, d.write l bytes = ({ d with tree := d.tree.put q (.file (bytes.take n)) }, some e)) := by
  unfold write
  rw [denial?_eq_none_iff]
  split
  · exact .inl ⟨_, rfl⟩
  · rename_i q hplace
    split
    · rename_i hfault
      exact .inr ⟨q, hplace, seen_of_onWriting (by simp [hfault]), .inl ⟨hfault, rfl⟩⟩
    · exact .inl ⟨_, rfl⟩
    · rename_i n c hfault
      exact .inr ⟨q, hplace, seen_of_onWriting (by simp [hfault]), .inr ⟨n, _, rfl⟩⟩

end Inversion

/-! ## Trees stay formed -/

section Formed

variable {d d' : Disk} {l : Location}

theorem write_formed (ht : d.tree.Formed) (l : Location) (bytes : List UInt8) : (d.write l bytes).1.tree.Formed := by
  have hput : ∀ {q : Location}, writePlace d.tree l = .ok q → ∀ written, (d.tree.put q (.file written)).Formed := by
    intro q hq written
    obtain ⟨-, hleaf, hparent⟩ := writePlace_eq_ok hq
    have hne : q ≠ [] := by
      rintro rfl
      cases hleaf
    refine ht.put hne ?_ hleaf
    cases hget : d.tree.get? q with
    | none => exact hparent hget
    | some e => exact ht.rooted_of_get? hget
  rcases write_cases d l bytes with ⟨e, h⟩ | ⟨q, hq, -, ⟨-, h⟩ | ⟨n, e, h⟩⟩
  · rw [h]
    exact ht
  · rw [h]
    exact hput hq bytes
  · rw [h]
    exact hput hq _

/-- What has been written to is no directory, whether it was written to itself or by way of a link. -/
theorem write_leaf {dir q : Location} {n : Text} {bytes : List UInt8} (ht : d.tree.Formed) (hn : n ≠ "..".toList)
    (h : d.write (dir ++ [n]) bytes = (d', none)) (hq : d'.tree.place (dir ++ [n]) = .ok q) :
    d'.tree.isDirectory q = false := by
  rw [Tree.isDirectory_eq_false_iff]
  intro hdir
  have ht' : d'.tree.Formed := by simpa [h] using write_formed ht (dir ++ [n]) bytes
  rcases write_cases d (dir ++ [n]) bytes with ⟨e, h'⟩ | ⟨p, hp, -, ⟨-, h'⟩ | ⟨k, e, h'⟩⟩ <;> rw [h] at h'
  · cases h'
  · obtain ⟨rfl, -⟩ := Prod.mk.inj h'
    obtain ⟨hfollow, hleaf, -⟩ := writePlace_eq_ok hp
    have hsame := Tree.follow?_congr ht ht' (ht.links_put (Tree.linkFree_follow? hfollow) rfl)
    obtain ⟨base, hbase, -, rfl⟩ := Tree.place_concat_eq_ok_iff.1 hq
    -- a directory would stand for itself, and so be what was written to
    have hself := Tree.follow?_concat hbase hn (Tree.linkFree_of_get? hdir rfl)
    rw [hsame, hfollow, Option.some.injEq] at hself
    subst hself
    rw [Tree.get?_put _ (by simp), if_pos rfl] at hdir
    cases hdir
  · cases h'

theorem rename_formed {dir : Location} {n : Text} (ht : d.tree.Formed)
    (hleaf : ∀ q, d.tree.place l = .ok q → d.tree.isDirectory q = false) (h : d.rename l (dir ++ [n]) = .ok d') :
    d'.tree.Formed := by
  obtain ⟨-, q, q', e, hplace, hplace', hget, hleaf', rfl⟩ := rename_eq_ok h
  obtain ⟨base, hbase, hdir, rfl⟩ := Tree.place_concat_eq_ok_iff.1 hplace'
  have hq := hleaf q hplace
  have hne : q ≠ [] := by
    rintro rfl
    cases hq
  have hlook := d.tree.get?_erase hne
  refine (ht.erase hq).put (by simp) ?_ ?_
  · have hother : base ≠ q := by
      rintro rfl
      exact Tree.isDirectory_eq_false_iff.1 hq hdir
    rw [List.dropLast_concat, Tree.isDirectory_iff, hlook, if_neg hother, hdir]
  · rw [Tree.isDirectory_eq_false_iff] at hleaf' ⊢
    rw [hlook]
    split
    · exact nofun
    · exact hleaf'

theorem unlink_formed (ht : d.tree.Formed) (h : d.unlink l = .ok d') : d'.tree.Formed := by
  obtain ⟨q, -, hleaf, rfl⟩ := unlink_eq_ok h
  exact ht.erase hleaf

end Formed

/-! ## Making directories -/

section Directories

variable {S : Location → Prop} {d d' : Disk} {l : Location}

/-- The directory is there, and asking for it again is answered by that. -/
structure Ready (d : Disk) (l : Location) : Prop where
  directory : d.tree.leadsToDirectory l = true
  seen : d.denial? l = none
  answered : d.faults.onMaking l ≠ some .notFound

/-- A directory that is made is made where its path leads, and nothing stood there. -/
theorem makeDir_kept (ht : d.tree.Formed) (hl : l.Direct) (h : d.makeDir l = .ok d') :
    Kept S (d.tree.OnWay l) d d' ∧ d'.Ready l := by
  obtain ⟨hfault, q, hplace, hnone, rfl⟩ := makeDir_eq_ok h
  rcases List.eq_nil_or_concat' l with rfl | ⟨dir, n, rfl⟩
  · cases hplace
    cases hnone
  · obtain ⟨base, hbase, hdir, rfl⟩ := Tree.place_concat_eq_ok_iff.1 hplace
    obtain ⟨-, hn⟩ := Location.direct_concat.1 hl
    have hfree := Tree.linkFree_of_get? hnone rfl
    have hfollow := Tree.follow?_concat hbase hn hfree
    have hleaf : d.tree.isDirectory (base ++ [n]) = false := by
      rw [Tree.isDirectory_eq_false_iff, hnone]
      exact nofun
    have hkept : Kept S (d.tree.OnWay (dir ++ [n])) d { d with tree := d.tree.put (base ++ [n]) .directory } :=
      .of_put ht (by simp) (Tree.direct_follow? hfollow)
        (by rw [List.dropLast_concat]; exact Tree.isDirectory_iff.2 hdir) hleaf hfree rfl
        (.inr ⟨⟨_, List.prefix_refl _, hfollow⟩, hnone, rfl⟩)
    refine ⟨hkept, Tree.leadsToDirectory_iff.2 ⟨base ++ [n], ?_, ?_⟩, ?_, ?_⟩
    · rw [hkept.follow? ht]
      exact hfollow
    · rw [Tree.get?_put _ (by simp), if_pos rfl]
    · exact denial?_eq_none_iff.2 (Option.or_eq_none_iff.1 hfault).1
    · rw [hfault]
      exact nofun

theorem forgive_kept (ht : d.tree.Formed) (hl : l.Direct) : Kept S (d.tree.OnWay l) d (forgive l (d.makeDir l) d).1 := by
  cases hmake : d.makeDir l with
  | ok d₁ => exact (makeDir_kept ht hl hmake).1
  | error e => exact .refl ht

theorem ready_of_forgive (ht : d.tree.Formed) (hl : l.Direct) (h : forgive l (d.makeDir l) d = (d', none)) :
    d'.Ready l := by
  cases hmake : d.makeDir l with
  | ok d₁ =>
    rw [hmake] at h
    obtain rfl : d₁ = d' := (Prod.mk.inj h).1
    exact (makeDir_kept (S := fun _ => False) ht hl hmake).2
  | error e =>
    rw [hmake, forgive] at h
    obtain ⟨rfl, hnone⟩ := Prod.mk.inj h
    split at hnone
    · rename_i hcond
      obtain ⟨hcause, hseen, hdir⟩ := hcond
      refine ⟨hdir, hseen, fun hfault => hcause ?_⟩
      rw [makeDir, hfault] at hmake
      cases hmake
      rfl
    · cases hnone

/-- How a directory is made: at once, or after its missing parents. -/
theorem makeDirsUp_cons (d : Disk) (n : Text) (up : List Text) :
    d.makeDirsUp (n :: up) = forgive (n :: up).reverse (d.makeDir (n :: up).reverse) d ∨
      ((d.makeDirsUp up).2 ≠ none ∧ d.makeDirsUp (n :: up) = d.makeDirsUp up) ∨
      ((d.makeDirsUp up).2 = none ∧ d.makeDirsUp (n :: up) =
        forgive (n :: up).reverse ((d.makeDirsUp up).1.makeDir (n :: up).reverse) (d.makeDirsUp up).1) := by
  rw [makeDirsUp]
  split
  · right
    cases hup : d.makeDirsUp up with
    | mk d₁ r =>
      cases r with
      | none => exact Or.inr ⟨rfl, rfl⟩
      | some e => exact Or.inl ⟨by simp, rfl⟩
  · exact Or.inl rfl

theorem Direct.of_reverse_cons {n : Text} {up : List Text} (h : Location.Direct (n :: up).reverse) :
    Location.Direct up.reverse := by
  rw [List.reverse_cons] at h
  exact (Location.direct_concat.1 h).1

theorem makeDirsUp_kept (ht : d.tree.Formed) :
    ∀ up : List Text, Location.Direct up.reverse → Kept S (d.tree.OnWay up.reverse) d (d.makeDirsUp up).1
  | [], hl => forgive_kept ht hl
  | n :: up, hl => by
    have hup : ∀ q, d.tree.OnWay up.reverse q → d.tree.OnWay (n :: up).reverse q := by
      rintro q ⟨way, hway, hq⟩
      rw [List.reverse_cons]
      exact ⟨way, hway.trans (List.prefix_append _ _), hq⟩
    have ih := (makeDirsUp_kept ht up (Direct.of_reverse_cons hl)).mono (fun _ h => h) hup
    rcases makeDirsUp_cons d n up with h | ⟨-, h⟩ | ⟨-, h⟩
    · rw [h]
      exact forgive_kept ht hl
    · rw [h]
      exact ih
    · rw [h]
      refine ih.trans ((forgive_kept ih.formed hl).mono (fun _ h => h) fun q hq => ?_)
      rwa [Tree.OnWay, ih.follow? ht] at hq

theorem makeDirsUp_ready (ht : d.tree.Formed) (up : List Text) (hl : Location.Direct up.reverse)
    (h : d.makeDirsUp up = (d', none)) : d'.Ready up.reverse := by
  cases up with
  | nil => exact ready_of_forgive ht hl h
  | cons n up =>
    rcases makeDirsUp_cons d n up with hcase | ⟨hsome, hcase⟩ | ⟨-, hcase⟩
    · exact ready_of_forgive ht hl (hcase ▸ h)
    · rw [hcase] at h
      exact absurd (by rw [h]) hsome
    · have hkept := makeDirsUp_kept (S := fun _ => False) ht up (Direct.of_reverse_cons hl)
      exact ready_of_forgive hkept.formed hl (hcase ▸ h)

/-- **Making a directory puts directories where nothing stood on the way to it.** -/
theorem makeDirs_kept (ht : d.tree.Formed) (hl : l.Direct) : Kept S (d.tree.OnWay l) d (d.makeDirs l).1 := by
  have hkept := makeDirsUp_kept (S := S) ht l.reverse (by rwa [List.reverse_reverse])
  rwa [List.reverse_reverse] at hkept

theorem makeDirs_ready (ht : d.tree.Formed) (hl : l.Direct) (h : d.makeDirs l = (d', none)) : d'.Ready l := by
  have hready := makeDirsUp_ready ht l.reverse (by rwa [List.reverse_reverse]) h
  rwa [List.reverse_reverse] at hready

theorem Ready.kept {N : Location → Prop} (h : d.Ready l) (ht : d.tree.Formed) (hd : Kept S N d d') : d'.Ready l := by
  obtain ⟨q, hfollow, hget⟩ := Tree.leadsToDirectory_iff.1 h.directory
  refine ⟨Tree.leadsToDirectory_iff.2 ⟨q, by rw [hd.follow? ht]; exact hfollow, hd.directories q hget⟩, ?_, ?_⟩
  · rw [hd.denial?]
    exact h.seen
  · rw [hd.faults]
    exact h.answered

theorem Ready.get? (h : d.Ready l) (ht : d.tree.Plain) (hl : l.Direct) : d.tree.get? l = some .directory :=
  Tree.isDirectory_iff.1 ((ht.leadsToDirectory hl).symm.trans h.directory)

/-- **A directory that is ready is not made again.** -/
theorem Ready.makeDirs (h : d.Ready l) (ht : d.tree.Plain) (hl : l.Direct) : d.makeDirs l = (d, none) := by
  have hget := h.get? ht hl
  have hmake : ∃ e, d.makeDir l = .error e ∧ e.cause ≠ .notFound := by
    unfold Disk.makeDir
    cases hfault : d.faults.onMaking l with
    | some c => exact ⟨_, rfl, fun hc => h.answered (by rw [hfault, show c = .notFound from hc])⟩
    | none =>
      have hplace : d.tree.place l = .ok l := (ht.place_eq_ok_iff hl).2 ⟨rfl, ht.formed.rooted_of_get? hget⟩
      simp only [hplace, hget]
      exact ⟨_, rfl, fun hc => nomatch hc⟩
  obtain ⟨e, he, hcause⟩ := hmake
  have hforgive : forgive l (d.makeDir l) d = (d, none) := by
    rw [he, forgive, if_pos ⟨hcause, h.seen, h.directory⟩]
  unfold Disk.makeDirs
  cases hrev : l.reverse with
  | nil =>
    obtain rfl : l = [] := List.reverse_eq_nil_iff.1 hrev
    exact hforgive
  | cons n up =>
    have hcons : (n :: up).reverse = l := by rw [← hrev, List.reverse_reverse]
    rw [makeDirsUp]
    simp only [hcons]
    split
    · rename_i heq
      rw [he] at heq
      cases heq
      exact absurd rfl hcause
    · exact hforgive

end Directories
end Disk
end Scriptwright
