import Scriptwright.Proofs.Tree
/-!
# Links on the way

A walk reads nothing of a tree but its links, so trees with the same links lead every path to the same place
(`follow?_congr`), and a change where no link stood or comes to stand leads none astray (`links_put`, `links_erase`).

The seat of a location is where its last name stands or would stand, the links on the way to it followed.  A name that is
missing stands for itself, and so do all names below it (`Formed.follow?_below`): what is missing on the way to a
directory is never the seat of something in it (`Formed.ne_seat`).

What holds of the root and is kept by the steps of a walk holds where the walk ends (`Walked.walk`): a path leads upwards
nowhere in the end (`direct_follow?`), and to no link (`linkFree_follow?`).
-/
namespace Scriptwright
namespace Tree

variable {t t' : Tree} {l q : Location} {n : Text}

/-! ## Links -/

def links (t : Tree) : List (Location × Entry) := t.entries.filter fun e => isLink e.2

theorem linkFree_of_get? {o : Option Entry} (h : t.get? l = o) (ho : o.any isLink = false) : t.LinkFree l := by
  intro target hlink
  rw [← h, hlink] at ho
  cases ho

namespace Formed

theorem get?_link_iff (ht : t.Formed) {target : Text} :
    t.get? l = some (.link target) ↔ (l, Entry.link target) ∈ t.links := by
  constructor
  · intro h
    have hl : l ≠ [] := by
      rintro rfl
      cases h
    exact List.mem_filter.2 ⟨mem_of_get? hl h, rfl⟩
  · intro h
    exact ht.get?_of_mem (List.mem_filter.1 h).1

theorem not_isLink (ht : t.Formed) (h : t.LinkFree l) {x : Location × Entry} (hx : x ∈ t.entries) (hkey : x.1 = l) :
    isLink x.2 = false := by
  obtain ⟨l', e⟩ := x
  obtain rfl : l' = l := hkey
  have hget := ht.get?_of_mem hx
  cases e with
  | link target => exact absurd hget (h target)
  | directory => rfl
  | file bytes => rfl

theorem links_put (ht : t.Formed) (h : t.LinkFree l) {e : Entry} (he : isLink e = false) : (t.put l e).links = t.links := by
  unfold links Tree.put
  split
  · rw [List.filter_map]
    have hlinks : t.entries.filter ((fun x => isLink x.2) ∘ fun x => if x.1 == l then (l, e) else x) =
        t.entries.filter fun x => isLink x.2 := by
      refine List.filter_congr fun x hx => ?_
      by_cases hkey : x.1 = l
      · simp [hkey, he, ht.not_isLink h hx hkey]
      · simp [hkey]
    have hsame : ∀ x ∈ t.entries.filter fun x => isLink x.2, (if x.1 == l then (l, e) else x) = id x := by
      intro x hx
      obtain ⟨hmem, hlink⟩ := List.mem_filter.1 hx
      have hkey : x.1 ≠ l := fun hkey => by
        rw [ht.not_isLink h hmem hkey] at hlink
        cases hlink
      simp [hkey]
    rw [hlinks, List.map_congr_left hsame, List.map_id]
  · simp [he]

theorem links_erase (ht : t.Formed) (h : t.LinkFree l) : (t.erase l).links = t.links := by
  unfold links Tree.erase
  rw [List.filter_filter]
  refine List.filter_congr fun x hx => ?_
  by_cases hkey : x.1 = l
  · simp [ht.not_isLink h hx hkey]
  · simp [hkey]

end Formed

/-! ## Walks -/

theorem stepFrom_congr (h : ∀ q target, t'.get? q = some (.link target) ↔ t.get? q = some (.link target))
    (opened : List Location) (onLink : Location → Path → Walk) (l : Location) (n : Text) :
    t'.stepFrom opened onLink l n = t.stepFrom opened onLink l n := by
  by_cases hn : n = "..".toList
  · rw [stepFrom, stepFrom, if_pos hn, if_pos hn]
  · by_cases hfree : t.LinkFree (l ++ [n])
    · have hfree' : t'.LinkFree (l ++ [n]) := fun target hlink => hfree target ((h _ _).1 hlink)
      rw [stepFrom_of_linkFree hn hfree, stepFrom_of_linkFree hn hfree']
    · obtain ⟨target, hlink⟩ : ∃ target, t.get? (l ++ [n]) = some (.link target) := by
        simpa [LinkFree] using hfree
      rw [stepFrom, stepFrom, (h _ _).2 hlink, hlink]

theorem walk_congr (h : ∀ q target, t'.get? q = some (.link target) ↔ t.get? q = some (.link target)) (depth : Nat) :
    t'.walk depth = t.walk depth := by
  induction depth with
  | zero =>
    funext opened start names
    rw [walk, walk]
  | succ depth ih =>
    funext opened start names
    rw [walk, walk, ih]
    simp only [stepFrom_congr h]

/-- **Trees with the same links lead every path to the same place.** -/
theorem follow?_congr (ht : t.Formed) (ht' : t'.Formed) (h : t'.links = t.links) : t'.follow? = t.follow? := by
  have hlinks : ∀ q target, t'.get? q = some (.link target) ↔ t.get? q = some (.link target) := fun q target => by
    rw [ht'.get?_link_iff, ht.get?_link_iff, h]
  have hcount : t'.linkCount = t.linkCount := congrArg List.length h
  funext start names
  rw [follow?, follow?, hcount, walk_congr hlinks]

theorem follow?_eq_some_iff {start : Location} {names : List Text} :
    t.follow? start names = some q ↔ t.walk (t.linkCount + 1) [] start names = .reached q := by
  unfold follow?
  cases t.walk (t.linkCount + 1) [] start names <;> simp

theorem follow?_concat (h : t.follow? [] l = some q) (hn : n ≠ "..".toList) (hfree : t.LinkFree (q ++ [n])) :
    t.follow? [] (l ++ [n]) = some (q ++ [n]) := by
  rw [follow?_eq_some_iff, walk] at h ⊢
  rw [List.foldl_append, h, List.foldl_cons, List.foldl_nil]
  exact stepFrom_of_linkFree hn hfree

theorem Formed.get?_below (ht : t.Formed) (h : t.get? q = none) (n : Text) : t.get? (q ++ [n]) = none := by
  cases hget : t.get? (q ++ [n]) with
  | none => rfl
  | some e =>
    have hdir := isDirectory_iff.1 (ht.rooted_of_get? hget)
    rw [List.dropLast_concat, h] at hdir
    cases hdir

/-- **What is missing stands for itself**, and so does all below it. -/
theorem Formed.follow?_below (ht : t.Formed) (h : t.follow? [] l = some q) (hq : t.get? q = none) {names : List Text}
    (hnames : Location.Direct names) : t.follow? [] (l ++ names) = some (q ++ names) := by
  induction names generalizing l q with
  | nil => rwa [List.append_nil, List.append_nil]
  | cons n names ih =>
    obtain ⟨hn, hrest⟩ := List.ne_and_not_mem_of_not_mem_cons hnames
    have hnone := ht.get?_below hq n
    rw [List.append_cons, List.append_cons q]
    exact ih (follow?_concat h (Ne.symm hn) (linkFree_of_get? hnone rfl)) hnone hrest

/-! ## Seats -/

/-- Where the last name of a location stands or would stand, whether or not its directory is there. -/
def seat? (t : Tree) (l : Location) : Option Location :=
  match l.getLast? with
  | none => some []
  | some n => (t.follow? [] l.dropLast).map (· ++ [n])

theorem seat?_concat (t : Tree) (dir : Location) (n : Text) :
    t.seat? (dir ++ [n]) = (t.follow? [] dir).map (· ++ [n]) := by
  rw [seat?, List.getLast?_concat, List.dropLast_concat]

/-- **What is missing on the way to a directory is not the seat of anything in it.** -/
theorem Formed.ne_seat (ht : t.Formed) {way dir base : Location} (hway : way <+: dir) (hdir : dir.Direct)
    (hq : t.follow? [] way = some q) (hnone : t.get? q = none) (hbase : t.follow? [] dir = some base) :
    q ≠ base ++ [n] := by
  obtain ⟨rest, rfl⟩ := hway
  have hrest : Location.Direct rest := fun hmem => hdir (List.mem_append_right _ hmem)
  rw [ht.follow?_below hq hnone hrest, Option.some.injEq] at hbase
  intro heq
  have hlength := congrArg List.length heq
  rw [← hbase] at hlength
  simp at hlength

/-! ## Resolution -/

/-- `P` holds of the root, and of where a step leads from a location of which it holds: one up, or one to a name at which no
link stands. -/
structure Walked (t : Tree) (P : Location → Prop) : Prop where
  root : P []
  up : ∀ l, P l → P l.dropLast
  down : ∀ l n, P l → n ≠ "..".toList → t.LinkFree (l ++ [n]) → P (l ++ [n])

namespace Walked

variable {P : Location → Prop}

theorem start (hP : t.Walked P) (hl : P l) (p : Path) : P (if p.isAbsolute then [] else l) := by
  split
  · exact hP.root
  · exact hl

theorem stepFrom (hP : t.Walked P) {opened : List Location} {onLink : Location → Path → Walk} (hl : P l)
    (hlink : ∀ link target p, onLink link target = .reached p → P p) (h : t.stepFrom opened onLink l n = .reached q) :
    P q := by
  unfold Tree.stepFrom at h
  split at h
  · cases h
    exact hP.up l hl
  · rename_i hn
    split at h
    · split at h
      · cases h
      · exact hlink _ _ _ h
    · rename_i hfree
      cases h
      exact hP.down l n hl hn hfree

/-- **A walk ends where `P` holds**, however many links it goes through. -/
theorem walk (hP : t.Walked P) (depth : Nat) (opened : List Location) (start : Location) (names : List Text)
    (hstart : P start) : ∀ q, t.walk depth opened start names = .reached q → P q := by
  induction depth generalizing opened start names with
  | zero =>
    intro q h
    cases h
  | succ depth ih =>
    rw [Tree.walk]
    refine List.foldlRecOn (motive := fun w : Walk => ∀ q : Location, w = .reached q → P q) names _ ?_ ?_
    · intro q h
      cases h
      exact hstart
    · intro w hw n _ q h
      cases w with
      | looping l => cases h
      | reached l =>
        have hl := hw l rfl
        refine hP.stepFrom hl (fun link target p hp => ?_) h
        exact ih _ _ _ (hP.start hl _) p hp

theorem follow? (hP : t.Walked P) (h : t.follow? [] l = some q) : P q :=
  hP.walk _ _ _ _ hP.root q (follow?_eq_some_iff.1 h)

end Walked

theorem walked_direct (t : Tree) : t.Walked Location.Direct :=
  ⟨List.not_mem_nil, fun _ hl => hl.dropLast, fun _ _ hl hn _ => Location.direct_concat.2 ⟨hl, hn⟩⟩

theorem direct_follow? (h : t.follow? [] l = some q) : q.Direct := t.walked_direct.follow? h

/-- A walk does not stand below a link either, so that it is clear of links when it goes up. -/
theorem walked_linkFree (t : Tree) : t.Walked fun l => ∀ q, q <+: l → t.LinkFree q := by
  refine ⟨fun q hq => ?_, fun l hl q hq => hl q (hq.trans l.dropLast_prefix), fun l n hl _ hfree q hq => ?_⟩
  · obtain rfl := List.prefix_nil.1 hq
    exact linkFree_of_get? t.get?_nil rfl
  · rcases List.prefix_concat_iff.1 hq with rfl | hq
    · exact hfree
    · exact hl q hq

/-- **Where a path leads there is no link.** -/
theorem linkFree_follow? (h : t.follow? [] l = some q) : t.LinkFree q := t.walked_linkFree.follow? h q (List.prefix_refl q)

theorem direct_lexical (names : List Text) : (lexical names).Direct := by
  refine List.foldlRecOn (motive := Location.Direct) names _ List.not_mem_nil ?_
  intro l hl n _
  by_cases hn : n = "..".toList
  · rw [if_pos hn]
    exact hl.dropLast
  · rw [if_neg hn]
    exact hl.append (by simpa [Location.Direct] using Ne.symm hn)

/-- **A resolved location leads upwards nowhere.** -/
theorem direct_resolve {start : Location} {p : Path} (hstart : start.Direct) (h : t.resolve start p = .ok l) : l.Direct := by
  unfold resolve at h
  split at h
  · rename_i q hwalk
    cases h
    exact t.walked_direct.walk _ _ _ _ (t.walked_direct.start hstart _) _ hwalk
  · simp only at h
    split at h
    · cases h
      exact direct_lexical _
    · cases h

end Tree
end Scriptwright
