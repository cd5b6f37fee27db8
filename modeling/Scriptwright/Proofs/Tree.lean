import Mathlib.Data.List.Basic
import Scriptwright.Files.Disk
/-!
# Trees

What a tree holds is told by looking locations up: putting and erasing an entry change the look-up of that location and of
no other (`get?_put`, `get?_erase`), and both keep the tree in form where what goes away has nothing below it
(`Formed.put`, `Formed.erase`).

In a tree without links a location is its own resolution (`Plain.follow?`), so every operation works at the location it is
given.
-/
namespace Scriptwright

/-- No name of the location leads upwards.  This is so for every location that was resolved. -/
def Location.Direct (l : Location) : Prop := "..".toList ∉ l

instance (l : Location) : Decidable l.Direct := inferInstanceAs (Decidable (_ ∉ l))

theorem Location.Direct.dropLast {l : Location} (h : l.Direct) : Location.Direct l.dropLast :=
  fun hmem => h (List.dropLast_subset l hmem)

theorem Location.Direct.append {l l' : Location} (h : l.Direct) (h' : l'.Direct) : Location.Direct (l ++ l') :=
  fun hmem => (List.mem_append.1 hmem).elim h h'

theorem Location.direct_concat {l : Location} {n : Text} :
    Location.Direct (l ++ [n]) ↔ Location.Direct l ∧ n ≠ "..".toList := by
  rw [Direct, List.mem_append, List.mem_singleton, not_or, eq_comm]
  rfl

theorem Location.dropLast_ne {l : Location} (h : l ≠ []) : l.dropLast ≠ l := by
  intro heq
  have hlen := congrArg List.length heq
  rw [List.length_dropLast] at hlen
  have := List.length_pos_iff.2 h
  omega

namespace Tree

/-! ## Looking up -/

theorem get?_nil (t : Tree) : t.get? [] = some .directory := rfl

theorem get?_of_ne_nil (t : Tree) {l : Location} (h : l ≠ []) :
    t.get? l = (t.entries.find? fun e => e.1 == l).map (·.2) := if_neg h

theorem isDirectory_iff {t : Tree} {l : Location} : t.isDirectory l = true ↔ t.get? l = some .directory := by
  rw [isDirectory, beq_iff_eq]

theorem isDirectory_eq_false_iff {t : Tree} {l : Location} : t.isDirectory l = false ↔ t.get? l ≠ some .directory := by
  rw [← Bool.not_eq_true, isDirectory_iff]

/-- The bytes of the file at a location, if a file stands there. -/
def file? (t : Tree) (l : Location) : Option (List UInt8) :=
  match t.get? l with
  | some (.file bytes) => some bytes
  | _ => none

theorem file?_eq_some_iff {t : Tree} {l : Location} {bytes : List UInt8} :
    t.file? l = some bytes ↔ t.get? l = some (.file bytes) := by
  unfold file?
  split <;> simp_all

theorem isFile_iff {t : Tree} {l : Location} : t.isFile l = true ↔ (t.file? l).isSome := by
  unfold isFile file?
  split <;> simp_all

theorem mem_of_get? {t : Tree} {l : Location} {e : Entry} (hl : l ≠ []) (h : t.get? l = some e) : (l, e) ∈ t.entries := by
  rw [get?_of_ne_nil t hl] at h
  obtain ⟨⟨l', e'⟩, hfind, rfl⟩ := Option.map_eq_some_iff.1 h
  have hkey := List.find?_some hfind
  rw [beq_iff_eq] at hkey
  exact hkey ▸ List.mem_of_find?_eq_some hfind

/-! ## Putting and erasing -/

theorem any_key_iff {t : Tree} {l : Location} : (t.entries.any fun x => x.1 == l) = true ↔ ∃ x ∈ t.entries, x.1 = l := by
  simp

theorem mem_put {t : Tree} {l : Location} {e : Entry} {x : Location × Entry} :
    x ∈ (t.put l e).entries → x = (l, e) ∨ (x ∈ t.entries ∧ x.1 ≠ l) := by
  intro hx
  unfold put at hx
  split at hx
  · obtain ⟨y, hy, rfl⟩ := List.mem_map.1 hx
    by_cases hkey : y.1 = l
    · exact Or.inl (by simp [hkey])
    · exact Or.inr (by simpa [hkey] using hy)
  · rename_i hany
    rcases List.mem_append.1 hx with hx | hx
    · exact Or.inr ⟨hx, fun hkey => hany (any_key_iff.2 ⟨x, hx, hkey⟩)⟩
    · exact Or.inl (List.mem_singleton.1 hx)

/-- An entry that takes the place of another keeps its key. -/
theorem find?_replaced (es : List (Location × Entry)) (l q : Location) (e : Entry) :
    (es.map fun x => if x.1 == l then (l, e) else x).find? (fun x => x.1 == q) =
      (es.find? fun x => x.1 == q).map fun x => if x.1 == l then (l, e) else x := by
  rw [List.find?_map]
  have hkey : ((fun x : Location × Entry => x.1 == q) ∘ fun x => if x.1 == l then (l, e) else x) = fun x => x.1 == q := by
    funext x
    by_cases hx : x.1 = l <;> simp [hx]
  rw [hkey]

theorem get?_put (t : Tree) {l : Location} (hl : l ≠ []) (e : Entry) (q : Location) :
    (t.put l e).get? q = if q = l then some e else t.get? q := by
  by_cases hq : q = []
  · subst hq
    rw [if_neg hl.symm, get?_nil, get?_nil]
  rw [get?_of_ne_nil _ hq, get?_of_ne_nil _ hq, put]
  split
  · rename_i hany
    rw [find?_replaced, Option.map_map]
    cases hfind : t.entries.find? fun x => x.1 == q with
    | none =>
      obtain ⟨x, hx, hkey⟩ := any_key_iff.1 hany
      have hne : q ≠ l := fun h => by simpa [hkey, h] using List.find?_eq_none.1 hfind x hx
      rw [if_neg hne]
      rfl
    | some x =>
      have hkey : x.1 = q := by simpa using List.find?_some hfind
      by_cases h : q = l <;> simp [hkey, h]
  · rename_i hany
    rw [List.find?_append]
    cases hfind : t.entries.find? fun x => x.1 == q with
    | none => by_cases h : q = l <;> simp [h, Ne.symm]
    | some x =>
      have hkey : x.1 = q := by simpa using List.find?_some hfind
      have hne : q ≠ l := fun h => hany (any_key_iff.2 ⟨x, List.mem_of_find?_eq_some hfind, hkey.trans h⟩)
      rw [if_neg hne]
      rfl

theorem get?_erase (t : Tree) {l : Location} (hl : l ≠ []) (q : Location) :
    (t.erase l).get? q = if q = l then none else t.get? q := by
  by_cases hq : q = []
  · subst hq
    rw [if_neg hl.symm, get?_nil, get?_nil]
  rw [get?_of_ne_nil _ hq, get?_of_ne_nil _ hq, erase, List.find?_filter]
  by_cases h : q = l
  · subst h
    rw [if_pos rfl, Option.map_eq_none_iff, List.find?_eq_none]
    simp
  · rw [if_neg h]
    congr 2
    funext x
    by_cases hx : x.1 = q
    · simp [hx, h]
    · simp [hx]

theorem mem_erase {t : Tree} {l : Location} {x : Location × Entry} :
    x ∈ (t.erase l).entries ↔ x ∈ t.entries ∧ x.1 ≠ l := by
  simp [erase]

/-- What was put where nothing stood can be taken away again. -/
theorem erase_put {t : Tree} {l : Location} (hl : l ≠ []) (h : t.get? l = none) (e : Entry) : (t.put l e).erase l = t := by
  have hkeys : ∀ x ∈ t.entries, x.1 ≠ l := by
    rw [get?_of_ne_nil t hl, Option.map_eq_none_iff, List.find?_eq_none] at h
    exact fun x hx => by simpa using h x hx
  have hany : ¬ (t.entries.any fun x => x.1 == l) = true := fun hany =>
    let ⟨x, hx, hkey⟩ := any_key_iff.1 hany
    hkeys x hx hkey
  rw [put, if_neg hany, erase]
  have hfilter : t.entries.filter (fun x => x.1 != l) = t.entries :=
    List.filter_eq_self.2 fun x hx => bne_iff_ne.2 (hkeys x hx)
  simp [hfilter]

/-! ## Places -/

theorem find_eq_ok_iff {t : Tree} {l q : Location} : t.find l = .ok q ↔ t.follow? [] l = some q ∧ (t.get? q).isSome = true := by
  unfold find
  cases t.follow? [] l with
  | none => simp
  | some p =>
    by_cases hp : (t.get? p).isSome = true
    · simp only [hp, if_true, Except.ok.injEq, Option.some.injEq]
      exact ⟨fun h => ⟨h, h ▸ hp⟩, And.left⟩
    · simp only [hp, Option.some.injEq]
      refine iff_of_false nofun ?_
      rintro ⟨rfl, h⟩
      exact hp h

theorem present_of_follow? {t : Tree} {l q : Location} (h : t.follow? [] l = some q) : t.present l = (t.get? q).isSome := by
  simp only [present, find, h]
  cases t.get? q <;> rfl

theorem leadsToDirectory_iff {t : Tree} {l : Location} :
    t.leadsToDirectory l = true ↔ ∃ q, t.follow? [] l = some q ∧ t.get? q = some .directory := by
  unfold leadsToDirectory
  cases hfind : t.find l with
  | ok q =>
    obtain ⟨hfollow, -⟩ := find_eq_ok_iff.1 hfind
    simp [Except.toOption, isDirectory_iff, hfollow]
  | error c =>
    refine iff_of_false Bool.false_ne_true ?_
    rintro ⟨q, hfollow, hget⟩
    rw [find_eq_ok_iff.2 ⟨hfollow, by rw [hget]; rfl⟩] at hfind
    cases hfind

theorem place_concat_eq_ok_iff {t : Tree} {dir q : Location} {n : Text} : t.place (dir ++ [n]) = .ok q ↔
    ∃ base, t.follow? [] dir = some base ∧ t.get? base = some .directory ∧ q = base ++ [n] := by
  rw [place, List.getLast?_concat, List.dropLast_concat]
  simp only
  cases hfind : t.find dir with
  | ok base =>
    obtain ⟨hfollow, -⟩ := find_eq_ok_iff.1 hfind
    simp only [hfollow, Option.some.injEq]
    by_cases hdir : t.isDirectory base = true
    · simp [hdir, isDirectory_iff.1 hdir, eq_comm]
    · simp [hdir, ← isDirectory_iff]
  | error c =>
    refine iff_of_false nofun ?_
    rintro ⟨base, hfollow, hget, -⟩
    rw [find_eq_ok_iff.2 ⟨hfollow, by rw [hget]; rfl⟩] at hfind
    cases hfind

/-- No link stands there. -/
def LinkFree (t : Tree) (l : Location) : Prop := ∀ target, t.get? l ≠ some (.link target)

theorem stepFrom_of_linkFree {t : Tree} {opened : List Location} {onLink : Location → Path → Walk} {l : Location} {n : Text}
    (hn : n ≠ "..".toList) (h : t.LinkFree (l ++ [n])) : t.stepFrom opened onLink l n = .reached (l ++ [n]) := by
  rw [stepFrom, if_neg hn]
  split
  · rename_i hlink
    exact absurd hlink (h _)
  · rfl

/-! ## Formed trees -/

/-- Every location is listed once and leads from directory to directory. -/
structure Formed (t : Tree) : Prop where
  nodup : (t.entries.map (·.1)).Nodup
  listed : ∀ x ∈ t.entries, x.1 ≠ []
  rooted : ∀ x ∈ t.entries, t.isDirectory x.1.dropLast = true

namespace Formed

variable {t : Tree} {l : Location}

theorem get?_of_mem (ht : t.Formed) {e : Entry} (h : (l, e) ∈ t.entries) : t.get? l = some e := by
  have hl : l ≠ [] := ht.listed _ h
  have hnodup := ht.nodup
  rw [get?_of_ne_nil t hl]
  obtain ⟨es, es', hes⟩ := List.append_of_mem h
  rw [hes, List.map_append, List.map_cons, List.nodup_append, List.nodup_cons] at hnodup
  have hbefore : es.find? (fun x => x.1 == l) = none := by
    rw [List.find?_eq_none]
    intro x hx hkey
    rw [beq_iff_eq] at hkey
    exact hnodup.2.2 x.1 (List.mem_map_of_mem hx) l List.mem_cons_self hkey
  rw [hes, List.find?_append, hbefore]
  simp

/-- Above what stands somewhere there is a directory. -/
theorem rooted_of_get? (ht : t.Formed) {e : Entry} (h : t.get? l = some e) : t.isDirectory l.dropLast = true := by
  by_cases hl : l = []
  · subst hl
    rfl
  · exact ht.rooted _ (mem_of_get? hl h)

theorem put (ht : t.Formed) {e : Entry} (hl : l ≠ []) (hparent : t.isDirectory l.dropLast = true)
    (hleaf : t.isDirectory l = false) : (t.put l e).Formed := by
  have hlook := t.get?_put hl e
  refine ⟨?_, ?_, ?_⟩
  · have hnodup := ht.nodup
    unfold Tree.put
    split
    · rw [List.map_map]
      have hkeys : ((·.1) ∘ fun x : Location × Entry => if x.1 == l then (l, e) else x) = (·.1) := by
        funext x
        by_cases hx : x.1 = l <;> simp [hx]
      rwa [hkeys]
    · rename_i hany
      rw [List.map_append, List.nodup_append]
      refine ⟨hnodup, by simp, fun a ha b hb hab => hany (any_key_iff.2 ?_)⟩
      obtain ⟨x, hx, rfl⟩ := List.mem_map.1 ha
      exact ⟨x, hx, by simpa [hab] using hb⟩
  · intro x hx
    rcases mem_put hx with rfl | ⟨hx, -⟩
    · exact hl
    · exact ht.listed x hx
  · intro x hx
    rw [isDirectory_iff, hlook]
    rcases mem_put hx with rfl | ⟨hx, -⟩
    · rw [if_neg (Location.dropLast_ne hl), isDirectory_iff.1 hparent]
    · have hdir := ht.rooted x hx
      have hne : x.1.dropLast ≠ l := fun heq => by rw [heq, hleaf] at hdir; cases hdir
      rw [if_neg hne, isDirectory_iff.1 hdir]

theorem erase (ht : t.Formed) (hleaf : t.isDirectory l = false) : (t.erase l).Formed := by
  have hl : l ≠ [] := by
    rintro rfl
    cases hleaf
  refine ⟨?_, ?_, ?_⟩
  · exact ht.nodup.sublist (List.Sublist.map _ List.filter_sublist)
  · exact fun x hx => ht.listed x (mem_erase.1 hx).1
  · intro x hx
    have hdir := ht.rooted x (mem_erase.1 hx).1
    have hne : x.1.dropLast ≠ l := fun heq => by rw [heq, hleaf] at hdir; cases hdir
    rw [isDirectory_iff, get?_erase t hl, if_neg hne, isDirectory_iff.1 hdir]

end Formed

/-! ## Plain trees -/

/-- A tree without links: every location is listed once, leads from directory to directory, and is its own resolution. -/
structure Plain (t : Tree) : Prop where
  nodup : (t.entries.map (·.1)).Nodup
  listed : ∀ x ∈ t.entries, x.1 ≠ []
  direct : ∀ x ∈ t.entries, Location.Direct x.1
  unlinked : ∀ x ∈ t.entries, isLink x.2 = false
  rooted : ∀ x ∈ t.entries, t.isDirectory x.1.dropLast = true

namespace Plain

variable {t : Tree} {l : Location}

theorem formed (ht : t.Plain) : t.Formed := ⟨ht.nodup, ht.listed, ht.rooted⟩

theorem not_link (ht : t.Plain) (target : Text) : t.get? l ≠ some (.link target) := by
  intro h
  by_cases hl : l = []
  · subst hl
    cases h
  · cases ht.unlinked _ (mem_of_get? hl h)

theorem put (ht : t.Plain) {e : Entry} (hl : l ≠ []) (hdirect : l.Direct) (hlink : isLink e = false)
    (hparent : t.isDirectory l.dropLast = true) (hleaf : t.isDirectory l = false) : (t.put l e).Plain := by
  have hformed := ht.formed.put (e := e) hl hparent hleaf
  refine ⟨hformed.nodup, hformed.listed, fun x hx => ?_, fun x hx => ?_, hformed.rooted⟩
  · rcases mem_put hx with rfl | ⟨hx, -⟩
    · exact hdirect
    · exact ht.direct x hx
  · rcases mem_put hx with rfl | ⟨hx, -⟩
    · exact hlink
    · exact ht.unlinked x hx

/-- What is put in the place of the same thing changes nothing. -/
theorem put_self (ht : t.Plain) {e : Entry} (hl : l ≠ []) (h : t.get? l = some e) : t.put l e = t := by
  have hmem := mem_of_get? hl h
  have hany : (t.entries.any fun x => x.1 == l) = true := any_key_iff.2 ⟨_, hmem, rfl⟩
  have hsame : ∀ x ∈ t.entries, (if x.1 == l then (l, e) else x) = id x := by
    intro x hx
    by_cases hkey : x.1 = l
    · have hx' : t.get? x.1 = some x.2 := ht.formed.get?_of_mem hx
      rw [hkey, h, Option.some.injEq] at hx'
      rw [if_pos (beq_iff_eq.2 hkey), ← hkey, hx']
      rfl
    · rw [if_neg (by simpa using hkey)]
      rfl
  rw [Tree.put, if_pos hany, List.map_congr_left hsame, List.map_id]

/-! ## Following -/

theorem stepFrom (ht : t.Plain) (opened : List Location) (onLink : Location → Path → Walk) {n : Text}
    (hn : n ≠ "..".toList) : t.stepFrom opened onLink l n = .reached (l ++ [n]) :=
  stepFrom_of_linkFree hn ht.not_link

theorem walk (ht : t.Plain) (depth : Nat) (opened : List Location) :
    ∀ (names : List Text) (start : Location), Location.Direct names →
      t.walk (depth + 1) opened start names = .reached (start ++ names)
  | [], start, _ => by rw [Tree.walk, List.append_nil]; rfl
  | n :: names, start, h => by
    obtain ⟨hn, hnames⟩ := List.ne_and_not_mem_of_not_mem_cons h
    have hrest := walk ht depth opened names (start ++ [n]) hnames
    rw [Tree.walk] at hrest ⊢
    rw [List.foldl_cons]
    simp only
    rw [ht.stepFrom opened _ (Ne.symm hn), hrest, List.append_assoc]
    rfl

/-- **Without links a location leads to itself.** -/
theorem follow? (ht : t.Plain) (hl : l.Direct) : t.follow? [] l = some l := by
  rw [Tree.follow?, ht.walk _ _ _ _ hl]
  rfl

theorem find (ht : t.Plain) (hl : l.Direct) :
    t.find l = if (t.get? l).isSome then .ok l else .error (t.absence l) := by
  rw [Tree.find, ht.follow? hl]

theorem present (ht : t.Plain) (hl : l.Direct) : t.present l = (t.get? l).isSome := present_of_follow? (ht.follow? hl)

theorem leadsToDirectory (ht : t.Plain) (hl : l.Direct) : t.leadsToDirectory l = t.isDirectory l := by
  rw [Bool.eq_iff_iff, leadsToDirectory_iff, isDirectory_iff, ht.follow? hl]
  simp

/-- **An entry has its place where its directory is.** -/
theorem place_eq_ok_iff (ht : t.Plain) (hl : l.Direct) {q : Location} :
    t.place l = .ok q ↔ q = l ∧ t.isDirectory l.dropLast = true := by
  rcases List.eq_nil_or_concat' l with rfl | ⟨dir, n, rfl⟩
  · simp [Tree.place, isDirectory, get?_nil, eq_comm]
  · have hdir : Location.Direct dir := fun hmem => hl (List.mem_append_left _ hmem)
    rw [place_concat_eq_ok_iff, ht.follow? hdir, List.dropLast_concat, isDirectory_iff]
    simp [and_comm]

end Plain
end Tree
end Scriptwright
