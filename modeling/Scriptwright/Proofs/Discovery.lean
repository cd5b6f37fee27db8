import Mathlib.Data.Char
import Mathlib.Data.List.Lex
import Mathlib.Order.Lattice
import Scriptwright.Proofs.Programs
/-!
# Which scripts are found, and where their programs stand

In a tree without links the scripts are the wanted files below the root that lie no deeper than asked (`mem_discover_iff`),
each of them once (`nodup_discover`).  They come in the order of their locations, which is a linear one, so the list is
settled by its members: trees with the same wanted files have the same list of scripts (`discover_eq_of_files`).

The program of a script stands below `programRoot` where the script stands below the root (`programPath_concat`), under a
name that is made from the script's.
-/
namespace Scriptwright

/-! ## The order of locations -/

section Order

variable {α : Type} [LinearOrder α]

theorem nil_le_list (bs : List α) : [] ≤ bs := by
  rw [← not_lt]
  exact List.not_lt_nil bs

theorem not_cons_le_nil (a : α) (as : List α) : ¬ a :: as ≤ [] := by
  rw [not_le]
  exact List.nil_lt_cons a as

theorem cons_le_cons_iff_ite [DecidableEq α] {a b : α} {as bs : List α} :
    a :: as ≤ b :: bs ↔ if a = b then as ≤ bs else a ≤ b := by
  rw [← not_lt, List.cons_lt_cons_iff, not_or, not_and, not_lt, not_lt]
  split
  · rename_i h
    simp [h]
  · rename_i h
    simp [h, Ne.symm]

end Order

theorem Name.atMost_iff : ∀ {a b : Text}, Name.atMost a b = true ↔ a ≤ b
  | [], b => by simp [Name.atMost, nil_le_list]
  | a :: as, [] => by simp [Name.atMost, not_cons_le_nil]
  | a :: as, b :: bs => by
    rw [cons_le_cons_iff_ite, Name.atMost]
    split
    · exact Name.atMost_iff
    · rename_i h
      rw [decide_eq_true_eq, le_iff_lt_or_eq, or_iff_left h]
      rfl

/-- Locations are ordered as lists of texts are, and texts as lists of characters. -/
theorem Location.atMost_iff : ∀ {a b : Location}, Location.atMost a b = true ↔ a ≤ b
  | [], b => by simp [Location.atMost, nil_le_list]
  | a :: as, [] => by simp [Location.atMost, not_cons_le_nil]
  | a :: as, b :: bs => by
    rw [cons_le_cons_iff_ite, Location.atMost]
    split
    · exact Location.atMost_iff
    · exact Name.atMost_iff

theorem Location.pairwise_mergeSort (xs : List Location) : (xs.mergeSort Location.atMost).Pairwise (· ≤ ·) := by
  refine (List.pairwise_mergeSort ?_ ?_ xs).imp fun h => Location.atMost_iff.1 h
  · intro a b c hab hbc
    exact Location.atMost_iff.2 (le_trans (Location.atMost_iff.1 hab) (Location.atMost_iff.1 hbc))
  · intro a b
    rw [Bool.or_eq_true, Location.atMost_iff, Location.atMost_iff]
    exact le_total a b

theorem Location.mergeSort_eq_of_perm {xs ys : List Location} (h : xs.Perm ys) (hy : ys.Pairwise (· ≤ ·)) :
    xs.mergeSort Location.atMost = ys :=
  ((List.mergeSort_perm xs Location.atMost).trans h).eq_of_pairwise (fun _ _ _ _ hab hba => le_antisymm hab hba)
    (Location.pairwise_mergeSort xs) hy

/-- Lists without repetitions that have the same members are the same list when sorted. -/
theorem Location.mergeSort_eq_of_mem_iff {xs ys : List Location} (hx : xs.Nodup) (hy : ys.Nodup)
    (h : ∀ l, l ∈ xs ↔ l ∈ ys) : xs.mergeSort Location.atMost = ys.mergeSort Location.atMost := by
  have hperm : xs.Perm ys := (List.perm_ext_iff_of_nodup hx hy).2 h
  exact Location.mergeSort_eq_of_perm (hperm.trans (List.mergeSort_perm ys Location.atMost).symm) (Location.pairwise_mergeSort ys)

namespace Workspace

/-! ## Scripts -/

section Scripts

variable {w : Workspace} {t : Tree} {root : Location} {d d' : Disk}

theorem mem_filesBelow {names : List Text} :
    names ∈ filesBelow t root ↔ names ≠ [] ∧ (t.file? (root ++ names)).isSome := by
  unfold filesBelow
  rw [List.mem_map]
  constructor
  · rintro ⟨⟨l, e⟩, hmem, rfl⟩
    simp only [List.mem_filter, Bool.and_eq_true, bne_iff_ne, List.isPrefixOf_iff_prefix] at hmem
    obtain ⟨-, ⟨⟨rest, rfl⟩, hne⟩, hfile⟩ := hmem
    rw [List.drop_left]
    exact ⟨fun hnil => hne (by rw [hnil, List.append_nil]), Tree.isFile_iff.1 hfile⟩
  · rintro ⟨hne, hfile⟩
    obtain ⟨bytes, hbytes⟩ := Option.isSome_iff_exists.1 hfile
    have hget := Tree.file?_eq_some_iff.1 hbytes
    have hmem := Tree.mem_of_get? (by simp [hne]) hget
    refine ⟨_, List.mem_filter.2 ⟨hmem, ?_⟩, List.drop_left⟩
    simp [Tree.isFile_iff, hfile, hne]

theorem nodup_filesBelow (ht : t.Plain) : (filesBelow t root).Nodup := by
  have hnodup := ht.nodup
  unfold filesBelow
  rw [List.Nodup, List.pairwise_map] at hnodup ⊢
  refine (hnodup.filter _).imp_of_mem fun {x y} hx hy hxy hdrop => hxy ?_
  -- both begin with the root, so what follows it settles them
  simp only [List.mem_filter, Bool.and_eq_true, List.isPrefixOf_iff_prefix] at hx hy
  obtain ⟨a, ha⟩ := hx.2.1.1
  obtain ⟨b, hb⟩ := hy.2.1.1
  rw [← ha, ← hb, List.drop_left, List.drop_left] at hdrop
  rw [← ha, ← hb, hdrop]

theorem discover_eq (ht : d.tree.Plain) (hroot : w.root.Direct) (extensions : List Text) (depth : Int) :
    w.discover d extensions depth =
      ((filesBelow d.tree w.root).filter fun names =>
        wants extensions (names.getLast?.getD []) && decide ((names.length : Int) ≤ depth)).mergeSort Location.atMost := by
  rw [discover, scriptsBelow, ht.follow? hroot]

theorem discover_eq_of_perm (ht : d.tree.Plain) (hroot : w.root.Direct) {extensions : List Text} {depth : Int}
    {scripts : List (List Text)}
    (hperm : ((filesBelow d.tree w.root).filter fun names =>
      wants extensions (names.getLast?.getD []) && decide ((names.length : Int) ≤ depth)).Perm scripts)
    (hsorted : scripts.Pairwise fun a b => Location.atMost a b = true) : w.discover d extensions depth = scripts := by
  rw [discover_eq ht hroot]
  exact Location.mergeSort_eq_of_perm hperm (hsorted.imp Location.atMost_iff.1)

/-- **The scripts are the wanted files below the root that lie no deeper than asked.** -/
theorem mem_discover_iff (ht : d.tree.Plain) (hroot : w.root.Direct) {extensions : List Text} {depth : Int}
    {names : List Text} : names ∈ w.discover d extensions depth ↔
      names ≠ [] ∧ (d.tree.file? (w.root ++ names)).isSome ∧ wants extensions (names.getLast?.getD []) = true ∧
        (names.length : Int) ≤ depth := by
  rw [discover_eq ht hroot, List.mem_mergeSort, List.mem_filter, mem_filesBelow]
  simp [and_assoc]

theorem nodup_discover (ht : d.tree.Plain) (hroot : w.root.Direct) (extensions : List Text) (depth : Int) :
    (w.discover d extensions depth).Nodup := by
  rw [discover_eq ht hroot, (List.mergeSort_perm _ _).nodup_iff]
  exact (nodup_filesBelow ht).filter _

/-- **Disks with the same wanted files have the same scripts**, in the same order. -/
theorem discover_eq_of_files (ht : d.tree.Plain) (ht' : d'.tree.Plain) (hroot : w.root.Direct) {extensions : List Text}
    (hfiles : ∀ dir n, wants extensions n = true →
      d'.tree.file? (w.root ++ (dir ++ [n])) = d.tree.file? (w.root ++ (dir ++ [n]))) (depth : Int) :
    w.discover d' extensions depth = w.discover d extensions depth := by
  have hmem : ∀ names, names ∈ w.discover d' extensions depth ↔ names ∈ w.discover d extensions depth := by
    intro names
    rw [mem_discover_iff ht' hroot, mem_discover_iff ht hroot]
    refine and_congr_right fun hne => ?_
    obtain ⟨dir, n, rfl⟩ := exists_concat hne
    rw [List.getLast?_concat, Option.getD_some]
    by_cases hn : wants extensions n = true
    · rw [hfiles dir n hn]
    · simp [hn]
  rw [discover_eq ht' hroot, discover_eq ht hroot]
  refine Location.mergeSort_eq_of_mem_iff ((nodup_filesBelow ht').filter _) ((nodup_filesBelow ht).filter _) fun names => ?_
  have hsame := hmem names
  rwa [discover_eq ht' hroot, discover_eq ht hroot, List.mem_mergeSort, List.mem_mergeSort] at hsame

end Scripts

/-! ## Places of programs -/

/-- The directory below which the programs stand as the scripts do below the root. -/
def programRoot (w : Workspace) : Location := w.outputDir.getD w.root

/-- The place of the program of the script that `names` lead to from the root. -/
def programPlace (w : Workspace) (d : Dialect) (names : List Text) : Location :=
  (w.programPath d (.ofLocation (w.root ++ names))).parts

/-- **The program of a script stands where the script stands, below another root.** -/
theorem programPath_concat (w : Workspace) (d : Dialect) (dir : List Text) (n : Text) :
    w.programPath d (.ofLocation (w.root ++ (dir ++ [n]))) = .ofLocation (w.programRoot ++ (dir ++ [programName d n])) := by
  have hparent : (Path.ofLocation (w.root ++ (dir ++ [n]))).parent = .ofLocation (w.root ++ dir) := by
    rw [← List.append_assoc, Path.parent, Path.ofLocation, List.dropLast_concat]
    rfl
  have hname : (Path.ofLocation (w.root ++ (dir ++ [n]))).name = n := by
    rw [← List.append_assoc, Path.name, Path.ofLocation, List.getLast?_concat]
    rfl
  have hdir : w.programDir (.ofLocation (w.root ++ (dir ++ [n]))) = .ofLocation (w.programRoot ++ dir) := by
    rw [programDir, programRoot, hparent]
    cases w.outputDir with
    | none => rfl
    | some out => simp [Path.below?, Path.ofLocation]
  rw [programPath, hdir, hname, ← List.append_assoc]
  rfl

theorem programPlace_concat (w : Workspace) (d : Dialect) (dir : List Text) (n : Text) :
    w.programPlace d (dir ++ [n]) = w.programRoot ++ (dir ++ [programName d n]) := by
  rw [programPlace, programPath_concat]
  rfl

theorem programPath_eq (w : Workspace) (d : Dialect) {names : List Text} (h : names ≠ []) :
    w.programPath d (.ofLocation (w.root ++ names)) = .ofLocation (w.programPlace d names) := by
  obtain ⟨dir, n, rfl⟩ := exists_concat h
  rw [programPath_concat, programPlace_concat]

end Workspace
end Scriptwright
