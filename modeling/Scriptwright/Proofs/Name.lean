import Mathlib.Data.List.TakeDrop
import Mathlib.Data.List.TakeWhile
import Scriptwright.Proofs.Tree
import Scriptwright.Files.Replacement
/-!
# Stems, suffixes and scratch names

A name with a suffix is its stem, a dot, and what comes after the last dot (`split_dot`, `eq_or_dotted`).  The scratch file
of a file stands beside it and has a suffix of its own, so it is never the file itself (`scratchFor_ne`).
-/
namespace Scriptwright
namespace Name

theorem lastDot?_append (a : Text) {b : Text} (hb : '.' ∉ b) : lastDot? (a ++ '.' :: b) = some (a, b) := by
  have hstop : ∀ c ∈ b.reverse, (c != '.') = true := by
    intro c hc
    rw [bne_iff_ne]
    rintro rfl
    exact hb (List.mem_reverse.1 hc)
  have hspan : (a ++ '.' :: b).reverse.span (· != '.') = (b.reverse, '.' :: a.reverse) := by
    rw [List.span_eq_takeWhile_dropWhile, List.reverse_append, List.reverse_cons, List.append_assoc,
      List.takeWhile_append_of_pos hstop, List.dropWhile_append_of_pos hstop]
    simp
  rw [lastDot?, hspan]
  simp

/-- **A name is cut before its last dot**, if something stands on both sides of it. -/
theorem split_dot {a b : Text} (ha : a ≠ []) (hb : b ≠ []) (hdot : '.' ∉ b) : split (a ++ '.' :: b) = (a, '.' :: b) := by
  rw [split, lastDot?_append a hdot]
  simp [ha, hb]

theorem lastDot?_eq_some {n a b : Text} (h : lastDot? n = some (a, b)) : n = a ++ '.' :: b ∧ '.' ∉ b := by
  unfold lastDot? at h
  rw [List.span_eq_takeWhile_dropWhile] at h
  have hjoin := List.takeWhile_append_dropWhile (p := fun c : Char => c != '.') (l := n.reverse)
  have hall : ∀ c ∈ n.reverse.takeWhile (· != '.'), c ≠ '.' := fun c hc =>
    bne_iff_ne.1 (List.mem_takeWhile_imp (p := fun c : Char => c != '.') hc)
  have hhead := List.head?_dropWhile_not (fun c : Char => c != '.') n.reverse
  generalize n.reverse.takeWhile (· != '.') = after at h hjoin hall
  generalize n.reverse.dropWhile (· != '.') = rest at h hjoin hhead
  cases rest with
  | nil => cases h
  | cons c before =>
    obtain ⟨rfl, rfl⟩ : before.reverse = a ∧ after.reverse = b := by simpa using h
    have hc : c = '.' := by simpa using hhead
    subst hc
    constructor
    · rw [← List.reverse_reverse n, ← hjoin]
      simp
    · intro hmem
      exact hall '.' (List.mem_reverse.1 hmem) rfl

/-- Either a name has no suffix, or it is its stem, a dot and the rest of its suffix. -/
theorem eq_or_dotted (n : Text) : split n = (n, []) ∨ ∃ a b, a ≠ [] ∧ b ≠ [] ∧ '.' ∉ b ∧ n = a ++ '.' :: b := by
  cases h : lastDot? n with
  | none => exact Or.inl (by rw [split, h])
  | some p =>
    obtain ⟨a, b⟩ := p
    obtain ⟨hn, hdot⟩ := lastDot?_eq_some h
    by_cases hempty : a = [] ∨ b = []
    · refine Or.inl ?_
      rw [split, h]
      rcases hempty with rfl | rfl <;> simp
    · obtain ⟨ha, hb⟩ := not_or.1 hempty
      exact Or.inr ⟨a, b, ha, hb, hdot, hn⟩

theorem stem_append_suffix (n : Text) : stem n ++ suffix n = n := by
  rcases eq_or_dotted n with h | ⟨a, b, ha, hb, hdot, rfl⟩
  · rw [stem, suffix, h, List.append_nil]
  · rw [stem, suffix, split_dot ha hb hdot]

/-- A name has a suffix exactly when it is its stem, a dot and something that is free of dots. -/
theorem suffix_eq_dot_iff {n tag : Text} : suffix n = '.' :: tag ↔ n = stem n ++ '.' :: tag ∧ stem n ≠ [] ∧ tag ≠ [] ∧ '.' ∉ tag := by
  rcases eq_or_dotted n with h | ⟨a, b, ha, hb, hdot, rfl⟩
  · rw [stem, suffix, h]
    simp
  · rw [stem, suffix, split_dot ha hb hdot]
    constructor
    · intro h
      obtain rfl : b = tag := by simpa using h
      exact ⟨rfl, ha, hb, hdot⟩
    · rintro ⟨h, -⟩
      simpa using h

end Name

/-! ## Scratch files -/

/-- The name of the scratch file of a file named `n`. -/
def scratchName (n : Text) : Text := Name.stem n ++ ".scriptcuro.tmp".toList

theorem scratchFor_append (dir : Location) (n : Text) : scratchFor (dir ++ [n]) = dir ++ [scratchName n] := by
  rw [scratchFor, List.getLast?_concat, List.dropLast_concat]
  rfl

theorem suffix_scratchName (n : Text) : Name.suffix (scratchName n) = ".tmp".toList := by
  have hsplit : scratchName n = (Name.stem n ++ ".scriptcuro".toList) ++ '.' :: "tmp".toList := by
    rw [List.append_assoc]
    rfl
  rw [hsplit, Name.suffix, Name.split_dot (by simp) (by decide) (by decide)]
  rfl

theorem scratchName_ne (n : Text) : scratchName n ≠ n := by
  intro h
  have hstem : Name.stem n ++ ".scriptcuro.tmp".toList = Name.stem n ++ Name.suffix n := by
    rw [Name.stem_append_suffix]
    exact h
  have hlong := List.append_cancel_left hstem
  have hshort : Name.suffix n = ".tmp".toList := by
    rw [← suffix_scratchName n, h]
  rw [hshort] at hlong
  revert hlong
  decide

theorem scratchName_ne_up (n : Text) : "..".toList ≠ scratchName n := by
  intro h
  have hlen := congrArg List.length h
  rw [scratchName, List.length_append, show ("..".toList : Text).length = 2 from rfl,
    show (".scriptcuro.tmp".toList : Text).length = 15 from rfl] at hlen
  omega

theorem exists_concat {l : Location} (hl : l ≠ []) : ∃ dir n, l = dir ++ [n] :=
  ⟨_, _, (List.dropLast_append_getLast hl).symm⟩

theorem scratchFor_ne {l : Location} (hl : l ≠ []) : scratchFor l ≠ l := by
  obtain ⟨dir, n, rfl⟩ := exists_concat hl
  rw [scratchFor_append]
  intro h
  exact scratchName_ne n (by simpa using h)

theorem scratchFor_ne_nil {l : Location} (hl : l ≠ []) : scratchFor l ≠ [] := by
  obtain ⟨dir, n, rfl⟩ := exists_concat hl
  rw [scratchFor_append]
  simp

/-- The scratch file stands beside its file. -/
theorem dropLast_scratchFor {l : Location} (hl : l ≠ []) : (scratchFor l).dropLast = l.dropLast := by
  obtain ⟨dir, n, rfl⟩ := exists_concat hl
  rw [scratchFor_append, List.dropLast_concat, List.dropLast_concat]

theorem direct_scratchFor {l : Location} (hl : l ≠ []) (h : l.Direct) : (scratchFor l).Direct := by
  obtain ⟨dir, n, rfl⟩ := exists_concat hl
  rw [scratchFor_append]
  intro hmem
  rcases List.mem_append.1 hmem with hmem | hmem
  · exact h (List.mem_append_left _ hmem)
  · exact scratchName_ne_up n (List.mem_singleton.1 hmem)

end Scriptwright
