import Scriptwright.Batch.Workspace
import Scriptwright.Proofs.Name
/-!
# Names of programs

No program counts as a script (`not_wants_programName`) and no scratch file does, unless its own suffix is wanted
(`not_wants_scratchName`).  Scripts whose suffixes hold no underscore have programs of different names
(`programName_injective`): the last underscore before the mark is the one in the place of the dot.  A suffix is compared in
lower case, which neither makes underscores nor takes any away (`underscore_mem_lower`).
-/
namespace Scriptwright
namespace Text

/-! ## Underscores in lower case -/

theorem lt_runImage {bound : Nat} : ∀ {runs : List (Nat × Nat × Nat × Nat)} {n : Nat}, (∀ r ∈ runs, bound < r.2.2.2) →
    bound < n → bound < runImage runs n
  | [], n, _, hn => hn
  | (first, last, step, image) :: rest, n, h, hn => by
    obtain ⟨himage, hrest⟩ := List.forall_mem_cons.1 h
    rw [runImage]
    split
    · exact hn
    split
    · split
      · exact Nat.lt_add_right _ himage
      · exact hn
    · exact lt_runImage hrest hn

theorem eq_underscore_of_ofNat {n : Nat} (h : Char.ofNat n = '_') : n = 0x5F := by
  by_cases hvalid : n.isValidChar
  · rw [Char.ofNat, dif_pos hvalid] at h
    exact congrArg Char.toNat h
  · rw [Char.ofNat, dif_neg hvalid] at h
    exact absurd h (by decide)

/-- From U+0080 on nothing is mapped to an underscore: every image in the tables lies above it. -/
theorem underscore_not_mem_caseImage {c : Char} (hc : 0x80 ≤ c.toNat) : '_' ∉ caseImage lowerMany lowerRuns c := by
  have hmany : ∀ x ∈ lowerMany, '_' ∉ x.2.map Char.ofNat := by decide +kernel
  have hruns : ∀ r ∈ lowerRuns, 0x5F < r.2.2.2 := by decide +kernel
  unfold caseImage
  split
  · rename_i n image hfind
    exact hmany _ (List.mem_of_find?_eq_some hfind)
  · intro h
    have himage := eq_underscore_of_ofNat (List.mem_singleton.1 h).symm
    have habove := lt_runImage hruns (Nat.lt_of_lt_of_le (by decide) hc)
    rw [himage] at habove
    exact absurd habove (Nat.lt_irrefl _)

theorem underscore_mem_lowerChar {c : Char} : '_' ∈ lowerChar c ↔ c = '_' := by
  constructor
  · intro h
    unfold lowerChar at h
    split at h
    · rename_i hascii
      have hsmall : ∀ n < 0x80, (Char.ofNat n).toLower = '_' → Char.ofNat n = '_' := by decide +kernel
      have hc := hsmall c.toNat hascii
      rw [Char.ofNat_toNat] at hc
      exact hc (List.mem_singleton.1 h).symm
    · rename_i hascii
      exact absurd h (underscore_not_mem_caseImage (Nat.le_of_not_lt hascii))
  · rintro rfl
    decide

theorem underscore_mem_lowerAfter : ∀ t before : Text, '_' ∈ lowerAfter before t ↔ '_' ∈ t
  | [], before => by simp [lowerAfter]
  | c :: t, before => by
    rw [lowerAfter, List.mem_append, underscore_mem_lowerAfter t, List.mem_cons]
    split
    · rename_i hsigma
      simp only [Bool.and_eq_true, decide_eq_true_eq] at hsigma
      have hc : '_' ≠ c := by
        rintro rfl
        exact absurd hsigma.1.1 (by decide)
      simp [hc]
    · rw [underscore_mem_lowerChar, eq_comm]

theorem underscore_mem_lower {t : Text} : '_' ∈ lower t ↔ '_' ∈ t := underscore_mem_lowerAfter t []

theorem append_cons_inj {c : Char} {a a' b b' : Text} (hb : c ∉ b) (hb' : c ∉ b') (h : a ++ c :: b = a' ++ c :: b') :
    a = a' ∧ b = b' := by
  rcases List.append_eq_append_iff.1 h with ⟨m, rfl, hm⟩ | ⟨m, rfl, hm⟩
  · cases m with
    | nil => simpa using hm
    | cons x m =>
      obtain ⟨-, rfl⟩ : c = x ∧ b = m ++ c :: b' := by simpa using hm
      exact absurd (by simp) hb
  · cases m with
    | nil => simpa [eq_comm] using hm
    | cons x m =>
      obtain ⟨-, rfl⟩ : c = x ∧ b' = m ++ c :: b := by simpa using hm
      exact absurd (by simp) hb'

end Text

namespace Workspace

/-! ## Programs are no scripts -/

/-- The name of a program without its mark and suffix. -/
def programBase (n : Text) : Text :=
  let tag := (Name.suffix n).dropWhile (· == '.')
  if tag.isEmpty then Name.stem n else Name.stem n ++ "_".toList ++ tag

theorem suffix_downloadName (d : Dialect) : Name.suffix (downloadName d) = ".py".toList := by
  cases d <;> decide

theorem programName_eq (d : Dialect) (n : Text) :
    programName d n = (programBase n ++ programMark) ++ '.' :: "py".toList := by
  rw [programName, suffix_downloadName]
  rfl

theorem stem_programName (d : Dialect) (n : Text) : Name.stem (programName d n) = programBase n ++ programMark := by
  rw [programName_eq, Name.stem, Name.split_dot ?_ (by decide) (by decide)]
  rw [ne_eq, List.append_eq_nil_iff, not_and]
  exact fun _ => by decide

theorem suffix_programName (d : Dialect) (n : Text) : Name.suffix (programName d n) = ".py".toList := by
  rw [programName_eq, Name.suffix, Name.split_dot ?_ (by decide) (by decide)]
  · rfl
  · rw [ne_eq, List.append_eq_nil_iff, not_and]
    exact fun _ => by decide

/-- **A program is no script**, whatever suffixes are wanted. -/
theorem not_wants_programName (extensions : List Text) (d : Dialect) (n : Text) :
    wants extensions (programName d n) = false := by
  have hmark : Text.endsWith (Name.stem (programName d n)) programMark = true := by
    rw [stem_programName]
    exact List.isSuffixOf_iff_suffix.2 (List.suffix_append _ _)
  rw [wants, hmark, Bool.not_true, Bool.and_false]

/-- The scratch files' own suffix is not wanted. -/
def SparesScratch (extensions : List Text) : Prop := ∀ e ∈ extensions, wantedSuffix e ≠ ".tmp".toList

instance (extensions : List Text) : Decidable (SparesScratch extensions) :=
  inferInstanceAs (Decidable (∀ e ∈ extensions, wantedSuffix e ≠ ".tmp".toList))

theorem not_wants_scratchName {extensions : List Text} (h : SparesScratch extensions) (n : Text) :
    wants extensions (scratchName n) = false := by
  have hlower : Text.lower ".tmp".toList = ".tmp".toList := by decide
  have hnot : (extensions.map wantedSuffix).contains (Text.lower (Name.suffix (scratchName n))) = false := by
    rw [suffix_scratchName, hlower, List.contains_eq_mem, decide_eq_false_iff_not]
    intro hmem
    obtain ⟨e, he, heq⟩ := List.mem_map.1 hmem
    exact h e he heq
  rw [wants, hnot, Bool.false_and]

/-! ## Programs of different scripts -/

/-- No wanted suffix holds an underscore. -/
def NoUnderscore (extensions : List Text) : Prop := ∀ e ∈ extensions, '_' ∉ e

instance (extensions : List Text) : Decidable (NoUnderscore extensions) :=
  inferInstanceAs (Decidable (∀ e ∈ extensions, '_' ∉ e))

theorem underscore_mem_wantedSuffix {e : Text} : '_' ∈ wantedSuffix e ↔ '_' ∈ e := by
  unfold wantedSuffix
  split
  · exact Text.underscore_mem_lower
  · rw [List.mem_cons, Text.underscore_mem_lower]
    simp

theorem wantedSuffix_ne_nil (e : Text) : wantedSuffix e ≠ [] := by
  unfold wantedSuffix
  split
  · rename_i hdot
    obtain ⟨rest, rfl⟩ := List.isPrefixOf_iff_prefix.1 hdot
    exact List.cons_ne_nil _ _
  · exact List.cons_ne_nil _ _

theorem exists_suffix_of_wants {extensions : List Text} {n : Text} (h : wants extensions n = true) :
    ∃ tag, Name.suffix n = '.' :: tag ∧ (NoUnderscore extensions → '_' ∉ tag) := by
  rw [wants, Bool.and_eq_true, List.contains_eq_mem, decide_eq_true_eq] at h
  obtain ⟨e, he, heq⟩ := List.mem_map.1 h.1
  rcases Name.eq_or_dotted n with hn | ⟨a, b, ha, hb, hdot, rfl⟩
  · rw [Name.suffix, hn] at heq
    exact absurd heq (wantedSuffix_ne_nil e)
  · have hsuffix : Name.suffix (a ++ '.' :: b) = '.' :: b := by rw [Name.suffix, Name.split_dot ha hb hdot]
    refine ⟨b, hsuffix, fun hfree hmem => hfree e he ?_⟩
    rw [← underscore_mem_wantedSuffix, heq, Text.underscore_mem_lower, hsuffix]
    exact List.mem_cons_of_mem _ hmem

theorem programBase_of_suffix {n tag : Text} (h : Name.suffix n = '.' :: tag) :
    programBase n = Name.stem n ++ '_' :: tag := by
  obtain ⟨-, -, hne, hdot⟩ := Name.suffix_eq_dot_iff.1 h
  obtain ⟨c, cs, rfl⟩ := List.exists_cons_of_ne_nil hne
  have hc : c ≠ '.' := fun hc => hdot (by rw [hc]; exact List.mem_cons_self)
  rw [programBase, h]
  simp [hc]

/-- **Different scripts have programs of different names**, if no underscore stands in their suffixes. -/
theorem programName_injective {extensions : List Text} (hfree : NoUnderscore extensions) {d : Dialect} {m n : Text}
    (hm : wants extensions m = true) (hn : wants extensions n = true) (h : programName d m = programName d n) : m = n := by
  obtain ⟨tag, hsuffix, hno⟩ := exists_suffix_of_wants hm
  obtain ⟨tag', hsuffix', hno'⟩ := exists_suffix_of_wants hn
  rw [programName_eq, programName_eq, List.append_cancel_right_eq, List.append_cancel_right_eq,
    programBase_of_suffix hsuffix, programBase_of_suffix hsuffix'] at h
  obtain ⟨hstem, rfl⟩ := Text.append_cons_inj (hno hfree) (hno' hfree) h
  rw [(Name.suffix_eq_dot_iff.1 hsuffix).1, (Name.suffix_eq_dot_iff.1 hsuffix').1, hstem]

end Workspace
end Scriptwright
