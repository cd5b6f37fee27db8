import Mathlib.Data.List.Nodup
import Scriptwright.Proofs.Stability
/-!
# Lines that begin with a keyword

A keyword and a blank in front settle the kind of a line, with one exception: an equals sign that comes next makes an
assignment of it, with the keyword for its target.  No other sign can do that.  What stands before the first sign is
then the keyword, a blank and something else, and that is no target (`isTarget_append_blank`).  So the kind depends on
the beginning of the rest only, whatever signs and commands follow (`kind_of_keyword_line`).
-/
namespace Scriptwright

open Construct (Opens)

/-! ## Identifiers -/

namespace Text

/-- A letter or an underscore, and word characters behind it. -/
def IsIdentifier (t : Text) : Prop := ∃ c w, t = c :: w ∧ isNameStart c = true ∧ w.all isWord = true

theorem isWord_of_isBlank {c : Char} (h : isBlank c = true) : isWord c = false := by
  obtain ⟨r, hr, hlo, hhi⟩ := exists_of_covers h
  have hlist : c.toNat ∈ blankRanges.flatMap fun r => List.range' r.1 (r.2 + 1 - r.1) := by
    refine List.mem_flatMap.2 ⟨r, hr, List.mem_range'_1.2 ⟨hlo, ?_⟩⟩
    omega
  -- few enough to be looked up one by one
  have hnone : ∀ n ∈ blankRanges.flatMap fun r => List.range' r.1 (r.2 + 1 - r.1), isWord (Char.ofNat n) = false := by
    decide +kernel
  have := hnone _ hlist
  rwa [Char.ofNat_toNat] at this

theorem not_mem_of_allBlank {t : Text} (ht : allBlank t = true) {c : Char} (hc : isBlank c = false) : c ∉ t := by
  intro h
  rw [List.all_eq_true.1 ht c h] at hc
  cases hc

variable {w : Text}

theorem IsIdentifier.isWord (hw : IsIdentifier w) {c : Char} (hc : c ∈ w) : isWord c = true := by
  obtain ⟨a, v, rfl, ha, hv⟩ := hw
  rcases List.mem_cons.1 hc with rfl | hc
  · exact isWord_of_isNameStart ha
  · exact List.all_eq_true.1 hv c hc

theorem IsIdentifier.not_isBlank (hw : IsIdentifier w) {c : Char} (hc : c ∈ w) : isBlank c = false := by
  by_contra h
  have := isWord_of_isBlank (eq_true_of_ne_false h)
  rw [hw.isWord hc] at this
  cases this

theorem IsIdentifier.ne_nil (hw : IsIdentifier w) : w ≠ [] := by
  obtain ⟨a, v, rfl, -⟩ := hw
  exact List.cons_ne_nil a v

theorem IsIdentifier.tight (hw : IsIdentifier w) : Tight w :=
  ⟨fun _ hc => hw.not_isBlank (List.mem_of_head? hc), fun _ hc => hw.not_isBlank (List.mem_of_getLast? hc)⟩

end Text

open Text (isBlank isWord allBlank IsIdentifier)

/-! ## The word in front -/

theorem Construct.Opens.takeWhile_eq {w t : Text} (hw : ∀ c ∈ w, isBlank c = false) (h : Opens w t) :
    t.takeWhile (!isBlank ·) = w := by
  obtain ⟨c, rest, rfl, hc⟩ := h
  rw [List.takeWhile_append_of_pos fun x hx => by simp [hw x hx], List.takeWhile_cons_of_neg (by simp [hc]),
    List.append_nil]

/-- **A text begins with one word**, if words hold no blank. -/
theorem Construct.Opens.unique {v w t : Text} (hv : ∀ c ∈ v, isBlank c = false) (hw : ∀ c ∈ w, isBlank c = false)
    (h : Opens v t) (h' : Opens w t) : v = w := by
  rw [← h.takeWhile_eq hv, h'.takeWhile_eq hw]

theorem Construct.opens_append {w gap : Text} (hgap : allBlank gap = true) (hne : gap ≠ []) (r : Text) :
    Opens w (w ++ (gap ++ r)) := by
  obtain ⟨c, gap, rfl⟩ := List.exists_cons_of_ne_nil hne
  exact ⟨c, gap ++ r, rfl, (Text.allBlank_cons.1 hgap).1⟩

/-! ## Targets that begin with an identifier -/

namespace Assignment

variable {w gap r : Text}

/-- The text begins, blanks apart, with an equals sign and no second one behind it. -/
def SignInFront (r : Text) : Prop := ∃ value, Text.trimLeft r = '=' :: value ∧ ¬ ['='] <+: value

theorem not_isBlank_of_mem_declarators {v : Text} (h : v ∈ declarators) : ∀ c ∈ v, isBlank c = false := by
  have hall : declarators.all (fun v => v.all fun c => !isBlank c) = true := by decide
  intro c hc
  simpa using List.all_eq_true.1 (List.all_eq_true.1 hall v h) c hc

theorem afterDeclarator?_eq_none {t : Text} (h : ∀ v ∈ declarators, ¬ Opens v t) : afterDeclarator? t = none := by
  refine List.findSome?_eq_none_iff.2 fun v hv => if_neg fun hcond => h v hv ?_
  obtain ⟨hstart, hblank⟩ := Bool.and_eq_true_iff.1 hcond
  obtain ⟨rest, rfl⟩ := Text.startsWith_iff.1 hstart
  rw [List.drop_left] at hblank
  cases rest with
  | nil => cases hblank
  | cons c rest => exact ⟨c, rest, rfl, hblank⟩

theorem dropSigil_identifier (hw : IsIdentifier w) (r : Text) : dropSigil (w ++ r) = w ++ r := by
  obtain ⟨c, v, rfl, hc, -⟩ := hw
  refine if_neg fun h => ?_
  simp only [Bool.or_eq_true, decide_eq_true_eq] at h
  rcases h with (rfl | rfl) | rfl <;> cases hc

theorem isName_append (hw : IsIdentifier w) (r : Text) : isName (w ++ r) = isSubscript (r.dropWhile isWord) := by
  obtain ⟨c, v, rfl, hc, hv⟩ := hw
  rw [List.cons_append, isName, hc, List.dropWhile_append_of_pos (List.all_eq_true.1 hv), Bool.true_and]

theorem isSubscript_blank {c : Char} (hc : isBlank c = true) (r : Text) : isSubscript (c :: r) = false := by
  unfold isSubscript
  split
  · rename_i h
    cases h
  · rename_i h
    obtain ⟨rfl, -⟩ := List.cons.inj h
    cases hc
  · rename_i h
    obtain ⟨rfl, -⟩ := List.cons.inj h
    cases hc
  · rfl

theorem isTarget_identifier (hw : IsIdentifier w) : isTarget w = true := by
  have hnone : afterDeclarator? w = none := afterDeclarator?_eq_none fun v _ hopens => by
    obtain ⟨c, rest, rfl, hc⟩ := hopens
    rw [hw.not_isBlank (by simp)] at hc
    cases hc
  have hsigil := dropSigil_identifier hw []
  have hname := isName_append hw []
  rw [List.append_nil] at hsigil hname
  rw [isTarget, hnone, Option.getD_none, hsigil, hname]
  rfl

/-- **Behind an identifier that declares nothing a blank ends the target.** -/
theorem isTarget_append_blank (hw : IsIdentifier w) (hdeclares : w ∉ declarators) {c : Char} (hc : isBlank c = true)
    (r : Text) : isTarget (w ++ c :: r) = false := by
  have hnone : afterDeclarator? (w ++ c :: r) = none := afterDeclarator?_eq_none fun v hv hopens => by
    refine hdeclares ?_
    rwa [hopens.unique (not_isBlank_of_mem_declarators hv) (fun _ => hw.not_isBlank) ⟨c, r, rfl, hc⟩] at hv
  have hend : (c :: r).dropWhile isWord = c :: r := List.dropWhile_cons_of_neg (by simp [Text.isWord_of_isBlank hc])
  rw [isTarget, hnone, Option.getD_none, dropSigil_identifier hw, isName_append hw, hend, isSubscript_blank hc]

/-! ## The first sign behind an identifier -/

theorem equals_not_mem (hw : IsIdentifier w) (hgap : allBlank gap = true) : '=' ∉ w ++ gap := by
  intro h
  rcases List.mem_append.1 h with h | h
  · have := hw.isWord h
    revert this
    decide
  · exact Text.not_mem_of_allBlank hgap rfl h

/-- **A sign that comes next is the first one.** -/
theorem firstSign_of_signInFront (hw : IsIdentifier w) (hgap : allBlank gap = true) (hne : gap ≠ []) {value : Text}
    (hr : Text.trimLeft r = '=' :: value) (hvalue : ¬ ['='] <+: value) :
    ∃ gap', allBlank gap' = true ∧ FirstSign (w ++ (gap ++ r)) (w ++ gap') value := by
  obtain ⟨lead, hlead, hblank⟩ := Text.exists_trimLeft r
  rw [hr] at hlead
  have hall : allBlank (gap ++ lead) = true := Text.allBlank_append.2 ⟨hgap, List.all_eq_true.2 hblank⟩
  refine ⟨gap ++ lead, hall, ?_, ⟨fun c hc => ?_, hvalue⟩, fun b a ht _ => Nat.le_of_not_lt fun hlt => ?_⟩
  · rw [hlead]
    simp
  · rw [List.getLast?_append_of_ne_nil _ (by simp [hne])] at hc
    exact isComparisonStart_of_isBlank (List.all_eq_true.1 hall c (List.mem_of_getLast? hc))
  · -- a sign further left would stand among the identifier and the blanks
    refine equals_not_mem hw hall ?_
    have hsign : b ++ ['='] <+: w ++ (gap ++ r) := ⟨a, by rw [ht]; simp⟩
    have hfront : w ++ (gap ++ lead) <+: w ++ (gap ++ r) := ⟨'=' :: value, by rw [hlead]; simp⟩
    have hle : (b ++ ['=']).length ≤ (w ++ (gap ++ lead)).length := by
      rw [List.length_append, List.length_singleton]
      exact hlt
    have hinside := List.prefix_of_prefix_length_le hsign hfront hle
    exact hinside.subset (by simp)

/-- **Only a sign that comes next has a target.** -/
theorem signInFront_of_firstSign (hw : IsIdentifier w) (hdeclares : w ∉ declarators) (hgap : allBlank gap = true)
    (hne : gap ≠ []) {before value : Text} (h : FirstSign (w ++ (gap ++ r)) before value)
    (htarget : isTarget (Text.trim before) = true) : SignInFront r := by
  obtain ⟨ht, ⟨-, hvalue⟩, -⟩ := h
  obtain ⟨m, rfl, hr⟩ : ∃ m, before = w ++ gap ++ m ∧ r = m ++ '=' :: value := by
    rw [← List.append_assoc] at ht
    rcases List.append_eq_append_iff.1 ht with ⟨m, hm, hr⟩ | ⟨m, hm, hr⟩
    · exact ⟨m, hm, hr⟩
    · cases m with
      | nil => exact ⟨[], by simpa using hm.symm, by simpa using hr.symm⟩
      | cons c m =>
        obtain ⟨rfl, -⟩ : '=' = c ∧ value = m ++ r := by simpa using hr
        exact absurd (by rw [hm]; simp) (equals_not_mem hw hgap)
  rw [List.append_assoc, Text.trim_append_of_tight hw.tight hw.ne_nil] at htarget
  obtain ⟨trail, htrim, htrail⟩ := Text.exists_trimRight (gap ++ m)
  cases hcase : Text.trimRight (gap ++ m) with
  | nil =>
    rw [hcase, List.nil_append] at htrim
    refine ⟨value, ?_, hvalue⟩
    rw [hr, Text.trimLeft, List.dropWhile_append_of_pos fun c hc => htrail c (by rw [← htrim]; simp [hc])]
    rfl
  | cons c rest =>
    -- then the blank behind the identifier is part of what should be the target
    have hc : isBlank c = true := by
      obtain ⟨b, gap, rfl⟩ := List.exists_cons_of_ne_nil hne
      rw [hcase] at htrim
      obtain ⟨rfl, -⟩ : b = c ∧ _ := by simpa using htrim
      exact (Text.allBlank_cons.1 hgap).1
    rw [hcase, isTarget_append_blank hw hdeclares hc] at htarget
    cases htarget

end Assignment

/-! ## Keywords -/

/-- The words that begin a statement or the header of a block. -/
inductive Keyword where
  | echo
  | print
  | branch (word : BranchWord)
  | forLoop
  | whileLoop

namespace Keyword

def source : Keyword → Text
  | .echo => "echo".toList
  | .print => "print".toList
  | .branch word => word.source
  | .forLoop => "for".toList
  | .whileLoop => "while".toList

/-- The kind of the lines that begin with the keyword. -/
def kind : Keyword → Kind
  | .echo | .print => .printLike
  | .branch _ => .conditional
  | .forLoop => .forLoop
  | .whileLoop => .whileLoop

def all : List Keyword := [.echo, .print, .branch .ifWord, .branch .elifWord, .branch .elsifWord, .forLoop, .whileLoop]

theorem mem_all (k : Keyword) : k ∈ all := by
  rcases k with _ | _ | (_ | _ | _) | _ | _ <;> simp [all]

theorem isIdentifier (k : Keyword) : IsIdentifier k.source := by
  rcases k with _ | _ | (_ | _ | _) | _ | _ <;> exact ⟨_, _, rfl, by decide, by decide⟩

theorem source_not_mem_declarators (k : Keyword) : k.source ∉ Assignment.declarators := by
  have hnone : ∀ k ∈ all, k.source ∉ Assignment.declarators := by decide
  exact hnone k k.mem_all

theorem source_injective {k k' : Keyword} (h : k.source = k'.source) : k = k' := by
  have hnodup : (all.map source).Nodup := by decide
  exact List.inj_on_of_nodup_map hnodup k.mem_all k'.mem_all h

theorem assignment_precedes (k : Keyword) : Kind.Precedes .assignment k.kind := by
  have hall : ∀ k ∈ all, Kind.Precedes .assignment k.kind := by decide
  exact hall k k.mem_all

variable {s : Settings} {d : Dialect} {t : Text} {k : Keyword}

theorem eq_of_opens (h : Opens k.source t) (k' : Keyword) (h' : Opens k'.source t) : k' = k :=
  source_injective (h'.unique (fun _ => k'.isIdentifier.not_isBlank) (fun _ => k.isIdentifier.not_isBlank) h)

theorem fits_kind (h : Opens k.source t) : Kind.Fits s d t k.kind := by
  cases k with
  | echo => exact .inr (.inl h)
  | print => exact .inr (.inr h)
  | branch word => exact ⟨word, h⟩
  | forLoop | whileLoop => exact h

theorem not_fits_blank (h : Opens k.source t) : ¬ Kind.Fits s d t .blank := by
  rintro rfl
  obtain ⟨c, rest, ht, -⟩ := h
  simp at ht

theorem not_fits_comment (h : Opens k.source t) : ¬ Kind.Fits s d t .comment := by
  rintro ⟨r, rfl⟩
  obtain ⟨c, rest, ht, -⟩ := h
  obtain ⟨a, w, hsource, ha, -⟩ := k.isIdentifier
  rw [hsource] at ht
  obtain ⟨rfl, -⟩ : '#' = a ∧ _ := by simpa using ht
  revert ha
  decide

theorem not_fits_printLike (h : Opens k.source t) (hk : k.kind ≠ .printLike) : ¬ Kind.Fits s d t .printLike := by
  rintro (rfl | hecho | hprint)
  · obtain ⟨c, rest, ht, hc⟩ := h
    have hmem : c ∈ "echo".toList := by rw [ht]; simp
    rw [echo.isIdentifier.not_isBlank hmem] at hc
    cases hc
  · obtain rfl := eq_of_opens h .echo hecho
    exact hk rfl
  · obtain rfl := eq_of_opens h .print hprint
    exact hk rfl

/-- Of the kinds that are tried before its own a line with a keyword in front can only be an assignment. -/
theorem not_fits_of_precedes (h : Opens k.source t) {k' : Kind} (hbefore : Kind.Precedes k' k.kind)
    (hne : k' ≠ .assignment) : ¬ Kind.Fits s d t k' := by
  have hirrefl : k' ≠ k.kind := by
    rintro rfl
    exact Nat.lt_irrefl _ hbefore
  cases k' with
  | blank => exact not_fits_blank h
  | comment => exact not_fits_comment h
  | assignment => exact absurd rfl hne
  | printLike => exact not_fits_printLike h hirrefl.symm
  | conditional =>
    rintro ⟨word, hword⟩
    obtain rfl := eq_of_opens h (.branch word) hword
    exact hirrefl rfl
  | forLoop =>
    intro hloop
    obtain rfl := eq_of_opens h .forLoop hloop
    exact hirrefl rfl
  | _ =>
    -- no other kind is tried before a keyword's own
    exact absurd hbefore ((by decide : ∀ k ∈ all, ¬ Kind.Precedes _ k.kind) k k.mem_all)

theorem isFirstFit_kind (h : Opens k.source t) (hassign : ¬ Kind.Fits s d t .assignment) :
    Kind.IsFirstFit s d t k.kind := by
  refine ⟨fits_kind h, fun k' hbefore => ?_⟩
  by_cases hk : k' = .assignment
  · rwa [hk]
  · exact not_fits_of_precedes h hbefore hk

theorem isFirstFit_assignment (h : Opens k.source t) (hassign : Kind.Fits s d t .assignment) :
    Kind.IsFirstFit s d t .assignment := by
  refine ⟨hassign, fun k' hbefore => not_fits_of_precedes h (Nat.lt_trans hbefore k.assignment_precedes) ?_⟩
  rintro rfl
  exact Nat.lt_irrefl _ hbefore

/-- **A line with a keyword in front is an assignment exactly if a sign comes next.** -/
theorem fits_assignment_iff {gap r : Text} (hgap : allBlank gap = true) (hne : gap ≠ []) :
    Kind.Fits s d (k.source ++ (gap ++ r)) .assignment ↔ Assignment.SignInFront r := by
  have hw := k.isIdentifier
  constructor
  · rintro ⟨before, value, hfirst, htarget⟩
    exact Assignment.signInFront_of_firstSign hw k.source_not_mem_declarators hgap hne hfirst htarget
  · rintro ⟨value, hr, hvalue⟩
    obtain ⟨gap', hgap', hfirst⟩ := Assignment.firstSign_of_signInFront hw hgap hne hr hvalue
    refine ⟨_, value, hfirst, ?_⟩
    have htrim : Text.trimRight gap' = [] := by
      simpa using Text.trimRight_append_blanks (x := []) (by simp) (List.all_eq_true.1 hgap')
    rw [Text.trim_append_of_tight hw.tight hw.ne_nil, htrim, List.append_nil]
    exact Assignment.isTarget_identifier hw

end Keyword

/-- **The keyword in front settles the kind.**  A line whose text is a keyword, blanks and a rest is an assignment if the
rest begins, blanks apart, with an equals sign and no second one behind it.  Otherwise it is of the keyword's own kind,
whatever else the rest holds, in every dialect and with all settings. -/
theorem Line.kind_of_keyword_line (s : Settings) (d : Dialect) (k : Keyword) (l : Line) (gap r : Text)
    (htext : l.text = k.source ++ (gap ++ r)) (hgap : allBlank gap = true) (hne : gap ≠ []) :
    (l.kind s d = .assignment ↔ Assignment.SignInFront r) ∧
    (¬ Assignment.SignInFront r → l.kind s d = k.kind) := by
  have hopens : Opens k.source l.text := by
    rw [htext]
    exact Construct.opens_append hgap hne r
  have hfits : Kind.Fits s d l.text .assignment ↔ Assignment.SignInFront r := by
    rw [htext]
    exact Keyword.fits_assignment_iff hgap hne
  have hkind := Construct.isFirstFit_ofText s d l.text
  refine ⟨⟨fun h => ?_, fun h => ?_⟩, fun h => ?_⟩
  · exact hfits.1 (h ▸ hkind.1)
  · exact hkind.unique (Keyword.isFirstFit_assignment hopens (hfits.2 h))
  · exact hkind.unique (Keyword.isFirstFit_kind hopens fun ha => h (hfits.1 ha))

/-- A sign right behind the keyword, and one that comes too late. -/
theorem Line.kind_of_keyword_line_two_signs :
    (Line.text ⟨4, " while \t=grep x ".toList⟩ = Keyword.whileLoop.source ++ ([' '] ++ "\t=grep x".toList) ∧
      Assignment.SignInFront "\t=grep x".toList ∧
      Line.kind {} .dataProcessing ⟨4, " while \t=grep x ".toList⟩ = .assignment) ∧
    (Line.text ⟨5, "echo == cat f; a=b".toList⟩ = Keyword.echo.source ++ ([' '] ++ "== cat f; a=b".toList) ∧
      ¬ Assignment.SignInFront "== cat f; a=b".toList ∧
      Line.kind {} .dataProcessing ⟨5, "echo == cat f; a=b".toList⟩ = .printLike) := by
  have hwhile : Line.text ⟨4, " while \t=grep x ".toList⟩ = Keyword.whileLoop.source ++ ([' '] ++ "\t=grep x".toList) := by
    decide
  have hecho : Line.text ⟨5, "echo == cat f; a=b".toList⟩ = Keyword.echo.source ++ ([' '] ++ "== cat f; a=b".toList) := by
    decide
  have hsign : Assignment.SignInFront "\t=grep x".toList := ⟨"grep x".toList, by decide, by decide⟩
  have hnone : ¬ Assignment.SignInFront "== cat f; a=b".toList := by
    rintro ⟨value, hvalue, hsecond⟩
    obtain rfl : "= cat f; a=b".toList = value := (List.cons.inj hvalue).2
    exact hsecond (by decide)
  exact ⟨⟨hwhile, hsign, (kind_of_keyword_line {} .dataProcessing .whileLoop _ _ _ hwhile rfl (by decide)).1.2 hsign⟩,
    hecho, hnone, (kind_of_keyword_line {} .dataProcessing .echo _ _ _ hecho rfl (by decide)).2 hnone⟩

end Scriptwright
