import Scriptwright.Proofs.Headers
import Scriptwright.Proofs.Symbols
/-!
# Hollow headers

No part of a header is made up: a condition, a variable or a list of items that is missing in the script is missing in
the program.  A condition comes out empty exactly if there is nothing to test before the opener, at most brackets around
nothing (`normalize_eq_nil_iff`), and items exactly if there is nothing but an opener (`dropOpener_eq_nil_iff`).  There is
no diagnostic for it: `clean_header` says what the headers without one look like.  It leaves out the loops in which the
keyword itself stands where the variable should (`nameless_loop`).
-/
namespace Scriptwright

open Text (isBlank allBlank trim trimLeft Tight)
open Construct (Opens)
open Condition (opener)

namespace Text

/-- **A text is cut at the first occurrence of the separator.** -/
theorem length_le_of_cut? {sep : Text} (hsep : sep ≠ []) : ∀ {t before after : Text}, cut? sep t = some (before, after) →
    ∀ b a : Text, t = b ++ (sep ++ a) → before.length ≤ b.length
  | [], before, after, h, b, a, ht => by
    have hnil := (List.append_eq_nil_iff.1 (List.append_eq_nil_iff.1 ht.symm).2).1
    exact absurd hnil hsep
  | c :: cs, before, after, h, b, a, ht => by
    rw [cut?] at h
    split at h
    · obtain ⟨rfl, -⟩ := Prod.mk.inj (Option.some.inj h)
      exact Nat.zero_le _
    · rename_i hnot
      obtain ⟨⟨before', after'⟩, hcut, heq⟩ := Option.map_eq_some_iff.1 h
      obtain ⟨rfl, rfl⟩ := Prod.mk.inj heq
      cases b with
      | nil => exact absurd (List.isPrefixOf_iff_prefix.2 ⟨a, ht.symm⟩) hnot
      | cons x b =>
        obtain ⟨-, ht⟩ := List.cons.inj ht
        exact Nat.succ_le_succ (length_le_of_cut? hsep hcut b a ht)

end Text

/-! ## Conditions -/

namespace Condition

theorem withSymbols_eq_nil_iff {t : Text} : withSymbols t = [] ↔ t = [] := by
  refine ⟨fun h => ?_, fun h => by rw [h]; rfl⟩
  obtain ⟨rs, hcut⟩ := Text.exists_cut t
  rw [withSymbols_of_cut hcut] at h
  cases hcut with
  | nil => rfl
  | @run b w t rs hw _ _ =>
    have hsymbol : symbolOf w ≠ [] := by
      rcases symbolOf_cases w with hmem | ⟨hsame, -⟩
      · exact (of_mem_operators hmem).2.1.ne_nil
      · rw [hsame]
        exact hw.ne_nil
    rw [List.flatMap_cons] at h
    exact absurd (List.append_eq_nil_iff.1 h).1 hsymbol

theorem dropOpener_eq_nil_iff {t : Text} : dropOpener t = [] ↔ t ∈ opener := by
  rw [mem_opener_iff, dropOpener_eq, Text.trimLeft_eq_nil_iff]
  constructor
  · intro h
    -- what stands before the opener does not end with a blank
    cases hlast : (beforeOpener t).getLast? with
    | none => exact List.getLast?_eq_none_iff.1 hlast
    | some c =>
      have hblank := List.all_eq_true.1 h c (List.mem_of_getLast? hlast)
      rw [getLast?_of_run (stops_iff.2 rfl).1 hlast] at hblank
      cases hblank
  · intro h
    rw [h]
    rfl

/-- Brackets, one or two on each side, with nothing between them but blanks. -/
def IsBareTest (t : Text) : Prop :=
  ∃ double bs double', t = brackets '[' double ++ (bs ++ brackets ']' double') ∧ allBlank bs = true

/-- An opener with nothing to test before it. -/
def IsHollow (t : Text) : Prop :=
  t ∈ opener ∨ ∃ gap test o, t = gap ++ (test ++ o) ∧ allBlank gap = true ∧ IsBareTest test ∧ o ∈ opener

theorem exists_brackets_front {t : Text} (h : ['['] <+: t) :
    ∃ double m, t = brackets '[' double ++ m ∧ (double = false → m.head? ≠ some '[') := by
  obtain ⟨m, rfl⟩ := h
  by_cases hm : m.head? = some '['
  · obtain ⟨r, rfl⟩ := List.head?_eq_some_iff.1 hm
    exact ⟨true, r, rfl, nofun⟩
  · exact ⟨false, m, rfl, fun _ => hm⟩

theorem exists_brackets_back {t : Text} (h : [']'] <:+ t) :
    ∃ m double, t = m ++ brackets ']' double ∧ (double = false → m.getLast? ≠ some ']') := by
  obtain ⟨m, rfl⟩ := h
  by_cases hm : m.getLast? = some ']'
  · obtain ⟨r, rfl⟩ := List.getLast?_eq_some_iff.1 hm
    exact ⟨r, true, List.append_assoc .., nofun⟩
  · exact ⟨m, false, rfl, fun _ => hm⟩

/-- A text with a bracket at each end is brackets around something: the two kinds of brackets do not overlap. -/
theorem exists_between {t : Text} (hstart : ['['] <+: t) (hend : [']'] <:+ t) :
    ∃ double m double', t = brackets '[' double ++ (m ++ brackets ']' double') ∧
      (double = false → (m ++ brackets ']' double').head? ≠ some '[') ∧
      (double' = false → (brackets '[' double ++ m).getLast? ≠ some ']') := by
  obtain ⟨double, r, rfl, hfront⟩ := exists_brackets_front hstart
  obtain ⟨r', double', ht, hback⟩ := exists_brackets_back hend
  rcases List.append_eq_append_iff.1 ht with ⟨m, rfl, rfl⟩ | ⟨m, hm, hm'⟩
  · exact ⟨double, m, double', rfl, hfront, hback⟩
  · have hnil : m = [] := by
      cases m with
      | nil => rfl
      | cons c m =>
        have hopen : c ∈ brackets '[' double := by rw [hm]; simp
        have hclose : c ∈ brackets ']' double' := by rw [hm']; simp
        cases double <;> cases double' <;> simp [brackets] at hopen hclose <;> simp [hopen] at hclose
    subst hnil
    rw [List.append_nil] at hm
    rw [List.nil_append] at hm'
    subst hm hm'
    exact ⟨double, [], double', rfl, hfront, by rwa [List.append_nil]⟩

theorem dropBrackets_of_isBareTest {t : Text} (h : IsBareTest t) : dropBrackets t = [] := by
  obtain ⟨double, bs, double', rfl, hbs⟩ := h
  have hbracket : ∀ {c : Char}, isBlank c = false → c ∉ bs := fun hc => Text.not_mem_of_allBlank hbs hc
  rw [dropBrackets_between, Text.trim_eq_nil_iff.2 hbs]
  · rfl
  · intro _ hhead
    rw [List.head?_append] at hhead
    cases hbs' : bs.head? with
    | none => cases double' <;> simp [hbs', brackets] at hhead
    | some c =>
      obtain rfl : c = '[' := by simpa [hbs'] using hhead
      exact hbracket rfl (List.mem_of_head? hbs')
  · intro _ hlast
    rw [List.getLast?_append] at hlast
    cases hbs' : bs.getLast? with
    | none => cases double <;> simp [hbs', brackets] at hlast
    | some c =>
      obtain rfl : c = ']' := by simpa [hbs'] using hlast
      exact hbracket rfl (List.mem_of_getLast? hbs')

theorem dropBrackets_eq_nil_iff {t : Text} (ht : Tight t) : dropBrackets t = [] ↔ t = [] ∨ IsBareTest t := by
  constructor
  · intro h
    by_cases hends : ['['] <+: t ∧ [']'] <:+ t
    · obtain ⟨double, m, double', rfl, hfront, hback⟩ := exists_between hends.1 hends.2
      rw [dropBrackets_between hfront hback] at h
      split at h
      · exact .inl h
      · exact .inr ⟨double, m, double', rfl, Text.trim_eq_nil_iff.1 h⟩
    · rw [← Text.startsWith_iff, ← List.isSuffixOf_iff_suffix, ← Bool.and_eq_true] at hends
      unfold dropBrackets Text.endsWith at h
      rw [Text.trim_of_tight ht] at h
      simp only [hends] at h
      exact .inl h
  · rintro (rfl | h)
    · rfl
    · exact dropBrackets_of_isBareTest h

theorem IsBareTest.suffix {t : Text} (h : IsBareTest t) : [']'] <:+ t := by
  obtain ⟨double, bs, double', rfl, -⟩ := h
  rw [← List.append_assoc]
  exact suffix_brackets _ _

theorem IsBareTest.tight {t : Text} (h : IsBareTest t) : Tight t := by
  refine tight_of_brackets ?_ h.suffix
  obtain ⟨double, bs, double', rfl, -⟩ := h
  exact prefix_brackets _ _

/-- **A condition comes out empty exactly if there is nothing to test.** -/
theorem normalize_eq_nil_iff {t : Text} : normalize t = [] ↔ IsHollow t := by
  unfold normalize IsHollow
  rw [withSymbols_eq_nil_iff, dropBrackets_eq_nil_iff (tight_dropOpener t), dropOpener_eq_nil_iff]
  refine or_congr_right ⟨fun h => ?_, ?_⟩
  · obtain ⟨o, ho, ht⟩ := exists_opener t
    obtain ⟨gap, hgap, hblank⟩ := Text.exists_trimLeft (beforeOpener t)
    refine ⟨gap, dropOpener t, o, ?_, List.all_eq_true.2 hblank, h, ho⟩
    rw [dropOpener_eq, ← List.append_assoc, ← hgap, ← ht]
  · rintro ⟨gap, test, o, rfl, hgap, htest, ho⟩
    rwa [← List.append_assoc, dropOpener_append _ ho, dropOpener_bracket hgap htest.tight htest.suffix]

end Condition

theorem ConditionWord.exists_of_kind {s : Settings} {d : Dialect} {t : Text}
    (h : (Construct.ofText s d t).kind = .conditional ∨ (Construct.ofText s d t).kind = .whileLoop) :
    ∃ (k : ConditionWord) (c : Char) (rest : Text), t = k.keyword.source ++ c :: rest ∧ isBlank c = true ∧
      Construct.ofText s d t = k.construct rest := by
  obtain ⟨hfits, hfirst⟩ := Construct.isFirstFit_ofText s d t
  obtain ⟨k, hopens, hkind⟩ : ∃ k : ConditionWord, Opens k.keyword.source t ∧
      (Construct.ofText s d t).kind = k.keyword.kind := by
    rcases h with h | h
    · rw [h] at hfits
      obtain ⟨word, hopens⟩ := hfits
      exact ⟨.branch word, hopens, h⟩
    · rw [h] at hfits
      exact ⟨.whileWord, hfits, h⟩
  obtain ⟨c, rest, rfl, hc⟩ := hopens
  have hassign := hfirst .assignment (hkind ▸ k.keyword.assignment_precedes)
  exact ⟨k, c, rest, rfl, hc, ConditionWord.ofText_eq s d k hc hassign⟩

/-! ## Loops over items -/

/-- **The parts of a loop**, if the keyword has a blank of its own: what stands between it and the first separator, and
what stands behind the separator. -/
theorem Construct.exists_loopParts {t : Text} (hopens : Opens "for".toList t) (hin : ¬ "for in ".toList <+: t)
    (hcounting : loopParts t ≠ .forCounting) :
    ∃ (c : Char) (between items : Text), t = "for".toList ++ c :: (between ++ (" in ".toList ++ items)) ∧
      isBlank c = true ∧ (∀ b a, t = b ++ (" in ".toList ++ a) → between.length + 4 ≤ b.length) ∧
      loopParts t = .forEach (trim between) items := by
  obtain ⟨c, rest, rfl, hc⟩ := hopens
  cases hcut : Text.cut? " in ".toList ("for".toList ++ c :: rest) with
  | none => exact absurd (by unfold loopParts; rw [hcut]) hcounting
  | some p =>
    obtain ⟨head, items⟩ := p
    have hleast := Text.length_le_of_cut? (by decide) hcut
    have hfor : ∀ c ∈ "for".toList, isBlank c = false := fun _ => Keyword.forLoop.isIdentifier.not_isBlank
    have hmap := hcut
    rw [Text.cut?_word hfor] at hmap
    obtain ⟨⟨front, items'⟩, hfront, heq⟩ := Option.map_eq_some_iff.1 hmap
    obtain ⟨rfl, rfl⟩ := Prod.mk.inj heq
    have hrest := Text.eq_of_cut? hfront
    cases front with
    | nil => exact absurd ⟨items', by rw [hrest]; rfl⟩ hin
    | cons c' between =>
      obtain ⟨rfl, rfl⟩ := List.cons.inj hrest
      refine ⟨c, between, items', rfl, hc, fun b a ht => ?_, ?_⟩
      · have hle := hleast b a ht
        have hthree : "for".toList.length = 3 := rfl
        rw [List.length_append, List.length_cons] at hle
        omega
      · have hafter : afterKeyword? "for".toList ("for".toList ++ c :: between) = some between :=
          afterKeyword?_eq_some_iff.2 ⟨c, rfl, hc⟩
        unfold loopParts
        rw [hcut]
        simp only [hafter, Option.getD_some]

namespace Outcome

/-- **What the headers without a diagnostic look like.**  A condition is what follows the keyword, normalised, and is
empty exactly if there is nothing to test.  A loop has the variables between its keyword and the first separator and the
items behind it, and either is empty exactly if nothing but blanks or an opener stands there. -/
theorem clean_header (s : Settings) (d : Dialect) (l : Line) (h : (ofLine s d l).diagnostic = none) :
    ((ofLine s d l).kind = .conditional ∨ (ofLine s d l).kind = .whileLoop →
      ∃ (k : ConditionWord) (c : Char) (rest : Text), l.text = k.keyword.source ++ c :: rest ∧ isBlank c = true ∧
        ofLine s d l = ⟨k.keyword.kind, [k.target ++ [' '] ++ Condition.normalize rest ++ [':']], none⟩ ∧
        (Condition.normalize rest = [] ↔ Condition.IsHollow rest)) ∧
    ((ofLine s d l).kind = .forLoop → ¬ "for in ".toList <+: l.text →
      ∃ (c : Char) (between items : Text), l.text = "for".toList ++ c :: (between ++ (" in ".toList ++ items)) ∧
        isBlank c = true ∧ (∀ b a, l.text = b ++ (" in ".toList ++ a) → between.length + 4 ≤ b.length) ∧
        ofLine s d l = ⟨.forLoop,
          ["for ".toList ++ trim between ++ " in ".toList ++ Condition.dropOpener items ++ [':']], none⟩ ∧
        (trim between = [] ↔ allBlank between = true) ∧ (Condition.dropOpener items = [] ↔ items ∈ opener)) := by
  rw [ofLine_kind]
  constructor
  · intro hkind
    obtain ⟨k, c, rest, ht, hc, hconstruct⟩ := ConditionWord.exists_of_kind hkind
    refine ⟨k, c, rest, ht, hc, ?_, Condition.normalize_eq_nil_iff⟩
    unfold ofLine
    rw [hconstruct, ConditionWord.ofConstruct_eq]
  · intro hkind hin
    have hopens : Opens "for".toList l.text := by
      have hfits := (Construct.isFirstFit_ofText s d l.text).1
      unfold Line.kind at hkind
      rwa [hkind] at hfits
    have hparts := Construct.ofText_eq_loopParts hkind
    have hcounting : Construct.loopParts l.text ≠ .forCounting := by
      intro hloop
      unfold ofLine at h
      rw [hparts, hloop] at h
      cases h
    obtain ⟨c, between, items, ht, hc, hfirst, hloop⟩ := Construct.exists_loopParts hopens hin hcounting
    refine ⟨c, between, items, ht, hc, hfirst, ?_, Text.trim_eq_nil_iff, Condition.dropOpener_eq_nil_iff⟩
    unfold ofLine
    rw [hparts, hloop]
    rfl

/-- **A loop that names no variable takes its keyword for one**, without a diagnostic, where the keyword and the separator
share their blank. -/
theorem nameless_loop (s : Settings) (d : Dialect) {l : Line} {items : Text} (ht : l.text = "for in ".toList ++ items)
    (hkind : (ofLine s d l).kind = .forLoop) :
    ofLine s d l = ⟨.forLoop, ["for for in ".toList ++ Condition.dropOpener items ++ [':']], none⟩ := by
  rw [ofLine_kind] at hkind
  have hparts := Construct.ofText_eq_loopParts hkind
  have hloop : Construct.loopParts ("for in ".toList ++ items) = .forEach "for".toList items := rfl
  unfold ofLine
  rw [hparts, ht, hloop]
  rfl

/-- Such a header is none of those that `clean_header` describes. -/
theorem nameless_loop_named_for :
    ofLine {} .general ⟨1, "for in x; do".toList⟩ = ⟨.forLoop, ["for for in x:".toList], none⟩ ∧
    ∀ (c : Char) (between items : Text),
      "for in x; do".toList ≠ "for".toList ++ c :: (between ++ (" in ".toList ++ items)) := by
  refine ⟨by decide, fun c between items h => ?_⟩
  have h' : "for".toList ++ ' ' :: "in x; do".toList = "for".toList ++ c :: (between ++ (" in ".toList ++ items)) := h
  have hrest := (List.cons.inj (List.append_cancel_left h')).2
  have hcut : ¬ " in ".toList <:+: "in x; do".toList := by decide
  exact hcut ⟨between, items, by rw [hrest, List.append_assoc]⟩

theorem length_loop_header (names items : Text) :
    ("for ".toList ++ names ++ " in ".toList ++ items ++ [':']).length = names.length + items.length + 9 := by
  have hfor : "for ".toList.length = 4 := rfl
  have hin : " in ".toList.length = 4 := rfl
  simp only [List.length_append, List.length_singleton]
  omega

/-- Brackets around blanks, and a loop that names neither a variable nor items. -/
theorem clean_header_of_hollow_lines :
    ((ofLine {} .general ⟨1, "while [[  ]]; do".toList⟩).diagnostic = none ∧
      (ofLine {} .general ⟨1, "while [[  ]]; do".toList⟩).kind = .whileLoop ∧
      (ofLine {} .general ⟨2, "for  in ; do".toList⟩).diagnostic = none ∧
      (ofLine {} .general ⟨2, "for  in ; do".toList⟩).kind = .forLoop ∧
      ¬ "for in ".toList <+: Line.text ⟨2, "for  in ; do".toList⟩) ∧
    (∃ rest, ofLine {} .general ⟨1, "while [[  ]]; do".toList⟩ =
        ⟨.whileLoop, ["while ".toList ++ Condition.normalize rest ++ [':']], none⟩ ∧ Condition.IsHollow rest) ∧
    ∃ between items, ofLine {} .general ⟨2, "for  in ; do".toList⟩ =
        ⟨.forLoop, ["for ".toList ++ trim between ++ " in ".toList ++ Condition.dropOpener items ++ [':']], none⟩ ∧
      allBlank between = true ∧ items ∈ opener := by
  refine ⟨by decide, ?_, ?_⟩
  · obtain ⟨k, c, rest, ht, hc, hline, hnil⟩ :=
      (clean_header {} .general ⟨1, "while [[  ]]; do".toList⟩ (by decide)).1 (by decide)
    have hresult : ofLine {} .general ⟨1, "while [[  ]]; do".toList⟩ = ⟨.whileLoop, ["while :".toList], none⟩ := by decide
    cases k with
    | branch word => cases (congrArg Outcome.kind (hresult.symm.trans hline))
    | whileWord =>
      refine ⟨rest, hline, hnil.1 ?_⟩
      have hlines := congrArg Outcome.lines (hresult.symm.trans hline)
      simpa [ConditionWord.target] using hlines
  · obtain ⟨c, between, items, ht, hc, -, hline, hvar, hitems⟩ :=
      (clean_header {} .general ⟨2, "for  in ; do".toList⟩ (by decide)).2 (by decide) (by decide)
    have hresult : ofLine {} .general ⟨2, "for  in ; do".toList⟩ = ⟨.forLoop, ["for  in :".toList], none⟩ := by decide
    have hheader := (List.cons.inj (congrArg Outcome.lines (hresult.symm.trans hline))).1
    have hlength : 9 = _ := (congrArg List.length hheader).trans (length_loop_header _ _)
    exact ⟨between, items, hline, hvar.1 (List.length_eq_zero_iff.1 (by omega)),
      hitems.1 (List.length_eq_zero_iff.1 (by omega))⟩

/-- A condition and the items of a loop may be missing without a diagnostic. -/
theorem clean_header_may_be_hollow :
    ofLine {} .general ⟨1, "while [ ]; do".toList⟩ = ⟨.whileLoop, ["while :".toList], none⟩ ∧
    ofLine {} .general ⟨1, "for a in ; do".toList⟩ = ⟨.forLoop, ["for a in :".toList], none⟩ ∧
    (∀ condition, "while :".toList = "while ".toList ++ condition ++ [':'] → condition = []) ∧
    ∀ names items, "for a in :".toList = "for ".toList ++ names ++ " in ".toList ++ items ++ [':'] → items = [] := by
  refine ⟨by decide, by decide, fun condition h => ?_, fun names items h => ?_⟩
  · simpa using h
  · have hlength : 10 = _ := (congrArg List.length h).trans (length_loop_header names items)
    cases names with
    | nil => simp at h
    | cons c names =>
      rw [List.length_cons] at hlength
      exact List.length_eq_zero_iff.1 (by omega)

end Outcome
end Scriptwright
