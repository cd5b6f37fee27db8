import Scriptwright.Proofs.Keywords
import Scriptwright.Proofs.Openers
/-!
# Headers of blocks

A header that is written as scripts write it is converted exactly.  Of a test in brackets behind `if`, `elif`, `elsif` or
`while` the brackets and the opener go and the operators become symbols, whatever the test holds (`tested_header`).  Of
a loop over items the variable and the items stay as they are and the opener goes, whatever the items hold
(`loop_header`).

The two ends of a line are looked at on their own.  The keyword in front settles the construct, since neither a bracket
nor a variable is an equals sign; the opener at the end goes up to the bracket or the last item, whatever stands before
it.
-/
namespace Scriptwright

open Text (isBlank allBlank trim trimLeft trimRight Tight IsIdentifier)
open Construct (Opens)
open Condition (opener)

/-! ## The line between its ends -/

namespace Line

/-- The text of a line of which the first and the last piece are known, up to what follows the last. -/
theorem text_between {lead x y : Text} (hlead : allBlank lead = true) (hx : Tight x) (hy : Tight y) (hxne : x ≠ [])
    (hyne : y ≠ []) (n : Int) (m tail : Text) :
    Line.text ⟨n, lead ++ (x ++ (m ++ (y ++ tail)))⟩ = x ++ (m ++ (y ++ trimRight tail)) := by
  have hne : x ++ (m ++ y) ≠ [] := by simp [hxne]
  calc trim (lead ++ (x ++ (m ++ (y ++ tail)))) = trim (x ++ (m ++ (y ++ tail))) := Text.trim_blanks_append hlead _
    _ = trim (x ++ (m ++ y) ++ tail) := by simp only [List.append_assoc]
    _ = x ++ (m ++ y) ++ trimRight tail := Text.trim_append_of_tight (hx.around hy hxne hyne m) hne tail
    _ = x ++ (m ++ (y ++ trimRight tail)) := by simp only [List.append_assoc]

end Line

theorem Assignment.not_signInFront {c : Char} (hc : isBlank c = false) (hne : c ≠ '=') (r : Text) :
    ¬ Assignment.SignInFront (c :: r) := by
  rintro ⟨value, hvalue, -⟩
  have hsame : trimLeft (c :: r) = c :: r := Text.trimLeft_of_head? fun a ha => by
    obtain rfl : c = a := by simpa using ha
    exact hc
  rw [hsame] at hvalue
  exact hne (List.cons.inj hvalue).1

theorem Assignment.not_signInFront_identifier {v : Text} (hv : IsIdentifier v) (r : Text) :
    ¬ Assignment.SignInFront (v ++ r) := by
  have hblank : ∀ c ∈ v, isBlank c = false := fun _ => hv.not_isBlank
  obtain ⟨c, w, rfl, hc, -⟩ := hv
  refine Assignment.not_signInFront (hblank c List.mem_cons_self) ?_ _
  rintro rfl
  cases hc

/-! ## Words that a condition follows -/

/-- The words that a condition follows. -/
inductive ConditionWord where
  | branch (word : BranchWord)
  | whileWord

namespace ConditionWord

def keyword : ConditionWord → Keyword
  | .branch word => .branch word
  | .whileWord => .whileLoop

/-- The word of the target. -/
def target : ConditionWord → Text
  | .branch word => word.target
  | .whileWord => "while".toList

def construct (condition : Text) : ConditionWord → Construct
  | .branch word => .conditional word condition
  | .whileWord => .whileLoop condition

theorem conditional?_eq_some {word : BranchWord} {c : Char} (hc : isBlank c = true) (rest : Text) :
    Construct.conditional? (word.source ++ c :: rest) = some (.conditional word rest) := by
  have hopens : Opens (Keyword.branch word).source (word.source ++ c :: rest) := ⟨c, rest, rfl, hc⟩
  obtain ⟨found, hfound⟩ := Option.isSome_iff_exists.1 (Construct.conditional?_isSome_iff.2 ⟨word, hopens⟩)
  obtain ⟨-, word', -, -, hword', -⟩ := List.findSome?_eq_some_iff.1 hfound
  obtain ⟨rest', hrest', rfl⟩ := Option.map_eq_some_iff.1 hword'
  -- no two branch words begin the same text
  have hsame := Keyword.eq_of_opens hopens (.branch word')
    (Construct.afterKeyword?_isSome_iff.1 (Option.isSome_of_eq_some hrest'))
  obtain rfl : word' = word := Keyword.branch.inj hsame
  rw [Construct.afterKeyword?_eq_some_iff.2 ⟨c, rfl, hc⟩] at hrest'
  rw [hfound, Option.some.inj hrest']

theorem ofText_eq (s : Settings) (d : Dialect) (k : ConditionWord) {c : Char} {rest : Text} (hc : isBlank c = true)
    (h : ¬ Kind.Fits s d (k.keyword.source ++ c :: rest) .assignment) :
    Construct.ofText s d (k.keyword.source ++ c :: rest) = k.construct rest := by
  refine Construct.ofText_of_isFirstFit (Keyword.isFirstFit_kind ⟨c, rest, rfl, hc⟩ h) ?_
  cases k with
  | branch word => exact conditional?_eq_some hc rest
  | whileWord =>
    have hafter : Construct.afterKeyword? "while".toList ("while".toList ++ c :: rest) = some rest :=
      Construct.afterKeyword?_eq_some_iff.2 ⟨c, rfl, hc⟩
    exact congrArg (Option.map Construct.whileLoop) hafter

theorem ofConstruct_eq (s : Settings) (l : Line) (k : ConditionWord) (condition : Text) :
    Outcome.ofConstruct s l (k.construct condition) =
      ⟨k.keyword.kind, [k.target ++ [' '] ++ Condition.normalize condition ++ [':']], none⟩ := by
  cases k <;> rfl

end ConditionWord

/-! ## Tests in brackets -/

namespace Condition

theorem hasInnerTest_eq_true_iff : ∀ {t : Text}, hasInnerTest t = true ↔
    ∃ b, isBlank b = true ∧ ([b, ']'] <:+: t ∨ ['[', b] <:+: t)
  | [] => by simp [hasInnerTest]
  | [a] => by
    simp only [hasInnerTest, Bool.false_eq_true, false_iff, not_exists, not_and, not_or]
    refine fun b _ => ⟨fun h => ?_, fun h => ?_⟩ <;> exact absurd h.length_le (by simp)
  | a :: b :: rest => by
    have hpair : ∀ x y : Char, [x, y] <:+: a :: b :: rest ↔ (x = a ∧ y = b) ∨ [x, y] <:+: b :: rest := by
      intro x y
      rw [List.infix_cons_iff, List.cons_prefix_cons, List.cons_prefix_cons]
      simp
    rw [hasInnerTest, Bool.or_eq_true, Bool.or_eq_true, Bool.and_eq_true, Bool.and_eq_true, beq_iff_eq, beq_iff_eq,
      hasInnerTest_eq_true_iff]
    simp only [hpair]
    constructor
    · rintro ((⟨ha, rfl⟩ | ⟨rfl, hb⟩) | ⟨x, hx, h | h⟩)
      · exact ⟨a, ha, .inl (.inl ⟨rfl, rfl⟩)⟩
      · exact ⟨b, hb, .inr (.inl ⟨rfl, rfl⟩)⟩
      · exact ⟨x, hx, .inl (.inr h)⟩
      · exact ⟨x, hx, .inr (.inr h)⟩
    · rintro ⟨x, hx, (⟨rfl, rfl⟩ | h) | (⟨rfl, rfl⟩ | h)⟩
      · exact .inl (.inl ⟨hx, rfl⟩)
      · exact .inr ⟨x, hx, .inl h⟩
      · exact .inl (.inr ⟨rfl, hx⟩)
      · exact .inr ⟨x, hx, .inr h⟩

theorem hasInnerTest_eq_false_iff {t : Text} : hasInnerTest t = false ↔
    ∀ b, isBlank b = true → ¬ [b, ']'] <:+: t ∧ ¬ ['[', b] <:+: t := by
  rw [← Bool.not_eq_true, hasInnerTest_eq_true_iff]
  simp only [not_exists, not_and, not_or]

/-- One bracket, or two of them. -/
def brackets (bracket : Char) (double : Bool) : Text := if double then [bracket, bracket] else [bracket]

theorem prefix_brackets (double : Bool) (m : Text) : ['['] <+: brackets '[' double ++ m := by
  cases double <;> exact ⟨_, rfl⟩

theorem suffix_brackets (m : Text) (double : Bool) : [']'] <:+ m ++ brackets ']' double := by
  cases double
  · exact List.suffix_append _ _
  · exact ⟨m ++ [']'], List.append_assoc ..⟩

theorem tight_of_brackets {t : Text} (hstart : ['['] <+: t) (hend : [']'] <:+ t) : Tight t := by
  obtain ⟨r, hr⟩ := hstart
  obtain ⟨r', hr'⟩ := hend
  refine ⟨fun c hc => ?_, fun c hc => ?_⟩
  · obtain rfl : '[' = c := by simpa [← hr] using hc
    rfl
  · obtain rfl : ']' = c := by simpa [← hr'] using hc
    rfl

theorem startsWith_brackets {double : Bool} {m : Text} (hm : double = false → m.head? ≠ some '[') :
    Text.startsWith (brackets '[' double ++ m) ['[', '['] = double := by
  rw [Bool.eq_iff_iff, Text.startsWith_iff]
  cases double with
  | true => exact iff_of_true ⟨m, rfl⟩ rfl
  | false =>
    refine iff_of_false ?_ Bool.false_ne_true
    rintro ⟨r, hr⟩
    obtain rfl : '[' :: r = m := by simpa [brackets] using hr
    exact hm rfl rfl

theorem endsWith_brackets {double : Bool} {m : Text} (hm : double = false → m.getLast? ≠ some ']') :
    Text.endsWith (m ++ brackets ']' double) [']', ']'] = double := by
  unfold Text.endsWith
  rw [Bool.eq_iff_iff, List.isSuffixOf_iff_suffix]
  cases double with
  | true => exact iff_of_true ⟨m, rfl⟩ rfl
  | false =>
    refine iff_of_false ?_ Bool.false_ne_true
    rintro ⟨r, hr⟩
    obtain rfl : r ++ [']'] = m := by
      rw [show ([']', ']'] : Text) = [']'] ++ [']'] from rfl, ← List.append_assoc] at hr
      exact List.append_cancel_right hr
    exact hm rfl (by simp)

/-- **The brackets at the two ends go, unless a test stands between them.**  A single bracket is told from a double one
by what stands next to it. -/
theorem dropBrackets_between {double double' : Bool} {m : Text}
    (hfront : double = false → (m ++ brackets ']' double').head? ≠ some '[')
    (hback : double' = false → (brackets '[' double ++ m).getLast? ≠ some ']') :
    dropBrackets (brackets '[' double ++ (m ++ brackets ']' double')) =
      if hasInnerTest (trim m) then brackets '[' double ++ (m ++ brackets ']' double') else trim m := by
  have hdouble := startsWith_brackets hfront
  have hdouble' := endsWith_brackets hback
  have hlen : (if double then 2 else 1) = (brackets '[' double).length := by cases double <;> rfl
  have hlen' : (if double' then 2 else 1) = (brackets ']' double').length := by cases double' <;> rfl
  rw [List.append_assoc] at hdouble'
  have hstart := prefix_brackets double (m ++ brackets ']' double')
  have hend := suffix_brackets (brackets '[' double ++ m) double'
  rw [List.append_assoc] at hend
  generalize ht : brackets '[' double ++ (m ++ brackets ']' double') = t at hdouble hdouble' hstart hend ⊢
  have htight := tight_of_brackets hstart hend
  have hinner : (t.take (t.length - (brackets ']' double').length)).drop (brackets '[' double).length = m := by
    rw [← ht, ← List.append_assoc, List.length_append, Nat.add_sub_cancel, List.take_left, List.drop_left]
  unfold dropBrackets Text.endsWith at *
  simp only [Text.trim_of_tight htight, Text.startsWith_iff.2 hstart, List.isSuffixOf_iff_suffix.2 hend, hdouble, hdouble',
    hlen, hlen', hinner]
  rfl

/-- A test as scripts write it, in single or double brackets with blanks on their inner sides.  In the test itself, the
blanks around it apart, no closing bracket follows a blank and no opening one is followed by a blank. -/
structure BracketedTest where
  double : Bool
  left : Text
  test : Text
  right : Text
  left_blank : allBlank left = true
  left_ne_nil : left ≠ []
  right_blank : allBlank right = true
  right_ne_nil : right ≠ []
  no_test_inside : ∀ b, isBlank b = true → ¬ [b, ']'] <:+: trim test ∧ ¬ ['[', b] <:+: trim test

namespace BracketedTest

variable (b : BracketedTest)

def text : Text := brackets '[' b.double ++ (b.left ++ (b.test ++ (b.right ++ brackets ']' b.double)))

theorem text_eq : b.text = brackets '[' b.double ++ (b.left ++ (b.test ++ b.right) ++ brackets ']' b.double) := by
  simp only [text, List.append_assoc]

theorem exists_cons : ∃ r, b.text = '[' :: r := by
  obtain ⟨r, hr⟩ : ['['] <+: b.text := b.text_eq ▸ prefix_brackets _ _
  exact ⟨r, hr.symm⟩

theorem suffix_text : [']'] <:+ b.text := by
  rw [b.text_eq, ← List.append_assoc]
  exact suffix_brackets _ _

theorem ne_nil : b.text ≠ [] := by
  obtain ⟨r, hr⟩ := b.exists_cons
  rw [hr]
  exact List.cons_ne_nil _ _

theorem tight : Tight b.text := tight_of_brackets (b.text_eq ▸ prefix_brackets _ _) b.suffix_text

/-- **A test loses its brackets and the blanks inside them.** -/
theorem dropBrackets_text : dropBrackets b.text = trim b.test := by
  have hinside : hasInnerTest (trim b.test) = false := hasInnerTest_eq_false_iff.2 b.no_test_inside
  rw [b.text_eq, dropBrackets_between, Text.trim_between_blanks b.left_blank b.right_blank, hinside]
  · rfl
  · -- a blank stands next to each bracket
    intro _ hhead
    obtain ⟨c, left, hleft⟩ := List.exists_cons_of_ne_nil b.left_ne_nil
    obtain rfl : c = '[' := by simpa [hleft] using hhead
    exact Text.not_mem_of_allBlank b.left_blank (c := '[') rfl (by rw [hleft]; simp)
  · intro _ hlast
    obtain ⟨right, c, hright⟩ := (List.eq_nil_or_concat' b.right).resolve_left b.right_ne_nil
    obtain rfl : c = ']' := by simpa [hright, List.getLast?_append] using hlast
    exact Text.not_mem_of_allBlank b.right_blank (c := ']') rfl (by rw [hright]; simp)

end BracketedTest

theorem beforeOpener_bracket (t : Text) : beforeOpener (t ++ [']']) = t ++ [']'] := by
  unfold beforeOpener
  rw [List.reverse_append]
  show (dropReversedOpeners (']' :: t.reverse)).reverse = _
  rw [dropReversedOpeners] <;> simp [show isBlank ']' = false from rfl]

theorem dropOpener_bracket {gap t : Text} (hgap : allBlank gap = true) (ht : Tight t) (hend : [']'] <:+ t) :
    dropOpener (gap ++ t) = t := by
  obtain ⟨r, rfl⟩ := hend
  have hrest : beforeOpener (gap ++ (r ++ [']'])) = gap ++ (r ++ [']']) := by
    rw [← List.append_assoc]
    exact beforeOpener_bracket (gap ++ r)
  rw [dropOpener_eq, hrest, trimLeft, List.dropWhile_append_of_pos (List.all_eq_true.1 hgap)]
  exact Text.trimLeft_of_head? ht.1

theorem normalize_test (b : BracketedTest) {gap o : Text} (hgap : allBlank gap = true) (ho : o ∈ opener) :
    normalize (gap ++ (b.text ++ trimRight o)) = withSymbols (trim b.test) := by
  rw [normalize, ← List.append_assoc, dropOpener_append_trimRight _ ho, dropOpener_bracket hgap b.tight b.suffix_text,
    b.dropBrackets_text]

end Condition

/-- **A header with a test in brackets is converted exactly.**  Its word is written as the target spells it, the test
without the brackets and the blanks around it and with symbols for operators, and there is no diagnostic; in every
dialect and with all settings, whatever signs, words, brackets or commands the test holds. -/
theorem Outcome.tested_header (s : Settings) (d : Dialect) (n : Int) (k : ConditionWord) (b : Condition.BracketedTest)
    (lead gap o trail : Text) (hlead : allBlank lead = true) (hgap : allBlank gap = true) (hne : gap ≠ [])
    (ho : o ∈ opener) (htrail : allBlank trail = true) :
    ofLine s d ⟨n, lead ++ (k.keyword.source ++ (gap ++ (b.text ++ (o ++ trail))))⟩ =
      ⟨k.keyword.kind, [k.target ++ [' '] ++ Condition.withSymbols (trim b.test) ++ [':']], none⟩ := by
  have hword := k.keyword.isIdentifier
  have htext := Line.text_between hlead hword.tight b.tight hword.ne_nil b.ne_nil n gap (o ++ trail)
  have hassign : ¬ Kind.Fits s d (k.keyword.source ++ (gap ++ (b.text ++ trimRight (o ++ trail)))) .assignment := by
    rw [Keyword.fits_assignment_iff hgap hne]
    obtain ⟨r, hr⟩ := b.exists_cons
    rw [hr]
    exact Assignment.not_signInFront rfl (by decide) _
  have hopener : o ++ trail ∈ opener := Condition.append_blanks_mem_opener ho htrail
  obtain ⟨c, gap, rfl⟩ := List.exists_cons_of_ne_nil hne
  obtain ⟨hc, hblank⟩ := Text.allBlank_cons.1 hgap
  have hconstruct : Construct.ofText s d (k.keyword.source ++ (c :: gap ++ (b.text ++ trimRight (o ++ trail)))) =
      k.construct (gap ++ (b.text ++ trimRight (o ++ trail))) :=
    ConditionWord.ofText_eq s d k hc hassign
  unfold ofLine
  rw [htext, hconstruct, ConditionWord.ofConstruct_eq, Condition.normalize_test b hblank hopener]

/-- A test with signs, a subscript, a command and an opener of its own. -/
theorem Outcome.tested_header_of_comparison :
    (allBlank "\t".toList = true ∧ allBlank "  ".toList = true ∧ "; then\x7b".toList ∈ opener) ∧
    ofLine {} .dataProcessing ⟨7, "\telsif  [[ $a[1] -eq cat f == n=2; do ]]; then\x7b ".toList⟩ =
      ⟨.conditional, ["elif $a[1] == cat f == n=2; do:".toList], none⟩ := by
  have hopener : "; then\x7b".toList ∈ opener := by decide
  obtain ⟨b, hb, htest⟩ : ∃ b : Condition.BracketedTest, b.text = "[[ $a[1] -eq cat f == n=2; do ]]".toList ∧
      b.test = "$a[1] -eq cat f == n=2; do".toList :=
    ⟨⟨true, [' '], _, [' '], rfl, by decide, rfl, by decide, Condition.hasInnerTest_eq_false_iff.1 (by decide)⟩,
      by decide, rfl⟩
  have hraw : "\telsif  [[ $a[1] -eq cat f == n=2; do ]]; then\x7b ".toList = "\t".toList ++
      ((ConditionWord.branch .elsifWord).keyword.source ++ ("  ".toList ++ (b.text ++ ("; then\x7b".toList ++ [' '])))) := by
    rw [hb]
    decide
  refine ⟨⟨rfl, rfl, hopener⟩, ?_⟩
  rw [hraw, tested_header {} .dataProcessing 7 _ b _ _ _ _ rfl rfl (by decide) hopener rfl, htest]
  decide

/-! ## Loops over items -/

namespace Text

/-- A word holds no separator. -/
theorem cut?_word {w : Text} (hw : ∀ c ∈ w, isBlank c = false) (t : Text) :
    cut? " in ".toList (w ++ t) = (cut? " in ".toList t).map fun p => (w ++ p.1, p.2) := by
  induction w with
  | nil => simp
  | cons c w ih =>
    obtain ⟨hc, hrest⟩ := List.forall_mem_cons.1 hw
    have hnot : ¬ " in ".toList.isPrefixOf (c :: (w ++ t)) = true := by
      rw [List.isPrefixOf_iff_prefix]
      rintro hpre
      obtain ⟨rfl, -⟩ := List.cons_prefix_cons.1 hpre
      cases hc
    rw [List.cons_append, cut?, if_neg hnot, ih hrest, Option.map_map]
    rfl

/-- Blanks hold no separator, unless the word of the separator comes next. -/
theorem cut?_blanks {gap t : Text} (hgap : allBlank gap = true) (ht : ¬ "in ".toList <+: t) :
    cut? " in ".toList (gap ++ t) = (cut? " in ".toList t).map fun p => (gap ++ p.1, p.2) := by
  induction gap with
  | nil => simp
  | cons c gap ih =>
    obtain ⟨-, hrest⟩ := allBlank_cons.1 hgap
    have hnot : ¬ " in ".toList.isPrefixOf (c :: (gap ++ t)) = true := by
      rw [List.isPrefixOf_iff_prefix]
      rintro hpre
      obtain ⟨-, hpre⟩ := List.cons_prefix_cons.1 hpre
      cases gap with
      | nil => exact ht hpre
      | cons b gap =>
        obtain ⟨rfl, -⟩ := List.cons_prefix_cons.1 hpre
        cases (allBlank_cons.1 hrest).1
    rw [List.cons_append, cut?, if_neg hnot, ih hrest, Option.map_map]
    rfl

theorem cut?_separator (t : Text) : cut? " in ".toList (" in ".toList ++ t) = some ([], t) := by
  have hpre : " in ".toList.isPrefixOf (' ' :: ("in ".toList ++ t)) = true := List.isPrefixOf_iff_prefix.2 ⟨t, rfl⟩
  show cut? " in ".toList (' ' :: ("in ".toList ++ t)) = _
  rw [cut?, if_pos hpre]
  rfl

end Text

namespace Construct

/-- **The variable and the items of a loop**: the first ` in ` is the one behind the variable. -/
theorem loopParts_eq {v gap gap' : Text} (hv : IsIdentifier v) (hin : v ≠ "in".toList) (hgap : allBlank gap = true)
    (hne : gap ≠ []) (hgap' : allBlank gap' = true) (items : Text) :
    loopParts ("for".toList ++ (gap ++ (v ++ (gap' ++ (" in ".toList ++ items))))) = .forEach v items := by
  have hnext : ¬ "in ".toList <+: v ++ (gap' ++ (" in ".toList ++ items)) := by
    have hopens : Opens v (v ++ ((gap' ++ [' ']) ++ ("in ".toList ++ items))) :=
      opens_append (Text.allBlank_append.2 ⟨hgap', rfl⟩) (by simp) _
    have hword : IsIdentifier "in".toList := ⟨'i', ['n'], rfl, rfl, rfl⟩
    rw [List.append_assoc] at hopens
    rintro ⟨r, hr⟩
    exact hin (hopens.unique (fun _ => hv.not_isBlank) (fun _ => hword.not_isBlank) ⟨' ', r, hr.symm, rfl⟩)
  have hcut : Text.cut? " in ".toList ("for".toList ++ (gap ++ (v ++ (gap' ++ (" in ".toList ++ items))))) =
      some ("for".toList ++ (gap ++ (v ++ gap')), items) := by
    have hfor : ∀ c ∈ "for".toList, isBlank c = false := fun _ => Keyword.forLoop.isIdentifier.not_isBlank
    rw [Text.cut?_word hfor, Text.cut?_blanks hgap hnext, Text.cut?_word fun _ => hv.not_isBlank,
      Text.cut?_blanks hgap' (by simp), Text.cut?_separator]
    simp
  obtain ⟨c, gap, rfl⟩ := List.exists_cons_of_ne_nil hne
  obtain ⟨hc, hblank⟩ := Text.allBlank_cons.1 hgap
  have hafter : afterKeyword? "for".toList ("for".toList ++ (c :: gap ++ (v ++ gap'))) = some (gap ++ (v ++ gap')) :=
    afterKeyword?_eq_some_iff.2 ⟨c, rfl, hc⟩
  unfold loopParts
  rw [hcut]
  simp only [hafter, Option.getD_some, Text.trim_between_blanks hblank hgap', Text.trim_of_tight hv.tight]

theorem ofText_for {s : Settings} {d : Dialect} {t : Text} (hopens : Opens "for".toList t)
    (h : ¬ Kind.Fits s d t .assignment) : ofText s d t = loopParts t :=
  ofText_of_isFirstFit (Keyword.isFirstFit_kind (k := .forLoop) hopens h) rfl

end Construct

/-- **A loop over items is converted exactly.**  The variable and the items are written as they stand, the opener goes,
and there is no diagnostic; in every dialect and with all settings, whatever signs, words or commands the items hold. -/
theorem Outcome.loop_header (s : Settings) (d : Dialect) (n : Int) (lead gap v gap' items o : Text)
    (hlead : allBlank lead = true) (hgap : allBlank gap = true) (hne : gap ≠ []) (hv : IsIdentifier v)
    (hin : v ≠ "in".toList) (hgap' : allBlank gap' = true) (hitems : items ≠ [])
    (hkept : Condition.dropOpener items = items) (ho : o ∈ opener) :
    ofLine s d ⟨n, lead ++ ("for".toList ++ (gap ++ (v ++ (gap' ++ (" in ".toList ++ (items ++ o))))))⟩ =
      ⟨.forLoop, ["for ".toList ++ v ++ " in ".toList ++ items ++ [':']], none⟩ := by
  have htight : Tight items := hkept ▸ Condition.tight_dropOpener items
  have hfor : IsIdentifier "for".toList := Keyword.forLoop.isIdentifier
  have htext : Line.text ⟨n, lead ++ ("for".toList ++ (gap ++ (v ++ (gap' ++ (" in ".toList ++ (items ++ o))))))⟩ =
      "for".toList ++ (gap ++ (v ++ (gap' ++ (" in ".toList ++ (items ++ trimRight o))))) := by
    have := Line.text_between hlead hfor.tight htight hfor.ne_nil hitems n (gap ++ (v ++ (gap' ++ " in ".toList))) o
    simpa only [List.append_assoc] using this
  have hassign : ¬ Kind.Fits s d ("for".toList ++ (gap ++ (v ++ (gap' ++ (" in ".toList ++ (items ++ trimRight o)))))) .assignment := by
    rw [show "for".toList = Keyword.forLoop.source from rfl, Keyword.fits_assignment_iff hgap hne]
    exact Assignment.not_signInFront_identifier hv _
  unfold ofLine
  rw [htext, Construct.ofText_for (Construct.opens_append hgap hne _) hassign,
    Construct.loopParts_eq hv hin hgap hne hgap']
  show (⟨.forLoop, ["for ".toList ++ v ++ " in ".toList ++ Condition.dropOpener (items ++ trimRight o) ++ [':']], none⟩ :
    Outcome) = _
  rw [Condition.dropOpener_append_trimRight items ho, hkept]

/-- Items with a sign, a command and the separator itself. -/
theorem Outcome.loop_header_of_commands :
    (IsIdentifier "item".toList ∧ Condition.dropOpener "$(cat a) in b=1".toList = "$(cat a) in b=1".toList ∧
      "; do ".toList ∈ opener) ∧
    ofLine {} .dataProcessing ⟨2, " for  item\t in $(cat a) in b=1; do ".toList⟩ =
      ⟨.forLoop, ["for item in $(cat a) in b=1:".toList], none⟩ := by
  have hv : IsIdentifier "item".toList := ⟨'i', "tem".toList, rfl, by decide, by decide⟩
  have hkept : Condition.dropOpener "$(cat a) in b=1".toList = "$(cat a) in b=1".toList := by decide
  have ho : "; do ".toList ∈ opener := by decide
  have hraw : " for  item\t in $(cat a) in b=1; do ".toList = " ".toList ++ ("for".toList ++ ("  ".toList ++
      ("item".toList ++ ("\t".toList ++ (" in ".toList ++ ("$(cat a) in b=1".toList ++ "; do ".toList)))))) := by
    decide
  refine ⟨⟨hv, hkept, ho⟩, ?_⟩
  rw [hraw, loop_header {} .dataProcessing 2 _ _ _ _ _ _ rfl rfl (by decide) hv (by decide) rfl (by decide) hkept ho]
  decide

end Scriptwright
