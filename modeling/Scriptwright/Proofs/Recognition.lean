import Mathlib.Data.List.Basic
import Scriptwright.Proofs.Search
import Scriptwright.Script.Construct
/-!
# Recognition

`Kind.Fits` says for each kind which form a text has, without a search: the first assignment sign stands behind a
target, a keyword and a blank stand in front, a command is a whole token.  The construct of a text is of the first kind,
in order of priority, whose form the text has (`isFirstFit_ofText`).

Who knows only the kind of a line can find its parts again: the search that belongs to the kind succeeds on the text and
gives the construct that the rules gave (`reread?_ofText`).  The parts are cut out of the text and nothing is added to
them (`parts_isInfix`).
-/
namespace Scriptwright

/-! ## Forms -/

/-- The text begins with the word and a blank. -/
def Construct.Opens (w t : Text) : Prop := ∃ c rest, t = w ++ c :: rest ∧ Text.isBlank c = true

open Construct (Opens)

namespace Kind

/-- The text has the form of the kind. -/
def Fits (s : Settings) (d : Dialect) (t : Text) : Kind → Prop
  | .blank => t = []
  | .comment => ['#'] <+: t
  | .assignment => ∃ before after, Assignment.FirstSign t before after ∧ Assignment.isTarget (Text.trim before) = true
  | .printLike => t = "echo".toList ∨ Opens "echo".toList t ∨ Opens "print".toList t
  | .conditional => ∃ w : BranchWord, Opens w.source t
  | .forLoop => Opens "for".toList t
  | .whileLoop => Opens "while".toList t
  | .fileRead => d = .dataProcessing ∧ Command.HasArgument "cat".toList t
  | .filterCommand => d = .dataProcessing ∧ Command.HasArgument "grep".toList t
  | .unsupportedCommand => ∃ w ∈ s.unsupportedCommands, w ≠ [] ∧ Command.IsTokenOf w t
  | .unclassified => True

/-- `a` is tried before `b`. -/
def Precedes (a b : Kind) : Prop := all.idxOf a < all.idxOf b

instance (a b : Kind) : Decidable (Precedes a b) := inferInstanceAs (Decidable (_ < _))

/-- The text has the form of `k` and of no kind that is tried before. -/
def IsFirstFit (s : Settings) (d : Dialect) (t : Text) (k : Kind) : Prop :=
  Fits s d t k ∧ ∀ k', Precedes k' k → ¬ Fits s d t k'

theorem mem_of_precedes {a b : Kind} {above below : List Kind} (hall : all = above ++ b :: below)
    (h : Precedes a b) : a ∈ above := by
  unfold Precedes at h
  by_cases ha : a ∈ above
  · exact ha
  · rw [hall, List.idxOf_append, List.idxOf_append, if_neg ha, List.idxOf_cons_self] at h
    split at h
    · have := List.idxOf_lt_length_of_mem ‹b ∈ above›
      omega
    · omega

theorem precedes_or_precedes {a b : Kind} (h : a ≠ b) : Precedes a b ∨ Precedes b a := by
  have hidx : all.idxOf a ≠ all.idxOf b := fun he => h ((List.idxOf_inj (mem_all a)).1 he)
  exact Nat.lt_or_gt_of_ne hidx

theorem IsFirstFit.unique {s : Settings} {d : Dialect} {t : Text} {a b : Kind} (ha : IsFirstFit s d t a)
    (hb : IsFirstFit s d t b) : a = b := by
  by_cases h : a = b
  · exact h
  · rcases precedes_or_precedes h with hab | hba
    · exact absurd ha.1 (hb.2 a hab)
    · exact absurd hb.1 (ha.2 b hba)

end Kind

/-! ## Rules and forms -/

namespace Construct

theorem blank?_isSome_iff {t : Text} : (blank? t).isSome = true ↔ t = [] := by
  cases t <;> simp [blank?]

theorem comment?_isSome_iff {t : Text} : (comment? t).isSome = true ↔ ['#'] <+: t := by
  unfold comment?
  split
  · simp
  · rename_i h
    simp only [Option.isSome_none, Bool.false_eq_true, false_iff]
    rintro ⟨rest, rfl⟩
    exact h rest rfl

theorem afterKeyword?_eq_some_iff {w t rest : Text} :
    afterKeyword? w t = some rest ↔ ∃ c, t = w ++ c :: rest ∧ Text.isBlank c = true := by
  unfold afterKeyword?
  constructor
  · intro h
    split at h
    · rename_i hw
      obtain ⟨r, rfl⟩ := Text.startsWith_iff.1 hw
      rw [List.drop_left] at h
      cases r with
      | nil => cases h
      | cons c cs =>
        by_cases hc : Text.isBlank c = true
        · obtain rfl : cs = rest := by simpa [hc] using h
          exact ⟨c, rfl, hc⟩
        · simp [hc] at h
    · cases h
  · rintro ⟨c, rfl, hc⟩
    have hw : Text.startsWith (w ++ c :: rest) w = true := Text.startsWith_iff.2 ⟨_, rfl⟩
    rw [if_pos hw, List.drop_left]
    simp [hc]

theorem afterKeyword?_isSome_iff {w t : Text} : (afterKeyword? w t).isSome = true ↔ Opens w t := by
  rw [Option.isSome_iff_exists]
  constructor
  · rintro ⟨rest, h⟩
    obtain ⟨c, ht, hc⟩ := afterKeyword?_eq_some_iff.1 h
    exact ⟨c, rest, ht, hc⟩
  · rintro ⟨c, rest, ht, hc⟩
    exact ⟨rest, afterKeyword?_eq_some_iff.2 ⟨c, ht, hc⟩⟩

theorem split?_eq_some_iff {t target value : Text} :
    Assignment.split? t = some (target, value) ↔
      ∃ before after, Assignment.FirstSign t before after ∧ Assignment.isTarget (Text.trim before) = true ∧
        target = Text.trim before ∧ value = Text.trim after := by
  unfold Assignment.split?
  constructor
  · intro h
    split at h
    · cases h
    · rename_i before after hs
      split at h
      · rename_i ht
        obtain ⟨rfl, rfl⟩ := Prod.mk.inj (Option.some.inj h)
        exact ⟨before, after, Assignment.splitFrom_eq_some_iff.1 hs, ht, rfl, rfl⟩
      · cases h
  · rintro ⟨before, after, hs, ht, rfl, rfl⟩
    rw [Assignment.splitFrom_eq_some_iff.2 hs]
    simp [ht]

theorem split?_isSome_iff {t : Text} : (Assignment.split? t).isSome = true ↔
    ∃ before after, Assignment.FirstSign t before after ∧ Assignment.isTarget (Text.trim before) = true := by
  rw [Option.isSome_iff_exists]
  constructor
  · rintro ⟨⟨target, value⟩, h⟩
    obtain ⟨before, after, hs, ht, -⟩ := split?_eq_some_iff.1 h
    exact ⟨before, after, hs, ht⟩
  · rintro ⟨before, after, hs, ht⟩
    exact ⟨_, split?_eq_some_iff.2 ⟨before, after, hs, ht, rfl, rfl⟩⟩

theorem printPayload?_isSome_iff {t : Text} : (printPayload? t).isSome = true ↔
    t = "echo".toList ∨ Opens "echo".toList t ∨ Opens "print".toList t := by
  rw [← afterKeyword?_isSome_iff, ← afterKeyword?_isSome_iff]
  unfold printPayload?
  by_cases ht : t = "echo".toList
  · simp [ht]
  · rw [if_neg ht, or_iff_right ht]
    cases afterKeyword? "echo".toList t <;> simp

theorem conditional?_isSome_iff {t : Text} : (conditional? t).isSome = true ↔ ∃ w : BranchWord, Opens w.source t := by
  unfold conditional?
  rw [List.findSome?_isSome_iff]
  constructor
  · rintro ⟨w, -, h⟩
    rw [Option.isSome_map] at h
    exact ⟨w, afterKeyword?_isSome_iff.1 h⟩
  · rintro ⟨w, h⟩
    refine ⟨w, by cases w <;> simp [BranchWord.all], ?_⟩
    rw [Option.isSome_map]
    exact afterKeyword?_isSome_iff.2 h

end Construct

namespace Rule

theorem isSome_map_iff {α β : Type} {o : Option α} {f : α → β} {p : Prop} (h : o.isSome = true ↔ p) :
    (o.map f).isSome = true ↔ p := by
  rw [Option.isSome_map]
  exact h

theorem apply_isSome_of_dataOnly {r : Rule} {d : Dialect} {t : Text} (h : r.dataOnly = true) :
    (r.apply d t).isSome = true ↔ d = .dataProcessing ∧ (r.recognise t).isSome = true := by
  cases d <;> simp [apply, h]

/-- **A rule recognises the texts that have the form of its kind**, in the dialects in which it counts. -/
theorem apply_isSome_iff {s : Settings} {d : Dialect} {t : Text} {r : Rule} (hr : r ∈ table s) :
    (r.apply d t).isSome = true ↔ Kind.Fits s d t r.kind := by
  simp only [table, List.mem_cons, List.not_mem_nil, or_false] at hr
  rcases hr with rfl | rfl | rfl | rfl | rfl | rfl | rfl | rfl | rfl | rfl
  · exact Construct.blank?_isSome_iff
  · exact Construct.comment?_isSome_iff
  · exact isSome_map_iff Construct.split?_isSome_iff
  · exact isSome_map_iff Construct.printPayload?_isSome_iff
  · exact Construct.conditional?_isSome_iff
  · exact isSome_map_iff Construct.afterKeyword?_isSome_iff
  · exact isSome_map_iff Construct.afterKeyword?_isSome_iff
  · exact (apply_isSome_of_dataOnly rfl).trans (and_congr_right fun _ => isSome_map_iff Command.argument?_isSome_iff)
  · exact (apply_isSome_of_dataOnly rfl).trans (and_congr_right fun _ => isSome_map_iff Command.argument?_isSome_iff)
  · exact isSome_map_iff Command.find?_isSome_iff

theorem recognise_of_apply {d : Dialect} {t : Text} {r : Rule} {c : Construct} (h : r.apply d t = some c) :
    r.recognise t = some c := by
  unfold apply at h
  split at h
  · cases h
  · exact h

end Rule

/-! ## Reading a line again -/

namespace Construct

/-- The construct of a text of which only the kind is known, from the search that belongs to the kind.  A loop is cut at
its ` in ` whatever word it begins with; a blank line and a comment are told apart by whether anything is there. -/
def reread? (s : Settings) (t : Text) : Kind → Option Construct
  | .blank | .comment => some (if t.isEmpty then .blank else .comment)
  | .assignment => assignment? t
  | .printLike => printLike? t
  | .conditional => conditional? t
  | .forLoop => some (loopParts t)
  | .whileLoop => whileLoop? t
  | .fileRead => fileRead? t
  | .filterCommand => filterCommand? t
  | .unsupportedCommand =>
    if Command.anyNamed s.unsupportedCommands then unsupported? s.unsupportedCommands t else none
  | .unclassified => some .unclassified

/-- The pieces of text that a construct holds. -/
def parts : Construct → List Text
  | .assignment target value => [target, value]
  | .printLike payload => [payload]
  | .conditional _ condition => [condition]
  | .forEach names items => [names, items]
  | .whileLoop condition => [condition]
  | .fileRead argument => [argument]
  | .filterCommand argument => [argument]
  | .unsupported command => [command]
  | .blank | .comment | .forCounting | .unclassified => []

theorem loopParts_kind (t : Text) : (loopParts t).kind = .forLoop := by
  unfold loopParts
  split <;> rfl

theorem anyNamed_of_find? {commands : List Text} {t : Text} (h : (Command.find? commands t).isSome = true) :
    Command.anyNamed commands = true := by
  obtain ⟨w, hw, hne, -⟩ := Command.find?_isSome_iff.1 h
  exact List.any_eq_true.2 ⟨w, hw, by simpa using hne⟩

/-- **What a rule recognises is of the rule's kind and is found again from the kind alone.** -/
theorem reread?_of_recognise {s : Settings} {t : Text} {r : Rule} {c : Construct} (hr : r ∈ Rule.table s)
    (h : r.recognise t = some c) : c.kind = r.kind ∧ reread? s t r.kind = some c := by
  simp only [Rule.table, List.mem_cons, List.not_mem_nil, or_false] at hr
  rcases hr with rfl | rfl | rfl | rfl | rfl | rfl | rfl | rfl | rfl | rfl
  · obtain rfl := blank?_isSome_iff.1 (Option.isSome_of_eq_some h)
    cases h
    exact ⟨rfl, rfl⟩
  · obtain ⟨rest, rfl⟩ := comment?_isSome_iff.1 (Option.isSome_of_eq_some h)
    cases h
    exact ⟨rfl, rfl⟩
  · obtain ⟨p, -, rfl⟩ := Option.map_eq_some_iff.1 h
    exact ⟨rfl, h⟩
  · obtain ⟨p, -, rfl⟩ := Option.map_eq_some_iff.1 h
    exact ⟨rfl, h⟩
  · obtain ⟨-, w, -, -, hw, -⟩ := List.findSome?_eq_some_iff.1 h
    obtain ⟨condition, -, rfl⟩ := Option.map_eq_some_iff.1 hw
    exact ⟨rfl, h⟩
  · obtain ⟨-, -, rfl⟩ := Option.map_eq_some_iff.1 h
    exact ⟨loopParts_kind t, rfl⟩
  · obtain ⟨p, -, rfl⟩ := Option.map_eq_some_iff.1 h
    exact ⟨rfl, h⟩
  · obtain ⟨p, -, rfl⟩ := Option.map_eq_some_iff.1 h
    exact ⟨rfl, h⟩
  · obtain ⟨p, -, rfl⟩ := Option.map_eq_some_iff.1 h
    exact ⟨rfl, h⟩
  · obtain ⟨p, hp, rfl⟩ := Option.map_eq_some_iff.1 h
    refine ⟨rfl, ?_⟩
    rw [reread?, if_pos (anyNamed_of_find? (Option.isSome_of_eq_some hp))]
    exact h

/-- The construct of a text comes from a rule of the table, all rules above which fail, or from none. -/
theorem ofText_cases (s : Settings) (d : Dialect) (t : Text) :
    (∃ above r below, Rule.table s = above ++ r :: below ∧ r.apply d t = some (ofText s d t) ∧
      ∀ r' ∈ above, r'.apply d t = none) ∨
    ((∀ r ∈ Rule.table s, r.apply d t = none) ∧ ofText s d t = .unclassified) := by
  unfold ofText
  cases h : (Rule.table s).findSome? fun r => r.apply d t with
  | some c =>
    left
    obtain ⟨above, r, below, htab, hr, habove⟩ := List.findSome?_eq_some_iff.1 h
    exact ⟨above, r, below, htab, hr, habove⟩
  | none =>
    right
    exact ⟨List.findSome?_eq_none_iff.1 h, rfl⟩

/-- **The construct of a text is of the first kind whose form the text has.** -/
theorem isFirstFit_ofText (s : Settings) (d : Dialect) (t : Text) :
    Kind.IsFirstFit s d t (ofText s d t).kind := by
  have hnot : ∀ r ∈ Rule.table s, r.apply d t = none → ¬ Kind.Fits s d t r.kind := by
    intro r hr hnone hfit
    have := (Rule.apply_isSome_iff hr).2 hfit
    rw [hnone] at this
    cases this
  -- the table lists the kinds in the order of `Kind.all`, so a kind that precedes belongs to a rule above
  have hall : Kind.all = (Rule.table s).map (·.kind) ++ [.unclassified] := rfl
  rcases ofText_cases s d t with ⟨above, r, below, htab, happ, habove⟩ | ⟨hnone, hun⟩
  · have hr : r ∈ Rule.table s := by rw [htab]; simp
    rw [(reread?_of_recognise hr (Rule.recognise_of_apply happ)).1]
    refine ⟨(Rule.apply_isSome_iff hr).1 (Option.isSome_of_eq_some happ), fun k hk => ?_⟩
    rw [htab, List.map_append, List.append_assoc, List.map_cons, List.cons_append] at hall
    obtain ⟨r', hr', rfl⟩ := List.mem_map.1 (Kind.mem_of_precedes hall hk)
    exact hnot r' (by rw [htab]; exact List.mem_append_left _ hr') (habove r' hr')
  · rw [hun]
    refine ⟨trivial, fun k hk => ?_⟩
    obtain ⟨r, hr, rfl⟩ := List.mem_map.1 (Kind.mem_of_precedes hall hk)
    exact hnot r hr (hnone r hr)

/-- **The search that belongs to the kind of a text succeeds on it**, and finds what the rules found. -/
theorem reread?_ofText (s : Settings) (d : Dialect) (t : Text) :
    reread? s t (ofText s d t).kind = some (ofText s d t) := by
  rcases ofText_cases s d t with ⟨above, r, below, htab, happ, -⟩ | ⟨-, hun⟩
  · have hr : r ∈ Rule.table s := by rw [htab]; simp
    obtain ⟨hkind, hread⟩ := reread?_of_recognise hr (Rule.recognise_of_apply happ)
    rw [hkind]
    exact hread
  · rw [hun]
    rfl

/-- **The first fit and its search decide the construct.** -/
theorem ofText_of_isFirstFit {s : Settings} {d : Dialect} {t : Text} {k : Kind} {c : Construct}
    (hk : Kind.IsFirstFit s d t k) (hc : reread? s t k = some c) : ofText s d t = c := by
  have hread := reread?_ofText s d t
  rw [(isFirstFit_ofText s d t).unique hk, hc] at hread
  exact (Option.some.inj hread).symm

/-! ## Parts are cut out of the text -/

theorem suffix_of_afterKeyword? {w t rest : Text} (h : afterKeyword? w t = some rest) : rest <:+ t := by
  obtain ⟨c, rfl, -⟩ := afterKeyword?_eq_some_iff.1 h
  exact ⟨w ++ [c], by simp⟩

theorem infix_of_printPayload? {t payload : Text} (h : printPayload? t = some payload) : payload <:+: t := by
  unfold printPayload? at h
  split at h
  · obtain rfl := Option.some.inj h
    exact List.nil_infix
  · cases he : afterKeyword? "echo".toList t with
    | some rest =>
      rw [he] at h
      obtain rfl : rest = payload := by simpa using h
      exact (suffix_of_afterKeyword? he).isInfix
    | none =>
      rw [he] at h
      exact (suffix_of_afterKeyword? h).isInfix

theorem parts_loopParts (t : Text) : ∀ p ∈ (loopParts t).parts, p <:+: t := by
  unfold loopParts
  cases h : Text.cut? " in ".toList t with
  | none => simp [parts]
  | some q =>
    obtain ⟨head, items⟩ := q
    have ht : t = head ++ (" in ".toList ++ items) := Text.eq_of_cut? h
    have hhead : head <:+: t := by rw [ht]; exact List.infix_append_left
    have hitems : items <:+: t := ⟨head ++ " in ".toList, [], by rw [ht]; simp⟩
    have hnames : (afterKeyword? "for".toList head).getD head <:+: head := by
      cases hf : afterKeyword? "for".toList head with
      | none => exact List.infix_rfl
      | some rest => exact (suffix_of_afterKeyword? hf).isInfix
    intro p hp
    simp only [parts, List.mem_cons, List.not_mem_nil, or_false] at hp
    rcases hp with rfl | rfl
    · exact ((Text.trim_isInfix _).trans hnames).trans hhead
    · exact hitems

theorem parts_of_recognise {s : Settings} {t : Text} {r : Rule} {c : Construct} (hr : r ∈ Rule.table s)
    (h : r.recognise t = some c) : ∀ p ∈ c.parts, p <:+: t := by
  simp only [Rule.table, List.mem_cons, List.not_mem_nil, or_false] at hr
  rcases hr with rfl | rfl | rfl | rfl | rfl | rfl | rfl | rfl | rfl | rfl
  · obtain rfl := blank?_isSome_iff.1 (Option.isSome_of_eq_some h)
    cases h
    simp [parts]
  · obtain ⟨rest, rfl⟩ := comment?_isSome_iff.1 (Option.isSome_of_eq_some h)
    cases h
    simp [parts]
  · obtain ⟨⟨target, value⟩, hp, rfl⟩ := Option.map_eq_some_iff.1 h
    obtain ⟨before, after, ⟨ht, -, -⟩, -, rfl, rfl⟩ := split?_eq_some_iff.1 hp
    have hbefore : before <:+: t := by rw [ht]; exact List.infix_append_left
    have hafter : after <:+: t := ⟨before ++ ['='], [], by rw [ht]; simp⟩
    simp only [parts, List.mem_cons, List.not_mem_nil, or_false, forall_eq_or_imp, forall_eq]
    exact ⟨(Text.trim_isInfix _).trans hbefore, (Text.trim_isInfix _).trans hafter⟩
  · obtain ⟨payload, hp, rfl⟩ := Option.map_eq_some_iff.1 h
    simpa [parts] using infix_of_printPayload? hp
  · obtain ⟨-, w, -, -, hw, -⟩ := List.findSome?_eq_some_iff.1 h
    obtain ⟨condition, hc, rfl⟩ := Option.map_eq_some_iff.1 hw
    simpa [parts] using (suffix_of_afterKeyword? hc).isInfix
  · obtain ⟨-, -, rfl⟩ := Option.map_eq_some_iff.1 h
    exact parts_loopParts t
  · obtain ⟨condition, hc, rfl⟩ := Option.map_eq_some_iff.1 h
    simpa [parts] using (suffix_of_afterKeyword? hc).isInfix
  · obtain ⟨argument, ha, rfl⟩ := Option.map_eq_some_iff.1 h
    simpa [parts] using Command.infix_of_argument? ha
  · obtain ⟨argument, ha, rfl⟩ := Option.map_eq_some_iff.1 h
    simpa [parts] using Command.infix_of_argument? ha
  · obtain ⟨⟨command, n⟩, hc, rfl⟩ := Option.map_eq_some_iff.1 h
    simpa [parts] using Command.infix_of_find? hc

/-- **Every part of a construct is a piece of the text.** -/
theorem parts_isInfix (s : Settings) (d : Dialect) (t : Text) : ∀ p ∈ (ofText s d t).parts, p <:+: t := by
  rcases ofText_cases s d t with ⟨above, r, below, htab, happ, -⟩ | ⟨-, hun⟩
  · exact parts_of_recognise (by rw [htab]; simp) (Rule.recognise_of_apply happ)
  · rw [hun]
    simp [parts]

end Construct
end Scriptwright
