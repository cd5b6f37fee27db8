import Scriptwright.Proofs.Hollow
/-!
# Brackets of conditions

Which brackets go from a condition is read off its two ends, one or two at each, the front and the back on their own; all
stay if a bracket with a blank on its inner side stands between them.  A condition with properly nested brackets
therefore does not always come out nested.  It does unless it is `Torn`: the two ends show different numbers of
brackets, as with a subscript in front of the last one, or the brackets that go belong to parts that stand side by side.
Where it is not, whatever goes is a pair around the whole (`brackets_go_in_pairs`).
-/
namespace Scriptwright
namespace Condition

open Text (isBlank trim)

/-! ## Nesting -/

/-- Every square bracket has its partner. -/
inductive Nested : Text → Prop
  | nil : Nested []
  | other {c : Char} {t : Text} (hopen : c ≠ '[') (hclose : c ≠ ']') (ht : Nested t) : Nested (c :: t)
  | pair {a b : Text} (ha : Nested a) (hb : Nested b) : Nested ('[' :: (a ++ ']' :: b))

/-- How many brackets are open behind a text in front of which `n` are; none if one closes that is not open. -/
def openAfter : Nat → Text → Option Nat
  | n, [] => some n
  | n, '[' :: t => openAfter (n + 1) t
  | 0, ']' :: _ => none
  | n + 1, ']' :: t => openAfter n t
  | n, _ :: t => openAfter n t

theorem openAfter_other {c : Char} (hopen : c ≠ '[') (hclose : c ≠ ']') (n : Nat) (t : Text) :
    openAfter n (c :: t) = openAfter n t := by
  rw [openAfter] <;> simp [hopen, hclose]

theorem ne_closing {n : Nat} {c : Char} (hzero : n = 0 → c = ']' → False) (hsucc : ∀ k, n = k + 1 → c = ']' → False) :
    c ≠ ']' := by
  rintro rfl
  cases n with
  | zero => exact hzero rfl rfl
  | succ n => exact hsucc n rfl rfl

theorem openAfter_append (n : Nat) (a b : Text) :
    openAfter n (a ++ b) = (openAfter n a).bind fun k => openAfter k b := by
  fun_induction openAfter n a with
  | case1 n => rfl
  | case2 n t ih => exact ih
  | case3 t => rfl
  | case4 n t ih => exact ih
  | case5 n c t hopen hclose hclose' ih =>
    rw [List.cons_append, openAfter_other hopen (ne_closing hclose hclose'), ih]

theorem Nested.openAfter_eq {t : Text} (h : Nested t) (n : Nat) : openAfter n t = some n := by
  induction h generalizing n with
  | nil => rfl
  | other hopen hclose _ ih => rw [openAfter_other hopen hclose, ih]
  | pair _ _ iha ihb => rw [openAfter, openAfter_append, iha, Option.bind_some, openAfter, ihb]

theorem Nested.append {a b : Text} (ha : Nested a) (hb : Nested b) : Nested (a ++ b) := by
  induction ha with
  | nil => exact hb
  | other hopen hclose _ ih => exact .other hopen hclose ih
  | @pair x y hx _ _ ihy =>
    rw [List.cons_append, List.append_assoc, List.cons_append]
    exact .pair hx ihy

/-- The text closes `n` brackets that were opened before it, and is nested before, between and behind them. -/
def Closes : Nat → Text → Prop
  | 0, t => Nested t
  | n + 1, t => ∃ a b, t = a ++ ']' :: b ∧ Nested a ∧ Closes n b

theorem Closes.prepend {n : Nat} {a t : Text} (ha : Nested a) (h : Closes n t) : Closes n (a ++ t) := by
  cases n with
  | zero => exact ha.append h
  | succ n =>
    obtain ⟨x, y, rfl, hx, hy⟩ := h
    exact ⟨a ++ x, y, by rw [List.append_assoc], ha.append hx, hy⟩

theorem closes_of_openAfter {n : Nat} {t : Text} (h : openAfter n t = some 0) : Closes n t := by
  fun_induction openAfter n t with
  | case1 n =>
    obtain rfl := Option.some.inj h
    exact .nil
  | case2 n t ih =>
    -- the bracket and the first that closes behind it are a pair in front of what closes the others
    obtain ⟨a, b, rfl, ha, hb⟩ := ih h
    have hpair : Nested ('[' :: (a ++ [']'])) := .pair ha .nil
    have heq : '[' :: (a ++ ']' :: b) = '[' :: (a ++ [']']) ++ b := by simp
    rw [heq]
    exact hb.prepend hpair
  | case3 t => cases h
  | case4 n t ih => exact ⟨[], t, rfl, .nil, ih h⟩
  | case5 n c t hopen hclose hclose' ih =>
    exact (ih h).prepend (.other hopen (ne_closing hclose hclose') .nil)

/-- **Brackets are nested exactly if counting them from the front never fails and ends at zero.** -/
theorem nested_iff {t : Text} : Nested t ↔ openAfter 0 t = some 0 := ⟨fun h => h.openAfter_eq 0, closes_of_openAfter⟩

instance (t : Text) : Decidable (Nested t) := decidable_of_iff _ nested_iff.symm

theorem nested_of_blank {t : Text} (h : ∀ c ∈ t, isBlank c = true) : Nested t := by
  induction t with
  | nil => exact .nil
  | cons c t ih =>
    obtain ⟨hc, ht⟩ := List.forall_mem_cons.1 h
    refine .other ?_ ?_ (ih ht) <;> (rintro rfl; cases hc)

theorem nested_trim {t : Text} : Nested (trim t) ↔ Nested t := by
  obtain ⟨-, lead, trail, ht, hlead, htrail⟩ := (Text.trim_eq_iff (t := t)).1 rfl
  have hcount : openAfter 0 t = openAfter 0 (trim t) := by
    conv => lhs; rw [ht]
    rw [openAfter_append, (nested_of_blank hlead).openAfter_eq, Option.bind_some, openAfter_append]
    cases openAfter 0 (trim t) with
    | none => rfl
    | some n => exact (nested_of_blank htrail).openAfter_eq n
  rw [nested_iff, nested_iff, hcount]

/-! ## One part or several -/

/-- Two bracketed parts, the first at the front and the other at the back. -/
def SideBySide (t : Text) : Prop :=
  ∃ a b c, t = '[' :: (a ++ ']' :: (b ++ '[' :: (c ++ [']']))) ∧ Nested a ∧ Nested b ∧ Nested c

theorem Nested.exists_last_pair {t : Text} (h : Nested t) (hend : t.getLast? = some ']') :
    ∃ b c, t = b ++ '[' :: (c ++ [']']) ∧ Nested b ∧ Nested c := by
  induction h with
  | nil => simp at hend
  | @other c t hopen hclose ht ih =>
    rw [List.getLast?_cons] at hend
    cases hlast : t.getLast? with
    | none => exact absurd (by simpa [hlast] using hend) hclose
    | some x =>
      obtain rfl : x = ']' := by simpa [hlast] using hend
      obtain ⟨b, d, rfl, hb, hd⟩ := ih hlast
      exact ⟨c :: b, d, rfl, .other hopen hclose hb, hd⟩
  | @pair a b ha hb iha ihb =>
    cases hlast : b.getLast? with
    | none =>
      obtain rfl := List.getLast?_eq_none_iff.1 hlast
      exact ⟨[], a, rfl, .nil, ha⟩
    | some x =>
      obtain rfl : x = ']' := by simpa [List.getLast?_cons, hlast] using hend
      obtain ⟨b', c, rfl, hb', hc⟩ := ihb hlast
      exact ⟨'[' :: (a ++ ']' :: b'), c, by simp, .pair ha hb', hc⟩

/-- **The brackets at the two ends of a nested text are a pair unless they belong to two parts.** -/
theorem not_sideBySide_iff {m : Text} (h : Nested ('[' :: (m ++ [']']))) :
    ¬ SideBySide ('[' :: (m ++ [']'])) ↔ Nested m := by
  constructor
  · intro hone
    generalize ht : '[' :: (m ++ [']']) = t at h hone
    cases h with
    | nil => cases ht
    | other hopen _ _ => exact absurd (List.cons.inj ht).1.symm hopen
    | @pair a b ha hb =>
      obtain ⟨-, ht⟩ := List.cons.inj ht
      cases hlast : b.getLast? with
      | none =>
        obtain rfl := List.getLast?_eq_none_iff.1 hlast
        rwa [List.append_cancel_right ht]
      | some x =>
        have hx : x = ']' := by simpa [hlast, List.getLast?_cons] using (congrArg List.getLast? ht).symm
        obtain ⟨b', c, rfl, hb', hc⟩ := hb.exists_last_pair (hx ▸ hlast)
        exact absurd ⟨a, b', c, rfl, ha, hb', hc⟩ hone
  · rintro hm ⟨a, b, c, ht, ha, -, -⟩
    -- counted from the front, the first part closes a bracket that `m` does not open
    have hends : m ++ [']'] = a ++ ']' :: (b ++ '[' :: c) ++ [']'] := by simpa using (List.cons.inj ht).2
    have heq : m = a ++ ']' :: (b ++ '[' :: c) := List.append_cancel_right hends
    have hcount := hm.openAfter_eq 0
    rw [heq, openAfter_append, ha.openAfter_eq] at hcount
    cases hcount

/-! ## The brackets that go -/

/-- A text between the brackets, one or two at each end, that its ends show. -/
structure Delimited (t : Text) (double : Bool) (m : Text) (double' : Bool) : Prop where
  eq : t = brackets '[' double ++ (m ++ brackets ']' double')
  front : double = false → (m ++ brackets ']' double').head? ≠ some '['
  back : double' = false → (brackets '[' double ++ m).getLast? ≠ some ']'

/-- Somewhere a bracket has a blank on its inner side. -/
def HoldsTest (t : Text) : Prop := ∃ b, isBlank b = true ∧ ([b, ']'] <:+: t ∨ ['[', b] <:+: t)

/-- The brackets that go are no pairs: there are more of them at one end than at the other, or they belong to parts that
stand side by side, of double brackets the outer or the inner ones. -/
def Torn (t : Text) : Prop :=
  ∃ double m double', Delimited (trim t) double m double' ∧ ¬ HoldsTest (trim m) ∧
    (double ≠ double' ∨ SideBySide (trim t) ∨ (double = true ∧ SideBySide ('[' :: (m ++ [']']))))

namespace Delimited

variable {t m : Text} {double double' : Bool}

theorem unique {n : Text} {single single' : Bool} (h : Delimited t double m double')
    (h' : Delimited t single n single') : double = single ∧ m = n ∧ double' = single' := by
  have hfront : double = single := by
    rw [← startsWith_brackets h.front, ← startsWith_brackets h'.front, ← h.eq, ← h'.eq]
  have hback : double' = single' := by
    rw [← endsWith_brackets h.back, ← endsWith_brackets h'.back, List.append_assoc, List.append_assoc, ← h.eq, ← h'.eq]
  subst hfront hback
  exact ⟨rfl, List.append_cancel_right (List.append_cancel_left (h.eq.symm.trans h'.eq)), rfl⟩

theorem even_of_nested (h : Delimited t double m double') (ht : Nested t) (hm : Nested m) : double = double' := by
  have hcount := ht.openAfter_eq 0
  rw [h.eq, openAfter_append] at hcount
  cases double <;> cases double' <;> simp [brackets, openAfter, openAfter_append, hm.openAfter_eq] at hcount ⊢

/-- **What stands between the brackets is nested exactly if they are pairs.** -/
theorem nested_iff_pairs (h : Delimited t double m double') (ht : Nested t) :
    Nested m ↔ ¬ (double ≠ double' ∨ SideBySide t ∨ (double = true ∧ SideBySide ('[' :: (m ++ [']'])))) := by
  by_cases heven : double = double'
  · subst heven
    cases double with
    | false =>
      obtain rfl : t = '[' :: (m ++ [']']) := h.eq
      rw [← not_sideBySide_iff ht]
      simp
    | true =>
      -- the outer brackets stand around the inner ones
      obtain rfl : t = '[' :: ('[' :: (m ++ [']']) ++ [']']) := by rw [h.eq]; simp [brackets]
      have houter := not_sideBySide_iff ht
      simp only [ne_eq, not_true_eq_false, false_or, true_and, not_or]
      constructor
      · intro hm
        have hinner : Nested ('[' :: (m ++ [']'])) := .pair hm .nil
        exact ⟨houter.2 hinner, (not_sideBySide_iff hinner).2 hm⟩
      · rintro ⟨hout, hin⟩
        exact (not_sideBySide_iff (houter.1 hout)).1 hin
  · exact iff_of_false (fun hm => heven (h.even_of_nested ht hm)) fun hpairs => hpairs (.inl heven)

end Delimited

theorem dropBrackets_trim (t : Text) : dropBrackets (trim t) = dropBrackets t := by
  unfold dropBrackets
  rw [Text.trim_of_tight (Text.tight_trim t)]

theorem dropBrackets_of_delimited {t m : Text} {double double' : Bool} (h : Delimited (trim t) double m double') :
    dropBrackets t = if hasInnerTest (trim m) then trim t else trim m := by
  rw [← dropBrackets_trim, h.eq, dropBrackets_between h.front h.back]

theorem dropBrackets_of_not_delimited {t : Text} (h : ∀ double m double', ¬ Delimited (trim t) double m double') :
    dropBrackets t = trim t := by
  have hends : ¬ (Text.startsWith (trim t) ['['] && Text.endsWith (trim t) [']']) = true := by
    rw [Bool.and_eq_true, Text.startsWith_iff]
    rintro ⟨hstart, hend⟩
    obtain ⟨double, m, double', heq, hfront, hback⟩ := exists_between hstart (List.isSuffixOf_iff_suffix.1 hend)
    exact h double m double' ⟨heq, hfront, hback⟩
  unfold dropBrackets
  simp only [hends]
  rfl

/-- All brackets stay, or those go that the ends show. -/
theorem dropBrackets_cases (t : Text) :
    (dropBrackets t = trim t ∧ ¬ Torn t) ∨
    ∃ double m double', Delimited (trim t) double m double' ∧ ¬ HoldsTest (trim m) ∧ dropBrackets t = trim m := by
  by_cases hends : ∃ double m double', Delimited (trim t) double m double'
  · obtain ⟨double, m, double', h⟩ := hends
    rw [dropBrackets_of_delimited h]
    by_cases htest : hasInnerTest (trim m) = true
    · refine .inl ⟨if_pos htest, ?_⟩
      rintro ⟨_, _, _, h', hnone, -⟩
      obtain ⟨-, rfl, -⟩ := h.unique h'
      exact hnone (hasInnerTest_eq_true_iff.1 htest)
    · exact .inr ⟨double, m, double', h, fun hin => htest (hasInnerTest_eq_true_iff.2 hin), if_neg htest⟩
  · simp only [not_exists] at hends
    refine .inl ⟨dropBrackets_of_not_delimited hends, ?_⟩
    rintro ⟨double, m, double', h, -⟩
    exact hends double m double' h

/-- **A nested condition comes out nested exactly if it is not torn**, and then nothing goes, or one pair of brackets, or
two, that stand around the whole. -/
theorem brackets_go_in_pairs {t : Text} (h : Nested t) :
    (Nested (dropBrackets t) ↔ ¬ Torn t) ∧
    (Nested (dropBrackets t) → dropBrackets t = trim t ∨ ∃ double m,
      trim t = brackets '[' double ++ (m ++ brackets ']' double) ∧ Nested m ∧ dropBrackets t = trim m) := by
  have ht : Nested (trim t) := nested_trim.2 h
  rcases dropBrackets_cases t with ⟨hkept, hwhole⟩ | ⟨double, m, double', hends, htest, hdropped⟩
  · rw [hkept]
    exact ⟨iff_of_true ht hwhole, fun _ => .inl rfl⟩
  · have hpairs := hends.nested_iff_pairs ht
    rw [hdropped, nested_trim]
    refine ⟨⟨fun hm => ?_, fun hwhole => ?_⟩, fun hm => ?_⟩
    · rintro ⟨_, _, _, hends', -, htorn⟩
      obtain ⟨rfl, rfl, rfl⟩ := hends.unique hends'
      exact hpairs.1 hm htorn
    · exact hpairs.2 fun htorn => hwhole ⟨double, m, double', hends, htest, htorn⟩
    · obtain rfl := hends.even_of_nested ht hm
      exact .inr ⟨double, m, hends.eq, hm, rfl⟩

/-- Subscripts at both ends of a test in double brackets, and blanks around it. -/
theorem brackets_go_in_pairs_of_subscripts :
    let t := " [[ ($a)[1] -eq b[c[2]] ]] ".toList
    Nested t ∧ dropBrackets t = "($a)[1] -eq b[c[2]]".toList ∧ Nested (dropBrackets t) ∧ ¬ Torn t := by
  intro t
  have hnested : Nested t := by decide
  have hresult : Nested (dropBrackets t) := by decide
  exact ⟨hnested, by decide, hresult, (brackets_go_in_pairs hnested).1.1 hresult⟩

/-- **A nested condition may be torn**: a test loses its closing bracket and its neighbour the opening one, and a subscript
loses its bracket to a test that is closed right behind it. -/
theorem torn_conditions :
    (Nested "[a] && [b]".toList ∧ dropBrackets "[a] && [b]".toList = "a] && [b".toList ∧ ¬ Nested "a] && [b".toList) ∧
    (Nested "[ $x -eq $a[0]]".toList ∧ dropBrackets "[ $x -eq $a[0]]".toList = "$x -eq $a[0".toList ∧
      ¬ Nested "$x -eq $a[0".toList) := by
  decide

end Condition
end Scriptwright
