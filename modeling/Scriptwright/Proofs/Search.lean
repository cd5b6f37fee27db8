import Scriptwright.Proofs.Text
import Scriptwright.Script.Assignment
import Scriptwright.Script.Command
/-!
# Searching a text from left to right

The sign of an assignment, a command and the argument of a command are looked for in the same way: place by place from
the left, with one flag that tells something about the character before the place.  `leftmost` is this search on its
own, and `leftmost_eq_some_iff` says what it finds: the first place where there is something to find.  The three
searches of the library are cases of it, and their results are described here by what stands around the place
(`splitFrom_eq_some_iff`, `find?_isSome_iff`, `argument?_isSome_iff`).
-/
namespace Scriptwright
namespace Search

/-- The flag behind `before`, where `b` is the one in front of it. -/
def flagAfter (flagged : Char → Bool) (b : Bool) (before : Text) : Bool := (before.getLast?.map flagged).getD b

/-- What stands before the first place where `hit` finds something, and what it finds. -/
def leftmost {α : Type} (flagged : Char → Bool) (hit : Bool → Text → Option α) : Bool → Text → Option (Text × α)
  | _, [] => none
  | b, c :: rest =>
    match hit b (c :: rest) with
    | some a => some ([], a)
    | none => (leftmost flagged hit (flagged c) rest).map fun p => (c :: p.1, p.2)

theorem flagAfter_nil (flagged : Char → Bool) (b : Bool) : flagAfter flagged b [] = b := rfl

theorem flagAfter_cons (flagged : Char → Bool) (b : Bool) (c : Char) (before : Text) :
    flagAfter flagged b (c :: before) = flagAfter flagged (flagged c) before := by
  unfold flagAfter
  rw [List.getLast?_cons]
  cases before.getLast? <;> rfl

variable {α : Type} {flagged : Char → Bool} {hit : Bool → Text → Option α}

/-- **The search finds the first place**: something is found there, and nothing at any place before it. -/
theorem leftmost_eq_some_iff (hnil : ∀ b, hit b [] = none) : ∀ {t before : Text} {b : Bool} {a : α},
    leftmost flagged hit b t = some (before, a) ↔
      ∃ after, t = before ++ after ∧ hit (flagAfter flagged b before) after = some a ∧
        ∀ pre post, t = pre ++ post → pre.length < before.length → hit (flagAfter flagged b pre) post = none
  | [], before, b, a => by
    simp only [leftmost, reduceCtorEq, false_iff, not_exists, not_and]
    intro after ht hh
    obtain ⟨-, rfl⟩ := List.append_eq_nil_iff.1 ht.symm
    rw [hnil] at hh
    cases hh
  | c :: rest, before, b, a => by
    rw [leftmost]
    cases hc : hit b (c :: rest) with
    | some a' =>
      constructor
      · intro h
        obtain ⟨rfl, rfl⟩ : [] = before ∧ a' = a := by simpa using h
        exact ⟨c :: rest, rfl, hc, fun pre post _ hlt => absurd hlt (Nat.not_lt_zero _)⟩
      · rintro ⟨after, ht, ha, hfirst⟩
        cases before with
        | nil =>
          obtain rfl : c :: rest = after := ht
          rw [flagAfter_nil, hc] at ha
          simpa using ha
        | cons x before' =>
          -- a later place would leave this one out
          have h0 := hfirst [] (c :: rest) rfl (by simp)
          rw [flagAfter_nil, hc] at h0
          cases h0
    | none =>
      constructor
      · intro h
        obtain ⟨⟨before', a'⟩, hp, he⟩ := Option.map_eq_some_iff.1 h
        obtain ⟨rfl, rfl⟩ : c :: before' = before ∧ a' = a := by simpa using he
        obtain ⟨after, hr, ha, hfirst⟩ := (leftmost_eq_some_iff hnil).1 hp
        refine ⟨after, by rw [hr]; rfl, by rw [flagAfter_cons]; exact ha, fun pre post ht hlt => ?_⟩
        cases pre with
        | nil =>
          obtain rfl : c :: rest = post := ht
          exact hc
        | cons x pre' =>
          obtain ⟨rfl, hr'⟩ : c = x ∧ rest = pre' ++ post := by simpa using ht
          rw [flagAfter_cons]
          exact hfirst pre' post hr' (by simpa using hlt)
      · rintro ⟨after, ht, ha, hfirst⟩
        cases before with
        | nil =>
          obtain rfl : c :: rest = after := ht
          rw [flagAfter_nil, hc] at ha
          cases ha
        | cons x before' =>
          obtain ⟨rfl, hr⟩ : c = x ∧ rest = before' ++ after := by simpa using ht
          rw [flagAfter_cons] at ha
          refine Option.map_eq_some_iff.2 ⟨(before', a), (leftmost_eq_some_iff hnil).2 ⟨after, hr, ha, ?_⟩, rfl⟩
          intro pre post hr' hlt
          have := hfirst (c :: pre) post (by rw [hr']; rfl) (by simpa using hlt)
          rwa [flagAfter_cons] at this

/-- **The search finds something as soon as there is a place where something is to be found.** -/
theorem leftmost_isSome_iff (hnil : ∀ b, hit b [] = none) : ∀ {t : Text} {b : Bool},
    (leftmost flagged hit b t).isSome = true ↔
      ∃ before after, t = before ++ after ∧ (hit (flagAfter flagged b before) after).isSome = true
  | [], b => by
    simp only [leftmost, Option.isSome_none, Bool.false_eq_true, false_iff, not_exists, not_and]
    intro before after ht
    obtain ⟨-, rfl⟩ := List.append_eq_nil_iff.1 ht.symm
    simp [hnil]
  | c :: rest, b => by
    rw [leftmost]
    cases hc : hit b (c :: rest) with
    | some a => exact ⟨fun _ => ⟨[], c :: rest, rfl, by rw [flagAfter_nil, hc]; rfl⟩, fun _ => rfl⟩
    | none =>
      simp only [Option.isSome_map]
      rw [leftmost_isSome_iff hnil]
      constructor
      · rintro ⟨before, after, rfl, h⟩
        exact ⟨c :: before, after, rfl, by rw [flagAfter_cons]; exact h⟩
      · rintro ⟨before, after, ht, h⟩
        cases before with
        | nil =>
          obtain rfl : c :: rest = after := ht
          rw [flagAfter_nil, hc] at h
          cases h
        | cons x before' =>
          obtain ⟨rfl, rfl⟩ : c = x ∧ rest = before' ++ after := by simpa using ht
          rw [flagAfter_cons] at h
          exact ⟨before', after, rfl, h⟩

theorem flagAfter_false_iff {before : Text} :
    flagAfter flagged false before = false ↔ ∀ c, before.getLast? = some c → flagged c = false := by
  unfold flagAfter
  cases before.getLast? <;> simp

end Search

/-! ## The sign of an assignment -/

namespace Assignment

open Search

/-- An equals sign between the two is no part of a comparison. -/
def IsSign (before after : Text) : Prop :=
  (∀ c, before.getLast? = some c → isComparisonStart c = false) ∧ ¬ ['='] <+: after

/-- The first assignment sign of the text stands between `before` and `after`. -/
def FirstSign (t before after : Text) : Prop :=
  t = before ++ '=' :: after ∧ IsSign before after ∧
    ∀ b a, t = b ++ '=' :: a → IsSign b a → before.length ≤ b.length

/-- What follows an assignment sign in front. -/
def signAt : Bool → Text → Option Text
  | false, '=' :: rest => if Text.startsWith rest ['='] then none else some rest
  | _, _ => none

theorem splitFrom_eq_leftmost : ∀ (t : Text) (b : Bool), splitFrom b t = leftmost isComparisonStart signAt b t
  | [], _ => rfl
  | c :: rest, b => by
    rw [splitFrom, leftmost, splitFrom_eq_leftmost rest]
    by_cases hc : c = '='
    · subst hc
      cases b <;> cases h : Text.startsWith rest ['='] <;> simp [signAt, h]
    · have h0 : signAt b (c :: rest) = none := by
        cases b <;> simp [signAt, hc]
      simp [hc, h0]

theorem signAt_eq_some_iff {b : Bool} {t after : Text} :
    signAt b t = some after ↔ b = false ∧ t = '=' :: after ∧ ¬ ['='] <+: after := by
  unfold signAt
  split
  · rename_i rest
    rw [← Text.startsWith_iff]
    by_cases h : Text.startsWith rest ['='] = true
    · rw [if_pos h]
      simp only [reduceCtorEq, List.cons.injEq, true_and, false_iff, not_and]
      rintro rfl hn
      exact hn h
    · rw [if_neg h]
      simp only [Option.some.injEq, List.cons.injEq, true_and]
      constructor
      · rintro rfl
        exact ⟨rfl, h⟩
      · exact fun h => h.1
  · rename_i hne
    simp only [reduceCtorEq, false_iff, not_and]
    intro hb ht
    exact absurd ht (hne after hb)

theorem signAt_flagAfter_iff {before t after : Text} :
    signAt (flagAfter isComparisonStart false before) t = some after ↔ t = '=' :: after ∧ IsSign before after := by
  rw [signAt_eq_some_iff, flagAfter_false_iff]
  unfold IsSign
  constructor
  · rintro ⟨h1, h2, h3⟩
    exact ⟨h2, h1, h3⟩
  · rintro ⟨h2, h1, h3⟩
    exact ⟨h1, h2, h3⟩

/-- **A line is split at its first assignment sign.** -/
theorem splitFrom_eq_some_iff {t before after : Text} :
    splitFrom false t = some (before, after) ↔ FirstSign t before after := by
  rw [splitFrom_eq_leftmost, leftmost_eq_some_iff (fun b => by cases b <;> rfl)]
  constructor
  · rintro ⟨post, ht, hs, hfirst⟩
    obtain ⟨rfl, hsign⟩ := signAt_flagAfter_iff.1 hs
    refine ⟨ht, hsign, fun b a htb hb => Nat.le_of_not_lt fun hlt => ?_⟩
    have h0 := hfirst b ('=' :: a) htb hlt
    rw [signAt_flagAfter_iff.2 ⟨rfl, hb⟩] at h0
    cases h0
  · rintro ⟨ht, hsign, hfirst⟩
    refine ⟨'=' :: after, ht, signAt_flagAfter_iff.2 ⟨rfl, hsign⟩, fun pre post htp hlt => ?_⟩
    cases hp : signAt (flagAfter isComparisonStart false pre) post with
    | none => rfl
    | some a =>
      obtain ⟨rfl, hpre⟩ := signAt_flagAfter_iff.1 hp
      have := hfirst pre a htp hpre
      omega

end Assignment

/-! ## Commands and their arguments -/

namespace Command

open Search
open Text (isBlank isTokenChar startsToken)

/-- The text ends within a token. -/
def EndsToken (t : Text) : Prop := ∃ c, t.getLast? = some c ∧ isTokenChar c = true

/-- The command stands in the text as a whole token. -/
def IsTokenOf (w t : Text) : Prop :=
  ∃ before after, t = before ++ (w ++ after) ∧ ¬ EndsToken before ∧ startsToken after = false

/-- The command begins a token of the text and is followed by blanks and something else. -/
def HasArgument (w t : Text) : Prop :=
  ∃ before blanks c rest, t = before ++ (w ++ (blanks ++ c :: rest)) ∧ ¬ EndsToken before ∧
    blanks ≠ [] ∧ (∀ b ∈ blanks, isBlank b = true) ∧ isBlank c = false

/-- A test that is made only where no token goes on. -/
def outside {α : Type} (f : Text → Option α) (inToken : Bool) (t : Text) : Option α := if inToken then none else f t

theorem flagAfter_isTokenChar {before : Text} : flagAfter isTokenChar false before = false ↔ ¬ EndsToken before := by
  rw [flagAfter_false_iff]
  unfold EndsToken
  simp

theorem outside_isSome_iff {α : Type} {f : Text → Option α} {before t : Text} :
    (outside f (flagAfter isTokenChar false before) t).isSome = true ↔ ¬ EndsToken before ∧ (f t).isSome = true := by
  rw [← flagAfter_isTokenChar]
  unfold outside
  cases flagAfter isTokenChar false before <;> simp

theorem outside_eq_some {α : Type} {f : Text → Option α} {b : Bool} {t : Text} {a : α} (h : outside f b t = some a) :
    f t = some a := by
  cases b
  · exact h
  · cases h

theorem outside_nil {α : Type} {f : Text → Option α} (h : f [] = none) (b : Bool) : outside f b [] = none := by
  cases b
  · exact h
  · rfl

theorem findFrom_eq_leftmost (commands : List Text) : ∀ (t : Text) (b : Bool),
    findFrom commands b t =
      (leftmost isTokenChar (outside (heads? commands)) b t).map fun p => (p.2, p.1.length)
  | [], _ => rfl
  | c :: rest, b => by
    have hout : (if b then none else heads? commands (c :: rest)) = outside (heads? commands) b (c :: rest) := rfl
    rw [findFrom, leftmost, findFrom_eq_leftmost commands rest, hout]
    cases outside (heads? commands) b (c :: rest) with
    | some w => rfl
    | none => simp [Function.comp_def]

theorem argumentFrom_eq_leftmost (w : Text) : ∀ (t : Text) (b : Bool),
    argumentFrom w b t = (leftmost isTokenChar (outside (argumentAt? w)) b t).map (·.2)
  | [], _ => rfl
  | c :: rest, b => by
    have hout : (if b then none else argumentAt? w (c :: rest)) = outside (argumentAt? w) b (c :: rest) := rfl
    rw [argumentFrom, leftmost, argumentFrom_eq_leftmost w rest, hout]
    cases outside (argumentAt? w) b (c :: rest) with
    | some a => rfl
    | none => simp [Function.comp_def]

theorem heads?_eq_some {commands : List Text} {t w : Text} (h : heads? commands t = some w) :
    w ∈ commands ∧ w ≠ [] ∧ ∃ after, t = w ++ after ∧ startsToken after = false := by
  have hmem := List.mem_of_find?_eq_some h
  have hw := List.find?_some h
  simp only [Bool.and_eq_true, Bool.not_eq_true', List.isEmpty_eq_false_iff, Text.startsWith_iff] at hw
  obtain ⟨⟨hne, after, rfl⟩, hafter⟩ := hw
  rw [List.drop_left] at hafter
  exact ⟨hmem, hne, after, rfl, hafter⟩

theorem heads?_isSome {commands : List Text} {w after : Text} (hmem : w ∈ commands) (hne : w ≠ [])
    (hafter : startsToken after = false) : (heads? commands (w ++ after)).isSome = true := by
  unfold heads?
  rw [List.find?_isSome]
  refine ⟨w, hmem, ?_⟩
  have hpre : Text.startsWith (w ++ after) w = true := Text.startsWith_iff.2 ⟨after, rfl⟩
  simp [hne, hpre, hafter]

theorem heads?_nil (commands : List Text) : heads? commands [] = none := by
  cases h : heads? commands [] with
  | none => rfl
  | some w =>
    obtain ⟨-, hne, after, ht, -⟩ := heads?_eq_some h
    exact absurd (List.append_eq_nil_iff.1 ht.symm).1 hne

/-- **A command is found exactly if one of them is a whole token of the text.** -/
theorem find?_isSome_iff {commands : List Text} {t : Text} :
    (find? commands t).isSome = true ↔ ∃ w ∈ commands, w ≠ [] ∧ IsTokenOf w t := by
  unfold find?
  rw [findFrom_eq_leftmost, Option.isSome_map, leftmost_isSome_iff (outside_nil (heads?_nil commands))]
  constructor
  · rintro ⟨before, post, rfl, h⟩
    obtain ⟨hb, hs⟩ := outside_isSome_iff.1 h
    obtain ⟨w, hw⟩ := Option.isSome_iff_exists.1 hs
    obtain ⟨hmem, hne, after, rfl, hafter⟩ := heads?_eq_some hw
    exact ⟨w, hmem, hne, before, after, rfl, hb, hafter⟩
  · rintro ⟨w, hmem, hne, before, after, rfl, hb, hafter⟩
    exact ⟨before, w ++ after, rfl, outside_isSome_iff.2 ⟨hb, heads?_isSome hmem hne hafter⟩⟩

theorem infix_of_find? {commands : List Text} {t w : Text} {n : Nat} (h : find? commands t = some (w, n)) :
    w <:+: t := by
  unfold find? at h
  rw [findFrom_eq_leftmost] at h
  obtain ⟨⟨before, w'⟩, hp, he⟩ := Option.map_eq_some_iff.1 h
  obtain ⟨rfl, -⟩ : w' = w ∧ before.length = n := by simpa using he
  obtain ⟨post, rfl, hw, -⟩ := (leftmost_eq_some_iff (outside_nil (heads?_nil commands))).1 hp
  obtain ⟨-, -, after, rfl, -⟩ := heads?_eq_some (outside_eq_some hw)
  exact List.infix_append' before w' after

theorem head?_dropWhile_nonblank {t : Text} {c : Char} (h : (t.dropWhile (!isBlank ·)).head? = some c) :
    isBlank c = true := by
  have := List.head?_dropWhile_not (!isBlank ·) t
  rw [h] at this
  simpa using this

theorem argumentAt?_nil (w : Text) : argumentAt? w [] = none := by
  simp [argumentAt?, Text.startsBlank]

/-- **The argument behind a command**: blanks, at least one, and the run without blanks that follows them. -/
theorem argumentAt?_eq_some_iff {w t a : Text} :
    argumentAt? w t = some a ↔
      ∃ blanks rest, t = w ++ (blanks ++ (a ++ rest)) ∧ blanks ≠ [] ∧ (∀ b ∈ blanks, isBlank b = true) ∧
        a ≠ [] ∧ (∀ c ∈ a, isBlank c = false) ∧ ∀ c, rest.head? = some c → isBlank c = true := by
  constructor
  · intro h
    unfold argumentAt? at h
    split at h
    · rename_i hcond
      obtain ⟨hw, hblank⟩ := Bool.and_eq_true_iff.1 hcond
      obtain ⟨r, rfl⟩ := Text.startsWith_iff.1 hw
      rw [List.drop_left] at h hblank
      have ha : (Text.trimLeft r).takeWhile (!isBlank ·) = a ∧ a ≠ [] := by
        split at h
        · cases h
        · rename_i hne
          obtain rfl := Option.some.inj h
          exact ⟨rfl, hne⟩
      refine ⟨r.takeWhile isBlank, (Text.trimLeft r).dropWhile (!isBlank ·), ?_, ?_, ?_, ha.2, ?_, ?_⟩
      · rw [← ha.1, List.takeWhile_append_dropWhile, Text.trimLeft, List.takeWhile_append_dropWhile]
      · cases r with
        | nil => cases hblank
        | cons c cs =>
          have hc : isBlank c = true := hblank
          simp [hc]
      · exact List.all_eq_true.1 List.all_takeWhile
      · intro c hc
        rw [← ha.1] at hc
        simpa using List.all_eq_true.1 List.all_takeWhile c hc
      · exact fun c hc => head?_dropWhile_nonblank hc
    · cases h
  · rintro ⟨blanks, rest, rfl, hne, hb, ha, hac, hrest⟩
    obtain ⟨b, bs, rfl⟩ := List.exists_cons_of_ne_nil hne
    obtain ⟨c, cs, rfl⟩ := List.exists_cons_of_ne_nil ha
    have hw : Text.startsWith (w ++ (b :: bs ++ (c :: cs ++ rest))) w = true := Text.startsWith_iff.2 ⟨_, rfl⟩
    have hblank : Text.startsBlank (b :: bs ++ (c :: cs ++ rest)) = true := hb b List.mem_cons_self
    have htrim : Text.trimLeft (b :: bs ++ (c :: cs ++ rest)) = c :: cs ++ rest := by
      rw [Text.trimLeft, List.dropWhile_append_of_pos hb, List.cons_append,
        List.dropWhile_cons_of_neg (by simp [hac c List.mem_cons_self])]
    have hrun : (c :: cs ++ rest).takeWhile (!isBlank ·) = c :: cs := by
      rw [List.takeWhile_append_of_pos (fun x hx => by simp [hac x hx])]
      cases rest with
      | nil => simp
      | cons x xs => simp [hrest x rfl]
    rw [argumentAt?, List.drop_left, hw, hblank, htrim, hrun]
    rfl

theorem argumentAt?_isSome_iff {w t : Text} : (argumentAt? w t).isSome = true ↔
    ∃ blanks c rest, t = w ++ (blanks ++ c :: rest) ∧ blanks ≠ [] ∧ (∀ b ∈ blanks, isBlank b = true) ∧
      isBlank c = false := by
  constructor
  · intro h
    obtain ⟨a, ha⟩ := Option.isSome_iff_exists.1 h
    obtain ⟨blanks, rest, rfl, hne, hblank, hane, hac, -⟩ := argumentAt?_eq_some_iff.1 ha
    obtain ⟨c, cs, rfl⟩ := List.exists_cons_of_ne_nil hane
    exact ⟨blanks, c, cs ++ rest, rfl, hne, hblank, hac c List.mem_cons_self⟩
  · rintro ⟨blanks, c, rest, rfl, hne, hblank, hc⟩
    refine Option.isSome_iff_exists.2 ⟨c :: rest.takeWhile (!isBlank ·), argumentAt?_eq_some_iff.2
      ⟨blanks, rest.dropWhile (!isBlank ·), ?_, hne, hblank, by simp, ?_, ?_⟩⟩
    · rw [List.cons_append, List.takeWhile_append_dropWhile]
    · intro x hx
      rcases List.mem_cons.1 hx with rfl | hx
      · exact hc
      · simpa using List.all_eq_true.1 List.all_takeWhile x hx
    · exact fun x hx => head?_dropWhile_nonblank hx

/-- **A command has an argument exactly if it begins a token and something follows it after blanks.** -/
theorem argument?_isSome_iff {w t : Text} : (argument? w t).isSome = true ↔ HasArgument w t := by
  unfold argument?
  rw [argumentFrom_eq_leftmost, Option.isSome_map, leftmost_isSome_iff (outside_nil (argumentAt?_nil w))]
  constructor
  · rintro ⟨before, post, rfl, h⟩
    obtain ⟨hb, hs⟩ := outside_isSome_iff.1 h
    obtain ⟨blanks, c, rest, rfl, hne, hblank, hc⟩ := argumentAt?_isSome_iff.1 hs
    exact ⟨before, blanks, c, rest, rfl, hb, hne, hblank, hc⟩
  · rintro ⟨before, blanks, c, rest, rfl, hb, hne, hblank, hc⟩
    exact ⟨before, w ++ (blanks ++ c :: rest), rfl,
      outside_isSome_iff.2 ⟨hb, argumentAt?_isSome_iff.2 ⟨blanks, c, rest, rfl, hne, hblank, hc⟩⟩⟩

theorem infix_of_argument? {w t a : Text} (h : argument? w t = some a) : a <:+: t := by
  unfold argument? at h
  rw [argumentFrom_eq_leftmost] at h
  obtain ⟨⟨before, a'⟩, hp, rfl⟩ := Option.map_eq_some_iff.1 h
  obtain ⟨post, rfl, ha, -⟩ := (leftmost_eq_some_iff (outside_nil (argumentAt?_nil w))).1 hp
  obtain ⟨blanks, rest, rfl, -⟩ := argumentAt?_eq_some_iff.1 (outside_eq_some ha)
  exact ⟨before ++ w ++ blanks, rest, by simp⟩

end Command
end Scriptwright
