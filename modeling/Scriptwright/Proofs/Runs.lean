import Mathlib.Data.List.SplitBy
import Scriptwright.Proofs.Search
/-!
# Runs of token characters

A text falls into runs: maximal stretches of token characters, and the stretches of other characters between them.
`Cut` says which lists of texts are the runs of which text, and the list library's `splitBy` computes them (`runs_eq_iff`).

A word that is made of token characters is a run of a text exactly if it stands in the text as a whole token
(`mem_runs_iff`).  Searching for whole tokens and looking at runs are the same thing.
-/
namespace Scriptwright
namespace Text

open Command (EndsToken IsTokenOf)

/-- The maximal runs of token characters, and those of other characters between them. -/
def runs (t : Text) : List Text := t.splitBy fun a b => isTokenChar a == isTokenChar b

/-- Characters of one class, at least one. -/
structure IsRun (ofTokens : Bool) (w : Text) : Prop where
  ne_nil : w ≠ []
  all : ∀ c ∈ w, isTokenChar c = ofTokens

/-- The texts are the runs of the text: one after the other they make it up, and where one ends the class changes. -/
inductive Cut : List Text → Text → Prop
  | nil : Cut [] []
  | run {ofTokens : Bool} {w t : Text} {rs : List Text} (hw : IsRun ofTokens w)
      (ht : ∀ c, t.head? = some c → isTokenChar c = !ofTokens) (h : Cut rs t) : Cut (w :: rs) (w ++ t)

theorem IsRun.of_all {b : Bool} {w : Text} (hw : w ≠ []) (h : w.all (fun c => isTokenChar c == b) = true) : IsRun b w :=
  ⟨hw, fun c hc => eq_of_beq (List.all_eq_true.1 h c hc)⟩

theorem IsRun.isChain {b : Bool} {w : Text} (h : IsRun b w) :
    w.IsChain fun x y => (isTokenChar x == isTokenChar y) = true := by
  refine List.Pairwise.isChain (List.pairwise_of_forall_mem_list fun x hx y hy => ?_)
  rw [h.all x hx, h.all y hy]
  exact beq_self_eq_true b

theorem runs_append {a b : Text}
    (h : ∀ x ∈ a.getLast?, ∀ y ∈ b.head?, isTokenChar x = !isTokenChar y) : runs (a ++ b) = runs a ++ runs b := by
  refine List.splitBy_append fun x hx y hy => ?_
  rw [h x hx y hy]
  cases isTokenChar y <;> rfl

theorem IsRun.runs_append {b : Bool} {w t : Text} (hw : IsRun b w) (ht : ∀ c, t.head? = some c → isTokenChar c = !b) :
    runs (w ++ t) = w :: runs t := by
  rw [Text.runs_append fun x hx y hy => ?_, runs, List.splitBy_of_isChain hw.ne_nil hw.isChain]
  · rfl
  · rw [hw.all x (List.mem_of_getLast? hx), ht y hy, Bool.not_not]

theorem Cut.runs {rs : List Text} {t : Text} (h : Cut rs t) : runs t = rs := by
  induction h with
  | nil => rfl
  | run hw ht _ ih => rw [hw.runs_append ht, ih]

/-- A character in front goes to the first run or makes a run of its own. -/
theorem Cut.cons {rs : List Text} {t : Text} (c : Char) (h : Cut rs t) : ∃ rs', Cut rs' (c :: t) := by
  have hsingle : IsRun (isTokenChar c) [c] := ⟨List.cons_ne_nil c [], fun x hx => by rw [List.mem_singleton.1 hx]⟩
  cases h with
  | nil => exact ⟨[[c]], .run hsingle (fun _ hx => by cases hx) .nil⟩
  | @run b w t rs hw ht h =>
    by_cases hc : isTokenChar c = b
    · have hcons : IsRun b (c :: w) := ⟨List.cons_ne_nil c w, fun x hx => by
        rcases List.mem_cons.1 hx with rfl | hx
        · exact hc
        · exact hw.all x hx⟩
      exact ⟨(c :: w) :: rs, .run hcons ht h⟩
    · refine ⟨[c] :: w :: rs, .run hsingle (fun x hx => ?_) (.run hw ht h)⟩
      obtain ⟨y, w', rfl⟩ := List.exists_cons_of_ne_nil hw.ne_nil
      obtain rfl : y = x := by simpa using hx
      rw [hw.all y List.mem_cons_self]
      revert hc
      cases isTokenChar c <;> cases b <;> decide

theorem exists_cut : ∀ t : Text, ∃ rs, Cut rs t
  | [] => ⟨[], .nil⟩
  | c :: t =>
    have ⟨_, h⟩ := exists_cut t
    h.cons c

/-- **The runs of a text are the one way to cut it into runs.** -/
theorem runs_eq_iff {rs : List Text} {t : Text} : runs t = rs ↔ Cut rs t := by
  refine ⟨fun h => ?_, Cut.runs⟩
  obtain ⟨rs', hcut⟩ := exists_cut t
  rw [← h, hcut.runs]
  exact hcut

theorem cut_runs (t : Text) : Cut (runs t) t := runs_eq_iff.1 rfl

theorem flatten_runs (t : Text) : (runs t).flatten = t := List.flatten_splitBy _ t

/-! ## Whole tokens -/

theorem startsToken_eq_false_iff {t : Text} : startsToken t = false ↔ ∀ c, t.head? = some c → isTokenChar c = false := by
  cases t <;> simp [startsToken]

theorem not_endsToken_iff {t : Text} : ¬ EndsToken t ↔ ∀ c, t.getLast? = some c → isTokenChar c = false := by
  simp [EndsToken]

/-- A whole token is a run between the runs of what stands before and after it. -/
theorem runs_around {w before after : Text} (hw : IsRun true w) (hbefore : ¬ EndsToken before)
    (hafter : startsToken after = false) : runs (before ++ (w ++ after)) = runs before ++ w :: runs after := by
  rw [Text.runs_append fun x hx y hy => ?_, hw.runs_append (startsToken_eq_false_iff.1 hafter)]
  obtain ⟨z, w', rfl⟩ := List.exists_cons_of_ne_nil hw.ne_nil
  obtain rfl : z = y := by simpa using hy
  rw [hw.all z List.mem_cons_self, not_endsToken_iff.1 hbefore x hx]
  rfl

theorem Cut.isTokenOf {rs : List Text} {t : Text} (h : Cut rs t) {w : Text} (hw : IsRun true w) (hmem : w ∈ rs) :
    IsTokenOf w t := by
  induction h with
  | nil => cases hmem
  | @run b v t rs hv ht h ih =>
    obtain ⟨c, w', rfl⟩ := List.exists_cons_of_ne_nil hw.ne_nil
    rcases List.mem_cons.1 hmem with rfl | hmem
    · have hb : true = b := (hw.all c List.mem_cons_self).symm.trans (hv.all c List.mem_cons_self)
      refine ⟨[], t, rfl, by simp [EndsToken], startsToken_eq_false_iff.2 fun x hx => ?_⟩
      rw [ht x hx, ← hb]
      rfl
    · obtain ⟨before, after, rfl, hbefore, hafter⟩ := ih hmem
      refine ⟨v ++ before, after, by rw [List.append_assoc], not_endsToken_iff.2 fun x hx => ?_, hafter⟩
      rw [List.getLast?_append, Option.or_eq_some_iff] at hx
      rcases hx with hx | ⟨hnone, hx⟩
      · exact not_endsToken_iff.1 hbefore x hx
      · -- nothing stands between the run in front and the token, so the run is none of tokens
        obtain rfl := List.getLast?_eq_none_iff.1 hnone
        have hb := ht c rfl
        rw [hw.all c List.mem_cons_self] at hb
        rw [hv.all x (List.mem_of_getLast? hx)]
        simpa using hb.symm

/-- **The runs of token characters are the whole tokens.** -/
theorem mem_runs_iff {w t : Text} (hw : IsRun true w) : w ∈ runs t ↔ IsTokenOf w t := by
  refine ⟨(cut_runs t).isTokenOf hw, ?_⟩
  rintro ⟨before, after, rfl, hbefore, hafter⟩
  rw [runs_around hw hbefore hafter]
  exact List.mem_append_right _ List.mem_cons_self

end Text
end Scriptwright
