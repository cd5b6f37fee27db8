import Scriptwright.Proofs.Runs
import Scriptwright.Script.Condition
/-!
# Comparison operators become symbols run by run

The operators of a condition are replaced in one pass over its characters, which looks ahead behind a hyphen and
remembers whether a token goes on.  What comes out is a map over the runs of the condition: a run that is an operator
becomes its symbol, and every other run stays (`withSymbols_eq_flatMap`).  A symbol holds no token character, so it
neither joins the runs around it nor makes a new one, and a second pass finds nothing (`withSymbols_withSymbols`).
-/
namespace Scriptwright
namespace Condition

open Text (isTokenChar startsToken IsRun Cut runs)

/-- The comparison operators of the shell with their symbols. -/
def operators : List (Text × Text) :=
  [("-eq".toList, "==".toList), ("-ne".toList, "!=".toList), ("-lt".toList, "<".toList), ("-gt".toList, ">".toList),
   ("-le".toList, "<=".toList), ("-ge".toList, ">=".toList)]

/-- An operator's symbol; any other text as it is. -/
def symbolOf (w : Text) : Text := (operators.lookup w).getD w

/-! ## Operators and symbols -/

theorem comparison?_eq_some_iff {a b : Char} {symbol : Text} :
    comparison? a b = some symbol ↔ (['-', a, b], symbol) ∈ operators := by
  constructor
  · intro h
    unfold comparison? at h
    split at h
    case h_7 => cases h
    all_goals
      obtain rfl := Option.some.inj h
      decide
  · intro h
    simp only [operators, List.mem_cons, List.not_mem_nil, or_false, Prod.mk.injEq] at h
    rcases h with ⟨h, rfl⟩ | ⟨h, rfl⟩ | ⟨h, rfl⟩ | ⟨h, rfl⟩ | ⟨h, rfl⟩ | ⟨h, rfl⟩
    all_goals
      simp at h
      obtain ⟨rfl, rfl⟩ := h
      rfl

theorem of_mem_operators {w symbol : Text} (h : (w, symbol) ∈ operators) :
    IsRun true w ∧ IsRun false symbol ∧ symbol.length < w.length ∧ symbolOf w = symbol ∧ ∃ a b, w = ['-', a, b] := by
  simp only [operators, List.mem_cons, List.not_mem_nil, or_false, Prod.mk.injEq] at h
  rcases h with ⟨rfl, rfl⟩ | ⟨rfl, rfl⟩ | ⟨rfl, rfl⟩ | ⟨rfl, rfl⟩ | ⟨rfl, rfl⟩ | ⟨rfl, rfl⟩
  all_goals exact ⟨.of_all (by decide) (by decide), .of_all (by decide) (by decide), by decide, rfl, _, _, rfl⟩

theorem symbolOf_cases (w : Text) :
    (w, symbolOf w) ∈ operators ∨ symbolOf w = w ∧ ∀ symbol, (w, symbol) ∉ operators := by
  cases h : operators.lookup w with
  | some symbol =>
    obtain ⟨before, after, heq, -⟩ := List.lookup_eq_some_iff.1 h
    left
    rw [symbolOf, h, Option.getD_some, heq]
    exact List.mem_append_right _ List.mem_cons_self
  | none =>
    right
    refine ⟨by rw [symbolOf, h, Option.getD_none], fun symbol hmem => ?_⟩
    simpa using List.lookup_eq_none_iff.1 h _ hmem

/-! ## One pass over a run -/

theorem ne_hyphen {c : Char} (h : isTokenChar c = false) : c ≠ '-' := by
  rintro rfl
  exact absurd h (by decide)

theorem symbolsFrom_cons {b : Bool} {c : Char} (h : b = true ∨ c ≠ '-') (t : Text) :
    symbolsFrom b (c :: t) = c :: symbolsFrom (isTokenChar c) t := by
  rw [symbolsFrom]
  rintro a b' rest rfl rfl
  simp at h

/-- A hyphen that opens no operator stays. -/
theorem symbolsFrom_hyphen {t : Text}
    (h : ∀ a b rest, t = a :: b :: rest → comparison? a b = none ∨ startsToken rest = true) :
    symbolsFrom false ('-' :: t) = '-' :: symbolsFrom true t := by
  match t with
  | [] => rfl
  | [_] => rfl
  | a :: b :: rest =>
    rw [symbolsFrom]
    cases hc : comparison? a b with
    | none => rfl
    | some symbol =>
      rcases h a b rest rfl with h | h
      · rw [hc] at h
        cases h
      · simp only [h, if_true]

/-- What was before matters only to a token. -/
theorem symbolsFrom_of_not_startsToken {t : Text} (h : startsToken t = false) (b : Bool) :
    symbolsFrom b t = symbolsFrom false t := by
  cases t with
  | nil => cases b <;> rfl
  | cons c t =>
    have hc := ne_hyphen (Text.startsToken_eq_false_iff.1 h c rfl)
    rw [symbolsFrom_cons (.inr hc), symbolsFrom_cons (.inr hc)]

theorem symbolsFrom_inside {t : Text} : ∀ {w : Text}, (∀ c ∈ w, isTokenChar c = true) →
    symbolsFrom true (w ++ t) = w ++ symbolsFrom true t
  | [], _ => rfl
  | c :: w, h => by
    obtain ⟨hc, hw⟩ := List.forall_mem_cons.1 h
    rw [List.cons_append, symbolsFrom_cons (.inl rfl), hc, symbolsFrom_inside hw, List.cons_append]

theorem symbolsFrom_gap {t : Text} : ∀ {w : Text}, IsRun false w → ∀ b, symbolsFrom b (w ++ t) = w ++ symbolsFrom false t
  | [], h, _ => absurd rfl h.ne_nil
  | c :: w, h, b => by
    obtain ⟨hc, hw⟩ := List.forall_mem_cons.1 h.all
    rw [List.cons_append, symbolsFrom_cons (.inr (ne_hyphen hc)), hc]
    by_cases hnil : w = []
    · rw [hnil]; rfl
    · rw [symbolsFrom_gap ⟨hnil, hw⟩, List.cons_append]

/-- Behind the hyphen of a run that is no operator the pass finds none: the letters of an operator would both belong to the
run, and it would end with them. -/
theorem lookahead_of_run {v t : Text} (hv : ∀ c ∈ v, isTokenChar c = true) (ht : startsToken t = false)
    (hnot : ∀ symbol, ('-' :: v, symbol) ∉ operators) {a b : Char} {rest : Text} (heq : v ++ t = a :: b :: rest) :
    comparison? a b = none ∨ startsToken rest = true := by
  cases hab : comparison? a b with
  | none => exact .inl rfl
  | some symbol =>
    right
    have hmem := comparison?_eq_some_iff.1 hab
    have htokens := (of_mem_operators hmem).1.all
    match v, hv, hnot with
    | [], _, _ =>
      have ha := Text.startsToken_eq_false_iff.1 ht a (by rw [show t = a :: b :: rest from heq]; rfl)
      rw [htokens a (by simp)] at ha
      cases ha
    | [x], _, _ =>
      obtain ⟨-, ht'⟩ : x = a ∧ t = b :: rest := by simpa using heq
      have hb := Text.startsToken_eq_false_iff.1 ht b (by rw [ht']; rfl)
      rw [htokens b (by simp)] at hb
      cases hb
    | [x, y], _, hnot =>
      obtain ⟨rfl, rfl, -⟩ : x = a ∧ y = b ∧ t = rest := by simpa using heq
      exact absurd hmem (hnot symbol)
    | x :: y :: z :: v, hv, _ =>
      obtain ⟨-, -, rfl⟩ : x = a ∧ y = b ∧ z :: (v ++ t) = rest := by simpa using heq
      exact hv z (by simp)

/-- **A run of token characters becomes its symbol if it is an operator, and stays otherwise.** -/
theorem symbolsFrom_run {w t : Text} (hw : IsRun true w) (ht : startsToken t = false) :
    symbolsFrom false (w ++ t) = symbolOf w ++ symbolsFrom false t := by
  rcases symbolOf_cases w with hmem | ⟨hsame, hnot⟩
  · obtain ⟨-, -, -, -, a, b, hab⟩ := of_mem_operators hmem
    rw [hab] at hmem ⊢
    have hc := comparison?_eq_some_iff.2 hmem
    show symbolsFrom false ('-' :: a :: b :: t) = _
    rw [symbolsFrom, hc]
    simp only [ht, Bool.false_eq_true, if_false]
    rw [symbolsFrom_of_not_startsToken ht]
  · obtain ⟨c, v, rfl⟩ := List.exists_cons_of_ne_nil hw.ne_nil
    obtain ⟨hc, hv⟩ := List.forall_mem_cons.1 hw.all
    have hfirst : symbolsFrom false (c :: (v ++ t)) = c :: symbolsFrom true (v ++ t) := by
      by_cases hhyphen : c = '-'
      · subst hhyphen
        exact symbolsFrom_hyphen fun a b rest => lookahead_of_run hv ht hnot
      · rw [symbolsFrom_cons (.inr hhyphen), hc]
    rw [hsame, List.cons_append, hfirst, symbolsFrom_inside hv, symbolsFrom_of_not_startsToken ht, List.cons_append]

/-! ## The pass as a map over runs -/

theorem symbolOf_of_isRun_false {w : Text} (hw : IsRun false w) : symbolOf w = w := by
  rcases symbolOf_cases w with hmem | ⟨hsame, -⟩
  · obtain ⟨c, v, rfl⟩ := List.exists_cons_of_ne_nil hw.ne_nil
    have htoken := (of_mem_operators hmem).1.all c List.mem_cons_self
    rw [hw.all c List.mem_cons_self] at htoken
    cases htoken
  · exact hsame

/-- One run further, whatever its class. -/
theorem symbolsFrom_append {b : Bool} {w t : Text} (hw : IsRun b w) (ht : ∀ c, t.head? = some c → isTokenChar c = !b) :
    symbolsFrom false (w ++ t) = symbolOf w ++ symbolsFrom false t := by
  cases b with
  | true => exact symbolsFrom_run hw (Text.startsToken_eq_false_iff.2 ht)
  | false => rw [symbolsFrom_gap hw, symbolOf_of_isRun_false hw]

theorem withSymbols_of_cut {rs : List Text} {t : Text} (h : Cut rs t) : withSymbols t = rs.flatMap symbolOf := by
  induction h with
  | nil => rfl
  | run hw ht _ ih => rw [withSymbols, symbolsFrom_append hw ht, List.flatMap_cons, ← ih, withSymbols]

theorem withSymbols_eq_flatMap (t : Text) : withSymbols t = (runs t).flatMap symbolOf :=
  withSymbols_of_cut (Text.cut_runs t)

/-! ## A second pass -/

theorem startsToken_symbolsFrom {t : Text} (h : startsToken t = false) (b : Bool) :
    startsToken (symbolsFrom b t) = false := by
  cases t with
  | nil => cases b <;> rfl
  | cons c t =>
    rw [symbolsFrom_cons (.inr (ne_hyphen (Text.startsToken_eq_false_iff.1 h c rfl)))]
    exact h

theorem withSymbols_withSymbols (t : Text) : withSymbols (withSymbols t) = withSymbols t := by
  unfold withSymbols
  obtain ⟨rs, h⟩ := Text.exists_cut t
  induction h with
  | nil => rfl
  | @run b w t rs hw ht _ ih =>
    rw [symbolsFrom_append hw ht]
    rcases symbolOf_cases w with hmem | ⟨hsame, -⟩
    · -- the symbol is a gap now
      obtain ⟨-, hsymbol, -⟩ := of_mem_operators hmem
      rw [symbolsFrom_gap hsymbol, ih]
    · rw [hsame]
      cases b with
      | true =>
        rw [symbolsFrom_run hw (startsToken_symbolsFrom (Text.startsToken_eq_false_iff.2 ht) false), hsame, ih]
      | false => rw [symbolsFrom_gap hw, ih]

theorem length_symbolOf_le (w : Text) : (symbolOf w).length ≤ w.length := by
  rcases symbolOf_cases w with hmem | ⟨hsame, -⟩
  · exact Nat.le_of_lt (of_mem_operators hmem).2.2.1
  · rw [hsame]

theorem length_flatMap_symbolOf_le : ∀ rs : List Text, (rs.flatMap symbolOf).length ≤ rs.flatten.length
  | [] => Nat.le_refl 0
  | w :: rs => by
    have hw := length_symbolOf_le w
    have ih := length_flatMap_symbolOf_le rs
    rw [List.flatMap_cons, List.flatten_cons, List.length_append, List.length_append]
    omega

/-- Where an operator stands the pass shortens the text. -/
theorem length_withSymbols_lt {w symbol t : Text} (h : (w, symbol) ∈ operators) (ht : Command.IsTokenOf w t) :
    (withSymbols t).length < t.length := by
  obtain ⟨hw, -, hlt, hsymbol, -⟩ := of_mem_operators h
  obtain ⟨before, after, hruns⟩ := List.append_of_mem ((Text.mem_runs_iff hw).2 ht)
  have hbefore := length_flatMap_symbolOf_le before
  have hafter := length_flatMap_symbolOf_le after
  have htext := congrArg List.length (Text.flatten_runs t)
  rw [hruns] at htext
  rw [withSymbols_eq_flatMap, hruns]
  simp only [List.flatMap_append, List.flatMap_cons, List.flatten_append, List.flatten_cons, List.length_append,
    hsymbol] at htext ⊢
  omega

/-- **Operators become symbols run by run.**  A condition is cut into its runs, each that is an operator becomes its
symbol, and all else stays in its place.  No operator is left as a whole token, and a second pass changes nothing. -/
theorem symbols_by_runs (t : Text) :
    withSymbols t = (runs t).flatMap symbolOf ∧
    (∀ op ∈ operators, ¬ Command.IsTokenOf op.1 (withSymbols t)) ∧
    withSymbols (withSymbols t) = withSymbols t := by
  refine ⟨withSymbols_eq_flatMap t, fun op hop htoken => ?_, withSymbols_withSymbols t⟩
  have hlt := length_withSymbols_lt hop htoken
  rw [withSymbols_withSymbols] at hlt
  exact Nat.lt_irrefl _ hlt

end Condition
end Scriptwright
