import Mathlib.Data.List.Find
import Scriptwright.Proofs.Recognition
import Scriptwright.Proofs.Runs
import Scriptwright.Report.Basic
/-!
# Commands without a counterpart

A command is looked for place by place, and at one place in the order of the list, so one that begins another is tried
there too.  For commands made of token characters all this comes to a look at the tokens of the text: a token is a
command or it is none, and the first that is one is found (`map_find?_eq`).  Neither the order of the list nor what is
in it twice nor the empty names in it make a difference (`unsupported_by_tokens`).
-/
namespace Scriptwright

open Text (isTokenChar startsToken runs IsRun Cut)

namespace Text

/-- The maximal runs of token characters. -/
def tokens (t : Text) : List Text := (runs t).filter startsToken

theorem IsRun.startsToken {b : Bool} {w : Text} (h : IsRun b w) : Text.startsToken w = b := by
  obtain ⟨c, w', rfl⟩ := List.exists_cons_of_ne_nil h.ne_nil
  exact h.all c List.mem_cons_self

end Text

namespace Command

/-- Every command is made of token characters. -/
def OfTokens (commands : List Text) : Prop := ∀ w ∈ commands, ∀ c ∈ w, isTokenChar c = true

/-! ## One run further -/

/-- A token ends where the next character is none of it. -/
theorem eq_of_append_eq {v w r t : Text} (hv : ∀ c ∈ v, isTokenChar c = true) (hw : ∀ c ∈ w, isTokenChar c = true)
    (hr : startsToken r = false) (ht : startsToken t = false) (h : v ++ r = w ++ t) : v = w := by
  have hfront : ∀ {x y : Text}, (∀ c ∈ x, isTokenChar c = true) → startsToken y = false →
      (x ++ y).takeWhile isTokenChar = x := by
    intro x y hx hy
    rw [List.takeWhile_append_of_pos hx]
    cases y with
    | nil => simp
    | cons c y =>
      have hc : isTokenChar c = false := hy
      simp [hc]
  rw [← hfront hv hr, h, hfront hw ht]

section Search

variable {commands : List Text} (hc : OfTokens commands)

include hc

/-- **In front of a token a command fits exactly if it is the token.** -/
theorem heads?_token {w t : Text} (hw : IsRun true w) (ht : startsToken t = false) :
    heads? commands (w ++ t) = if w ∈ commands then some w else none := by
  cases h : heads? commands (w ++ t) with
  | none =>
    have hnot : w ∉ commands := fun hmem => by
      have hsome := heads?_isSome hmem hw.ne_nil ht
      rw [h] at hsome
      cases hsome
    rw [if_neg hnot]
  | some v =>
    obtain ⟨hv, -, r, heq, hr⟩ := heads?_eq_some h
    obtain rfl : w = v := eq_of_append_eq hw.all (hc v hv) ht hr heq
    rw [if_pos hv]

theorem heads?_other {c : Char} (h : isTokenChar c = false) (t : Text) : heads? commands (c :: t) = none := by
  cases hfind : heads? commands (c :: t) with
  | none => rfl
  | some v =>
    obtain ⟨hv, hne, r, heq, -⟩ := heads?_eq_some hfind
    obtain ⟨x, v', rfl⟩ := List.exists_cons_of_ne_nil hne
    obtain ⟨rfl, -⟩ := List.cons.inj heq
    rw [hc _ hv c List.mem_cons_self] at h
    cases h

omit hc in
theorem map_findFrom_cons {b : Bool} {c : Char} {t : Text} (h : b = true ∨ heads? commands (c :: t) = none) :
    (findFrom commands b (c :: t)).map (·.1) = (findFrom commands (isTokenChar c) t).map (·.1) := by
  have hnone : (if b then none else heads? commands (c :: t)) = none := by
    rcases h with rfl | h
    · rfl
    · rw [h, ite_self]
  rw [findFrom, hnone, Option.map_map]
  rfl

omit hc in
theorem map_findFrom_inside {t : Text} : ∀ {w : Text}, (∀ c ∈ w, isTokenChar c = true) →
    (findFrom commands true (w ++ t)).map (·.1) = (findFrom commands true t).map (·.1)
  | [], _ => rfl
  | c :: w, h => by
    obtain ⟨hchar, hw⟩ := List.forall_mem_cons.1 h
    rw [List.cons_append, map_findFrom_cons (.inl rfl), hchar, map_findFrom_inside hw]

theorem map_findFrom_of_not_startsToken {t : Text} (h : startsToken t = false) (b : Bool) :
    (findFrom commands b t).map (·.1) = (findFrom commands false t).map (·.1) := by
  cases t with
  | nil => rfl
  | cons c t =>
    have hnone := heads?_other hc (Text.startsToken_eq_false_iff.1 h c rfl) t
    rw [map_findFrom_cons (.inr hnone), map_findFrom_cons (.inr hnone)]

theorem map_findFrom_gap {t : Text} : ∀ {w : Text}, (∀ c ∈ w, isTokenChar c = false) →
    (findFrom commands false (w ++ t)).map (·.1) = (findFrom commands false t).map (·.1)
  | [], _ => rfl
  | c :: w, h => by
    obtain ⟨hchar, hw⟩ := List.forall_mem_cons.1 h
    rw [List.cons_append, map_findFrom_cons (.inr (heads?_other hc hchar _)), hchar, map_findFrom_gap hw]

theorem map_findFrom_token {w t : Text} (hw : IsRun true w) (ht : startsToken t = false) :
    (findFrom commands false (w ++ t)).map (·.1) =
      if w ∈ commands then some w else (findFrom commands false t).map (·.1) := by
  have hheads := heads?_token hc hw ht
  obtain ⟨c, v, rfl⟩ := List.exists_cons_of_ne_nil hw.ne_nil
  obtain ⟨hchar, hv⟩ := List.forall_mem_cons.1 hw.all
  rw [List.cons_append] at hheads ⊢
  by_cases hmem : c :: v ∈ commands
  · rw [if_pos hmem] at hheads ⊢
    rw [findFrom]
    simp [hheads]
  · rw [if_neg hmem] at hheads ⊢
    rw [map_findFrom_cons (.inr hheads), hchar, map_findFrom_inside hv, map_findFrom_of_not_startsToken hc ht]

theorem map_findFrom_of_cut {rs : List Text} {t : Text} (h : Cut rs t) :
    (findFrom commands false t).map (·.1) = (rs.filter startsToken).find? fun w => decide (w ∈ commands) := by
  induction h with
  | nil => rfl
  | @run b w t rs hw ht _ ih =>
    rw [List.filter_cons, hw.startsToken]
    cases b with
    | true =>
      rw [map_findFrom_token hc hw (Text.startsToken_eq_false_iff.2 ht), ih, if_pos rfl, List.find?_cons]
      by_cases hmem : w ∈ commands <;> simp [hmem]
    | false =>
      rw [map_findFrom_gap hc hw.all, ih]
      rfl

/-- **The command that is found is the first token of the text that is a command.** -/
theorem map_find?_eq (t : Text) :
    (find? commands t).map (·.1) = t.tokens.find? fun w => decide (w ∈ commands) :=
  map_findFrom_of_cut hc (Text.cut_runs t)

end Search

theorem ne_nil_of_mem_tokens {w t : Text} (h : w ∈ t.tokens) : w ≠ [] := by
  rintro rfl
  cases (List.mem_filter.1 h).2

end Command

/-! ## Lines that no earlier rule recognises -/

namespace Construct

theorem unsupported?_eq {commands : List Text} (hc : Command.OfTokens commands) (t : Text) :
    unsupported? commands t = (t.tokens.find? fun w => decide (w ∈ commands)).map .unsupported := by
  rw [← Command.map_find?_eq hc, Option.map_map]
  rfl

/-- The rule for commands is the last of the table. -/
theorem ofText_of_no_earlier {s : Settings} {d : Dialect} {t : Text}
    (h : ∀ r ∈ Rule.table s, r.kind.Precedes .unsupportedCommand → r.apply d t = none) :
    ofText s d t = (unsupported? s.unsupportedCommands t).getD .unclassified := by
  have htable : Rule.table s = (Rule.table s).dropLast ++ [⟨.unsupportedCommand, false, unsupported? s.unsupportedCommands⟩] :=
    rfl
  have hearlier : (Rule.table s).dropLast.findSome? (fun r => r.apply d t) = none := by
    rw [List.findSome?_eq_none_iff]
    intro r hr
    refine h r (List.dropLast_subset _ hr) ?_
    have hkind : r.kind ∈ (Rule.table s).dropLast.map (·.kind) := List.mem_map_of_mem hr
    have hall : ∀ k ∈ Kind.all.take 9, k.Precedes .unsupportedCommand := by decide
    exact hall _ hkind
  unfold ofText
  rw [htable, List.findSome?_append, hearlier, Option.none_or]
  cases hcommand : unsupported? s.unsupportedCommands t <;> simp [Rule.apply, hcommand]

/-- Lists with the same commands make the same table of rules. -/
theorem ofText_congr {s : Settings} {commands : List Text} (hs : Command.OfTokens s.unsupportedCommands)
    (h : ∀ w, w ≠ [] → (w ∈ commands ↔ w ∈ s.unsupportedCommands)) (d : Dialect) (t : Text) :
    ofText { s with unsupportedCommands := commands } d t = ofText s d t := by
  have hc : Command.OfTokens commands := fun w hw c hmem =>
    hs w ((h w (List.ne_nil_of_mem hmem)).1 hw) c hmem
  have hsame : unsupported? commands = unsupported? s.unsupportedCommands := by
    funext t
    rw [unsupported?_eq hc, unsupported?_eq hs, List.find?_congr]
    intro w hw
    rw [decide_eq_decide]
    exact h w (Command.ne_nil_of_mem_tokens hw)
  unfold ofText Rule.table
  rw [hsame]

end Construct

theorem Outcome.ofConstruct_withCommands (s : Settings) (commands : List Text) (l : Line) (c : Construct) :
    ofConstruct { s with unsupportedCommands := commands } l c = ofConstruct s l c := by
  cases c <;> rfl

/-- **Which lines hold a command without a counterpart, and which one, is told by the tokens.**  A line that no earlier
rule recognises is of that kind exactly if one of its tokens is a command, and the first such token is the one that is
named.  So lists with the same commands, the empty name aside, give the same report of every script, in whatever order
they stand and however often. -/
theorem unsupported_by_tokens (s : Settings) (hs : Command.OfTokens s.unsupportedCommands) :
    (∀ (d : Dialect) (l : Line),
      (∀ r ∈ Rule.table s, r.kind.Precedes .unsupportedCommand → r.apply d l.text = none) →
      (l.kind s d = .unsupportedCommand ↔ ∃ w ∈ l.text.tokens, w ∈ s.unsupportedCommands) ∧
      ∀ w, (l.text.tokens.find? fun w => decide (w ∈ s.unsupportedCommands)) = some w →
        Outcome.ofLine s d l =
          ⟨.unsupportedCommand,
            ["# Unsupported construct: ".toList ++ l.text, "# Log: \"Unsupported construct: ".toList ++ w ++ ['"']],
            some ⟨.unsupported, l.number, Text.upper w ++ " command: ".toList ++ l.text⟩⟩) ∧
    ∀ commands : List Text, (∀ w, w ≠ [] → (w ∈ commands ↔ w ∈ s.unsupportedCommands)) →
      ∀ (d : Dialect) (language : Language) (t : Text),
        convert { s with unsupportedCommands := commands } d language t = convert s d language t := by
  refine ⟨fun d l h => ?_, fun commands h d language t => ?_⟩
  · have hconstruct := Construct.ofText_of_no_earlier h
    rw [Construct.unsupported?_eq hs] at hconstruct
    refine ⟨?_, fun w hw => ?_⟩
    · unfold Line.kind
      rw [hconstruct]
      cases hfind : l.text.tokens.find? fun w => decide (w ∈ s.unsupportedCommands) with
      | none => simpa [Construct.kind] using List.find?_eq_none.1 hfind
      | some w =>
        have hmem : w ∈ s.unsupportedCommands := by simpa using List.find?_some hfind
        exact iff_of_true rfl ⟨w, List.mem_of_find?_eq_some hfind, hmem⟩
    · rw [Outcome.ofLine, hconstruct, hw]
      rfl
  · have houtcome : ∀ l, Outcome.ofLine { s with unsupportedCommands := commands } d l = Outcome.ofLine s d l := by
      intro l
      rw [Outcome.ofLine, Construct.ofText_congr hs h, Outcome.ofConstruct_withCommands]
      rfl
    unfold convert
    rw [List.map_congr_left fun l _ => houtcome l]
    cases d <;> rfl

/-- Commands that begin each other, and a list of them with repetitions and an empty name. -/
theorem unsupported_by_tokens_of_beginnings :
    let s : Settings := { unsupportedCommands := ["apt".toList, "apt-get".toList, "aptitude".toList] }
    let commands := [[], "aptitude".toList, "apt-get".toList, "apt".toList, "apt".toList]
    let l : Line := ⟨4, "sudo apt-get -y x; apt".toList⟩
    (Command.OfTokens s.unsupportedCommands ∧
      (∀ r ∈ Rule.table s, r.kind.Precedes .unsupportedCommand → r.apply .dataProcessing l.text = none) ∧
      ∀ w, w ≠ [] → (w ∈ commands ↔ w ∈ s.unsupportedCommands)) ∧
    l.kind s .dataProcessing = .unsupportedCommand ∧
    (Outcome.ofLine s .dataProcessing l).lines[1]? = some "# Log: \"Unsupported construct: apt-get\"".toList ∧
    convert { s with unsupportedCommands := commands } .general .auto l.raw = convert s .general .auto l.raw := by
  intro s commands l
  have hs : Command.OfTokens s.unsupportedCommands := fun w hw c =>
    List.all_eq_true.1 (List.all_eq_true.1 (show s.unsupportedCommands.all (·.all isTokenChar) = true by decide) w hw) c
  have hearlier : ∀ r ∈ Rule.table s, r.kind.Precedes .unsupportedCommand → r.apply .dataProcessing l.text = none := by
    decide
  have hsame : ∀ w, w ≠ [] → (w ∈ commands ↔ w ∈ s.unsupportedCommands) := by
    intro w hw
    simp only [commands, s, List.mem_cons, List.not_mem_nil, or_false]
    tauto
  have hfind : (l.text.tokens.find? fun w => decide (w ∈ s.unsupportedCommands)) = some "apt-get".toList := by decide
  obtain ⟨hline, hreport⟩ := unsupported_by_tokens s hs
  obtain ⟨hkind, hnamed⟩ := hline .dataProcessing l hearlier
  refine ⟨⟨hs, hearlier, hsame⟩, hkind.2 ⟨"apt-get".toList, ?_, by decide⟩, ?_, hreport commands hsame _ _ _⟩
  · exact List.mem_of_find?_eq_some hfind
  · rw [hnamed _ hfind]
    rfl

end Scriptwright
