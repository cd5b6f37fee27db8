import Scriptwright.Proofs.Outcome
/-!
# Converting what was converted

Blank lines, comments and assignments are converted into what they are, and what is not understood into comments.  Such
lines are settled: converting them again, in any dialect and with any settings, gives the same line and no diagnostic
(`settled_lines_stay`).

For an assignment the line must be split again where it was split before.  The sign now stands between blanks, so it is
an assignment sign whatever the value begins with; and no sign comes up before it, because every equals sign of the
target has the neighbours it had, or had the sign itself for a neighbour (`FirstSign.not_isSign_in_target`).
-/
namespace Scriptwright

/-! ## The sign between blanks -/

namespace Assignment

theorem isComparisonStart_of_isBlank {c : Char} (h : Text.isBlank c = true) : isComparisonStart c = false := by
  cases hc : isComparisonStart c with
  | false => rfl
  | true =>
    simp only [isComparisonStart, Bool.or_eq_true, beq_iff_eq] at hc
    rcases hc with ((rfl | rfl) | rfl) | rfl <;> cases h

/-- **The target of the first sign holds no sign**, if a blank comes behind it. -/
theorem FirstSign.not_isSign_in_target {t before after b rest tail : Text} (h : FirstSign t before after)
    (htarget : Text.trim before = b ++ '=' :: rest) : ¬ IsSign b (rest ++ ' ' :: tail) := by
  intro hb
  obtain ⟨ht, hsign, hfirst⟩ := h
  obtain ⟨-, lead, trail, hbefore, hlead, htrail⟩ := Text.trim_eq_iff.1 htarget
  by_cases hnil : rest ++ trail = []
  · -- then the first sign stood right behind an equals sign
    obtain ⟨rfl, rfl⟩ := List.append_eq_nil_iff.1 hnil
    have hlast : before.getLast? = some '=' := by
      rw [hbefore]
      simp
    have := hsign.1 '=' hlast
    revert this
    decide
  · -- else the sign in the target was a sign before the first one
    have hearlier : IsSign (lead ++ b) (rest ++ trail ++ '=' :: after) := by
      constructor
      · intro c hc
        rw [List.getLast?_append, Option.or_eq_some_iff] at hc
        rcases hc with hc | ⟨-, hc⟩
        · exact hb.1 c hc
        · exact isComparisonStart_of_isBlank (hlead c (List.mem_of_getLast? hc))
      · cases rest with
        | cons c cs =>
          intro hpre
          obtain ⟨rfl, -⟩ := List.cons_prefix_cons.1 hpre
          exact hb.2 (List.cons_prefix_cons.2 ⟨rfl, List.nil_prefix⟩)
        | nil =>
          obtain ⟨c, cs, rfl⟩ := List.exists_cons_of_ne_nil hnil
          intro hpre
          obtain ⟨rfl, -⟩ := List.cons_prefix_cons.1 hpre
          have := htrail '=' List.mem_cons_self
          revert this
          decide
    have hle := hfirst (lead ++ b) (rest ++ trail ++ '=' :: after) (by rw [ht, hbefore]; simp) hearlier
    rw [hbefore] at hle
    simp only [List.length_append, List.length_cons] at hle
    omega

/-- **A sign set between blanks is the first sign again.** -/
theorem FirstSign.respaced {t before after after' : Text} (h : FirstSign t before after) (hafter : ¬ ['='] <+: after') :
    FirstSign (Text.trim before ++ ' ' :: '=' :: after') (Text.trim before ++ [' ']) after' := by
  refine ⟨by simp, ⟨fun c hc => ?_, hafter⟩, fun b a ht hb => Nat.le_of_not_lt fun hlt => ?_⟩
  · obtain rfl : ' ' = c := by simpa using hc
    rfl
  · -- a sign further left stands within the target
    rcases List.append_eq_append_iff.1 ht with ⟨m, rfl, hm⟩ | ⟨m, hm, ha⟩
    · cases m with
      | nil => simp at hm
      | cons c cs =>
        simp only [List.length_append, List.length_cons, List.length_nil] at hlt
        omega
    · cases m with
      | nil => simp at ha
      | cons c rest =>
        obtain ⟨rfl, rfl⟩ : '=' = c ∧ a = rest ++ ' ' :: '=' :: after' := by simpa using ha
        exact h.not_isSign_in_target hm hb

end Assignment

namespace Construct

open Assignment (split? isTarget)

theorem isTarget_nil : isTarget [] = false := rfl

theorem isTarget_comment (r : Text) : isTarget ('#' :: r) = false := rfl

/-- **An assignment is split again where its sign was set between blanks.** -/
theorem split?_respaced {t target value after : Text} (h : split? t = some (target, value))
    (hafter : ¬ ['='] <+: after) (hvalue : Text.trim after = value) :
    split? (target ++ ' ' :: '=' :: after) = some (target, value) := by
  obtain ⟨before, after₀, hfirst, htarget, rfl, -⟩ := split?_eq_some_iff.1 h
  have htrim : Text.trim (Text.trim before ++ [' ']) = Text.trim before :=
    Text.trim_append_blank (Text.tight_trim before) rfl
  refine split?_eq_some_iff.2 ⟨_, after, hfirst.respaced hafter, ?_, htrim.symm, hvalue.symm⟩
  rw [htrim]
  exact htarget

/-- The text of a written assignment.  Where there is no value, the blank behind the sign is no part of it. -/
theorem exists_trim_written {target value : Text} (htarget : Text.Tight target) (hne : target ≠ [])
    (hvalue : Text.Tight value) :
    ∃ after, Text.trim (target ++ ' ' :: '=' :: ' ' :: value) = target ++ ' ' :: '=' :: after ∧
      ¬ ['='] <+: after ∧ Text.trim after = value := by
  have hhead : ∀ (rest : Text) (c : Char), (target ++ rest).head? = some c → Text.isBlank c = false := by
    obtain ⟨x, xs, rfl⟩ := List.exists_cons_of_ne_nil hne
    exact fun rest c hc => htarget.1 c hc
  by_cases hv : value = []
  · subst hv
    refine ⟨[], Text.trim_eq_iff.2 ⟨⟨hhead _, fun c hc => ?_⟩, [], [' '], by simp, by simp, ?_⟩, by simp, rfl⟩
    · obtain rfl : '=' = c := by simpa using hc
      rfl
    · intro c hc
      rw [List.mem_singleton.1 hc]
      rfl
  · refine ⟨' ' :: value, Text.trim_of_tight ⟨hhead _, fun c hc => hvalue.2 c ?_⟩, by simp,
      Text.trim_cons_blank hvalue rfl⟩
    have hsplit : target ++ ' ' :: '=' :: ' ' :: value = (target ++ [' ', '=', ' ']) ++ value := by simp
    rwa [hsplit, List.getLast?_append_of_ne_nil _ hv] at hc

theorem ofText_assignment {s : Settings} {d : Dialect} {t target value : Text} (h : split? t = some (target, value))
    (hcomment : ¬ ['#'] <+: t) : ofText s d t = .assignment target value := by
  have hfirst : Kind.IsFirstFit s d t .assignment := by
    refine ⟨split?_isSome_iff.1 (Option.isSome_of_eq_some h), fun k hk => ?_⟩
    cases k with
    | blank =>
      rintro rfl
      cases h
    | comment => exact hcomment
    | _ => exact absurd hk (by decide)
  refine ofText_of_isFirstFit hfirst ?_
  rw [reread?, assignment?, h]
  rfl

theorem split?_of_assignment {s : Settings} {d : Dialect} {t target value : Text}
    (h : ofText s d t = .assignment target value) : split? t = some (target, value) := by
  have hread := reread?_ofText s d t
  rw [h] at hread
  obtain ⟨⟨target', value'⟩, hp, he⟩ := Option.map_eq_some_iff.1 hread
  obtain ⟨rfl, rfl⟩ : target' = target ∧ value' = value := by simpa using he
  exact hp

/-- **A written assignment is split into what it was written from**, as a line and with the blanks around it. -/
theorem split?_written {t target value : Text} (h : split? t = some (target, value)) :
    split? (target ++ " = ".toList ++ value) = some (target, value) ∧
    split? (Text.trim (target ++ " = ".toList ++ value)) = some (target, value) ∧
    ¬ ['#'] <+: Text.trim (target ++ " = ".toList ++ value) := by
  have hwritten : target ++ " = ".toList ++ value = target ++ ' ' :: '=' :: ' ' :: value := by simp
  obtain ⟨before, after₀, -, htarget, hbefore, hafter⟩ := split?_eq_some_iff.1 h
  have htight : Text.Tight target := hbefore ▸ Text.tight_trim before
  have hvalue : Text.Tight value := hafter ▸ Text.tight_trim after₀
  rw [← hbefore] at htarget
  obtain ⟨c, cs, rfl⟩ : ∃ c cs, target = c :: cs := by
    refine List.exists_cons_of_ne_nil fun hnil => ?_
    rw [hnil, isTarget_nil] at htarget
    cases htarget
  obtain ⟨after, htrim, hsign, hrest⟩ := exists_trim_written htight (List.cons_ne_nil c cs) hvalue
  rw [hwritten, htrim]
  refine ⟨split?_respaced h (by simp) (Text.trim_cons_blank hvalue rfl), split?_respaced h hsign hrest, fun hpre => ?_⟩
  obtain ⟨rfl, -⟩ := List.cons_prefix_cons.1 hpre
  rw [isTarget_comment] at htarget
  cases htarget

end Construct

/-! ## Lines that stay -/

namespace Construct

/-- The construct is handed on, written as an assignment or written as comments. -/
def isSettled : Construct → Bool
  | .blank | .comment | .assignment _ _ | .forCounting | .unsupported _ | .unclassified => true
  | _ => false

theorem isSettled_iff (c : Construct) : c.isSettled = true ↔
    c.kind ∈ [.blank, .comment, .assignment, .unsupportedCommand, .unclassified] ∨
      (c.kind = .forLoop ∧ c.severity?.isSome = true) := by
  cases c <;> simp [isSettled, kind, severity?]

end Construct

namespace Outcome

variable (s : Settings) (d : Dialect) (n : Int)

theorem ofLine_of_blank {x : Text} (h : Text.trim x = []) : ofLine s d ⟨n, x⟩ = ⟨.blank, [x], none⟩ := by
  unfold ofLine Line.text
  rw [h]
  rfl

theorem ofLine_of_comment {x : Text} (h : ['#'] <+: Text.trim x) : ofLine s d ⟨n, x⟩ = ⟨.comment, [x], none⟩ := by
  obtain ⟨rest, hrest⟩ := h
  unfold ofLine Line.text
  rw [← hrest]
  rfl

/-- **A line that begins a comment stays.** -/
theorem ofLine_of_hash (x : Text) : ofLine s d ⟨n, '#' :: x⟩ = ⟨.comment, ['#' :: x], none⟩ := by
  refine ofLine_of_comment s d n ?_
  obtain ⟨rest, hrest⟩ := List.head?_eq_some_iff.1 (Text.head?_trim (t := '#' :: x) rfl (by decide))
  exact ⟨rest, hrest.symm⟩

/-- **A written assignment stays.** -/
theorem ofLine_of_written {t target value : Text} (h : Assignment.split? t = some (target, value)) :
    ofLine s d ⟨n, target ++ " = ".toList ++ value⟩ = ⟨.assignment, [target ++ " = ".toList ++ value], none⟩ := by
  obtain ⟨-, htext, hcomment⟩ := Construct.split?_written h
  unfold ofLine Line.text
  rw [Construct.ofText_assignment htext hcomment]
  rfl

/-- What is reported is written as comments. -/
theorem hash_of_mem_lines {s : Settings} {l : Line} {c : Construct} (hc : c.severity?.isSome = true) {x : Text}
    (hx : x ∈ (ofConstruct s l c).lines) : ∃ rest, x = '#' :: rest := by
  cases c with
  | forCounting | unclassified =>
    obtain rfl := List.mem_singleton.1 hx
    exact ⟨_, rfl⟩
  | unsupported command =>
    rcases List.mem_cons.1 hx with rfl | hx
    · exact ⟨_, rfl⟩
    · obtain rfl := List.mem_singleton.1 hx
      exact ⟨_, rfl⟩
  | _ => cases hc

/-- **What a settled construct becomes stays.** -/
theorem stays_of_isSettled {s : Settings} {d : Dialect} {l : Line} (h : (Construct.ofText s d l.text).isSettled = true)
    {x : Text} (hx : x ∈ (ofLine s d l).lines) (s' : Settings) (d' : Dialect) (n : Int) :
    (ofLine s' d' ⟨n, x⟩).lines = [x] ∧ (ofLine s' d' ⟨n, x⟩).diagnostic = none := by
  obtain ⟨hfit, -⟩ := Construct.isFirstFit_ofText s d l.text
  unfold ofLine at hx
  cases hc : Construct.ofText s d l.text with
  | blank =>
    rw [hc] at hx hfit
    obtain rfl := List.mem_singleton.1 hx
    rw [ofLine_of_blank s' d' n hfit]
    exact ⟨rfl, rfl⟩
  | comment =>
    rw [hc] at hx hfit
    obtain rfl := List.mem_singleton.1 hx
    rw [ofLine_of_comment s' d' n hfit]
    exact ⟨rfl, rfl⟩
  | assignment target value =>
    rw [hc] at hx
    obtain rfl := List.mem_singleton.1 hx
    rw [ofLine_of_written s' d' n (Construct.split?_of_assignment hc)]
    exact ⟨rfl, rfl⟩
  | forCounting | unsupported command | unclassified =>
    rw [hc] at hx
    obtain ⟨rest, rfl⟩ := hash_of_mem_lines rfl hx
    rw [ofLine_of_hash s' d' n]
    exact ⟨rfl, rfl⟩
  | _ =>
    rw [hc] at h
    cases h

/-- **Settled lines stay.**  What a blank line, a comment, an assignment, an unsupported command, an unclassified line or
a loop with a diagnostic becomes is converted into itself, without a diagnostic, in every dialect and with all settings.
What a reported line becomes is comments; and a written assignment is split into the target and the value it was
written from. -/
theorem settled_lines_stay (s : Settings) (d : Dialect) (l : Line) :
    let o := ofLine s d l
    (o.kind ∈ [.blank, .comment, .assignment, .unsupportedCommand, .unclassified] ∨
        (o.kind = .forLoop ∧ o.diagnostic.isSome = true) →
      ∀ x ∈ o.lines, ∀ (s' : Settings) (d' : Dialect) (n : Int),
        (ofLine s' d' ⟨n, x⟩).lines = [x] ∧ (ofLine s' d' ⟨n, x⟩).diagnostic = none) ∧
    (o.diagnostic.isSome = true →
      ∀ x ∈ o.lines, ∀ (s' : Settings) (d' : Dialect) (n : Int), Line.kind s' d' ⟨n, x⟩ = .comment) ∧
    (o.kind = .assignment →
      ∃ target value, Assignment.split? l.text = some (target, value) ∧
        o.lines = [target ++ " = ".toList ++ value] ∧
        Assignment.split? (target ++ " = ".toList ++ value) = some (target, value) ∧
        Assignment.split? (Text.trim (target ++ " = ".toList ++ value)) = some (target, value)) := by
  intro o
  have hkind : o.kind = (Construct.ofText s d l.text).kind := ofLine_kind s d l
  have hreported : o.diagnostic.isSome = (Construct.ofText s d l.text).severity?.isSome := by
    rw [← ofConstruct_severity s l, Option.isSome_map]
    rfl
  refine ⟨fun h x hx => stays_of_isSettled ?_ hx, fun h x hx s' d' n => ?_, fun h => ?_⟩
  · rw [hkind, hreported] at h
    exact (Construct.isSettled_iff _).2 h
  · obtain ⟨rest, rfl⟩ := hash_of_mem_lines (hreported ▸ h) hx
    rw [← ofLine_kind, ofLine_of_hash]
  · obtain ⟨target, value, hc⟩ : ∃ target value, Construct.ofText s d l.text = .assignment target value := by
      rw [hkind] at h
      cases hc : Construct.ofText s d l.text with
      | assignment target value => exact ⟨target, value, rfl⟩
      | _ =>
        rw [hc] at h
        cases h
    have hsplit := Construct.split?_of_assignment hc
    obtain ⟨hwritten, htext, -⟩ := Construct.split?_written hsplit
    refine ⟨target, value, hsplit, ?_, hwritten, htext⟩
    show (ofConstruct s l (Construct.ofText s d l.text)).lines = _
    rw [hc]
    rfl

/-- A comparison in the subscript of the target and no value; and a line that is reported. -/
theorem settled_lines_stay_at_subscript :
    ((ofLine {} .general ⟨3, " a[x==1]=".toList⟩).kind = .assignment ∧
      (ofLine {} .general ⟨3, " a[x==1]=".toList⟩).lines = ["a[x==1] = ".toList] ∧
      (ofLine {} .dataProcessing ⟨8, "a[x==1] = ".toList⟩).lines = ["a[x==1] = ".toList] ∧
      (ofLine {} .dataProcessing ⟨8, "a[x==1] = ".toList⟩).diagnostic = none ∧
      Assignment.split? "a[x==1] = ".toList = some ("a[x==1]".toList, [])) ∧
    ((ofLine {} .general ⟨1, "ls".toList⟩).diagnostic.isSome = true ∧
      (ofLine {} .general ⟨1, "ls".toList⟩).lines = ["# ls".toList] ∧
      Line.kind {} .dataProcessing ⟨2, "# ls".toList⟩ = .comment) := by
  have hkind : (ofLine {} .general ⟨3, " a[x==1]=".toList⟩).kind = .assignment := by decide
  have hlines : (ofLine {} .general ⟨3, " a[x==1]=".toList⟩).lines = ["a[x==1] = ".toList] := by decide
  obtain ⟨hstay, -, hsplit⟩ := settled_lines_stay {} .general ⟨3, " a[x==1]=".toList⟩
  have hagain := hstay (.inl (by rw [hkind]; decide)) "a[x==1] = ".toList (by rw [hlines]; decide) {} .dataProcessing 8
  obtain ⟨target, value, hfirst, hwritten, hsame, -⟩ := hsplit hkind
  have hparts : Assignment.split? (Line.text ⟨3, " a[x==1]=".toList⟩) = some ("a[x==1]".toList, []) := by decide
  rw [hparts] at hfirst
  obtain ⟨rfl, rfl⟩ := Prod.mk.inj (Option.some.inj hfirst)
  have hdiagnostic : (ofLine {} .general ⟨1, "ls".toList⟩).diagnostic.isSome = true := by decide
  have hcomment : (ofLine {} .general ⟨1, "ls".toList⟩).lines = ["# ls".toList] := by decide
  obtain ⟨-, hhash, -⟩ := settled_lines_stay {} .general ⟨1, "ls".toList⟩
  exact ⟨⟨hkind, hlines, hagain.1, hagain.2, hsame⟩, hdiagnostic, hcomment,
    hhash hdiagnostic "# ls".toList (by rw [hcomment]; decide) {} .dataProcessing 2⟩

end Outcome
end Scriptwright
