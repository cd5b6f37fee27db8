import Mathlib.Computability.Language
import Mathlib.Logic.Relation
import Scriptwright.Proofs.Text
import Scriptwright.Script.Condition
/-!
# Body openers

What opens the body of a block stands at the end of its header: marks with or without blanks before them, words behind a
blank, in any order and number, and blanks at last.  `opener` is this language, written as the regular expression it is.
An opener at the end of a text is dropped whatever stands before it (`beforeOpener_append`), and what is dropped is an
opener (`exists_opener`); so it is the longest one.

Dropping can also be seen as a loop that takes one mark or word at a time from the end (`Turn`).  Each turn shortens the
text, and the loop stops where no opener is left and nowhere else (`stops_iff`).
-/
namespace Scriptwright
namespace Condition

open Text (isBlank allBlank trimRight)
open Relation (ReflTransGen)
open scoped Computability

/-! ## The language of openers -/

def blank : Language Char := {w | ∃ c, w = [c] ∧ isBlank c = true}

def mark : Language Char := {[';'], ['\x7b']}

def bodyWord : Language Char := {"then".toList, "do".toList}

/-- A mark, with or without blanks before it, or a word behind at least one blank. -/
def openerPart : Language Char := blank∗ * mark + blank * blank∗ * bodyWord

/-- What may open a body. -/
def opener : Language Char := openerPart∗ * blank∗

theorem mem_mark {m : Text} : m ∈ mark ↔ m = [';'] ∨ m = ['\x7b'] := Iff.rfl

theorem mem_bodyWord {w : Text} : w ∈ bodyWord ↔ w = "then".toList ∨ w = "do".toList := Iff.rfl

theorem mem_blanks {w : Text} : w ∈ blank∗ ↔ allBlank w = true := by
  rw [Language.mem_kstar]
  unfold allBlank
  constructor
  · rintro ⟨cs, rfl, h⟩
    simp only [List.all_eq_true, List.mem_flatten]
    rintro c ⟨x, hx, hc⟩
    obtain ⟨b, rfl, hb⟩ := h x hx
    rwa [List.mem_singleton.1 hc]
  · intro h
    refine ⟨w.map fun c => [c], by rw [← List.flatMap_def, List.flatMap_singleton'], fun x hx => ?_⟩
    obtain ⟨c, hc, rfl⟩ := List.mem_map.1 hx
    exact ⟨c, rfl, List.all_eq_true.1 h c hc⟩

theorem mem_opener_of_allBlank {w : Text} (h : allBlank w = true) : w ∈ opener :=
  Language.mem_mul.2 ⟨[], Language.nil_mem_kstar _, w, mem_blanks.2 h, rfl⟩

theorem append_blanks_mem_opener {o w : Text} (ho : o ∈ opener) (hw : allBlank w = true) : o ++ w ∈ opener := by
  obtain ⟨qs, hqs, bs, hbs, rfl⟩ := Language.mem_mul.1 ho
  have hblank := Text.allBlank_append.2 ⟨mem_blanks.1 hbs, hw⟩
  exact Language.mem_mul.2 ⟨qs, hqs, bs ++ w, mem_blanks.2 hblank, (List.append_assoc ..).symm⟩

/-- A part is a mark or a word and the blanks before it; before a word there is one. -/
theorem mem_openerPart {q : Text} : q ∈ openerPart ↔
    ∃ bs x, q = bs ++ x ∧ allBlank bs = true ∧ (x ∈ mark ∨ bs ≠ [] ∧ x ∈ bodyWord) := by
  unfold openerPart
  rw [Language.mem_add, Language.mem_mul, Language.mem_mul]
  constructor
  · rintro (⟨bs, hbs, m, hm, rfl⟩ | ⟨bs, hbs, w, hw, rfl⟩)
    · exact ⟨bs, m, rfl, mem_blanks.1 hbs, .inl hm⟩
    · obtain ⟨-, ⟨b, rfl, hb⟩, bs', hbs', rfl⟩ := Language.mem_mul.1 hbs
      exact ⟨b :: bs', w, rfl, Text.allBlank_cons.2 ⟨hb, mem_blanks.1 hbs'⟩, .inr ⟨List.cons_ne_nil _ _, hw⟩⟩
  · rintro ⟨bs, x, rfl, hbs, hm | ⟨hne, hw⟩⟩
    · exact .inl ⟨bs, mem_blanks.2 hbs, x, hm, rfl⟩
    · obtain ⟨b, bs', rfl⟩ := List.exists_cons_of_ne_nil hne
      obtain ⟨hb, hbs'⟩ := Text.allBlank_cons.1 hbs
      exact .inr ⟨b :: bs', Language.mem_mul.2 ⟨[b], ⟨b, rfl, hb⟩, bs', mem_blanks.2 hbs', rfl⟩, x, hw, rfl⟩

theorem ne_nil_of_mem_openerPart {q : Text} (h : q ∈ openerPart) : q ≠ [] := by
  obtain ⟨bs, x, rfl, -, hx⟩ := mem_openerPart.1 h
  intro hnil
  obtain ⟨-, rfl⟩ := List.append_eq_nil_iff.1 hnil
  rcases hx with (h | h) | ⟨-, h | h⟩ <;> cases h

/-! ## What stands before the opener -/

/-- What is left when the opener at the end is dropped. -/
def beforeOpener (t : Text) : Text := (dropReversedOpeners t.reverse).reverse

theorem dropOpener_eq (t : Text) : dropOpener t = Text.trimLeft (beforeOpener t) := rfl

theorem dropReversedOpeners_blank {b : Char} (hb : isBlank b = true) (r : Text) :
    dropReversedOpeners (b :: r) = dropReversedOpeners r := by
  rw [dropReversedOpeners]
  · simp [hb]
  all_goals
    rintro _ _ rfl
    cases hb

theorem beforeOpener_append_blanks (t : Text) {w : Text} (hw : allBlank w = true) :
    beforeOpener (t ++ w) = beforeOpener t := by
  have hdrop : ∀ {r : Text}, (∀ c ∈ r, isBlank c = true) → ∀ x, dropReversedOpeners (r ++ x) = dropReversedOpeners x := by
    intro r
    induction r with
    | nil => exact fun _ _ => rfl
    | cons c r ih =>
      intro h x
      rw [List.cons_append, dropReversedOpeners_blank (h c List.mem_cons_self)]
      exact ih (fun y hy => h y (List.mem_cons_of_mem _ hy)) x
  unfold beforeOpener
  rw [List.reverse_append, hdrop fun c hc => List.all_eq_true.1 hw c (List.mem_reverse.1 hc)]

theorem beforeOpener_append_mark (t : Text) {m : Text} (hm : m ∈ mark) : beforeOpener (t ++ m) = beforeOpener t := by
  unfold beforeOpener
  rw [List.reverse_append]
  rcases mem_mark.1 hm with rfl | rfl <;> simp [dropReversedOpeners]

/-- A word goes where a blank stands before it. -/
theorem beforeOpener_append_word (t : Text) {w : Text} (hw : w ∈ bodyWord) {b : Char} (hb : isBlank b = true) :
    beforeOpener (t ++ b :: w) = beforeOpener (t ++ [b]) := by
  unfold beforeOpener
  rcases mem_bodyWord.1 hw with rfl | rfl <;> simp [dropReversedOpeners, hb]

theorem beforeOpener_append_part (t : Text) {q : Text} (hq : q ∈ openerPart) : beforeOpener (t ++ q) = beforeOpener t := by
  obtain ⟨bs, x, rfl, hbs, hm | ⟨hne, hw⟩⟩ := mem_openerPart.1 hq
  · rw [← List.append_assoc, beforeOpener_append_mark _ hm, beforeOpener_append_blanks t hbs]
  · -- the word sees the last of the blanks before it
    obtain ⟨bs', b, rfl⟩ := (List.eq_nil_or_concat' bs).resolve_left hne
    have hb : isBlank b = true := (Text.allBlank_cons.1 (Text.allBlank_append.1 hbs).2).1
    rw [List.append_assoc, List.singleton_append, ← List.append_assoc, beforeOpener_append_word _ hw hb,
      List.append_assoc, beforeOpener_append_blanks t hbs]

/-- **An opener at the end goes, whatever stands before it.** -/
theorem beforeOpener_append (t : Text) {o : Text} (ho : o ∈ opener) : beforeOpener (t ++ o) = beforeOpener t := by
  obtain ⟨qs, hqs, bs, hbs, rfl⟩ := Language.mem_mul.1 ho
  obtain ⟨parts, rfl, hparts⟩ := Language.mem_kstar.1 hqs
  rw [← List.append_assoc, beforeOpener_append_blanks _ (mem_blanks.1 hbs)]
  clear ho hqs hbs
  induction parts generalizing t with
  | nil => rw [List.flatten_nil, List.append_nil]
  | cons q parts ih =>
    obtain ⟨hq, hrest⟩ := List.forall_mem_cons.1 hparts
    rw [List.flatten_cons, ← List.append_assoc, ih _ hrest, beforeOpener_append_part t hq]

theorem dropOpener_append (t : Text) {o : Text} (ho : o ∈ opener) : dropOpener (t ++ o) = dropOpener t := by
  rw [dropOpener_eq, beforeOpener_append t ho, dropOpener_eq]

/-! ## The loop -/

/-- One turn from the end: a mark goes, or a word behind a blank, and the blanks before it. -/
inductive Turn : Text → Text → Prop
  | mark {t m : Text} (hm : m ∈ mark) : Turn (t ++ m) (trimRight t)
  | word {t w : Text} {b : Char} (hb : isBlank b = true) (hw : w ∈ bodyWord) : Turn (t ++ b :: w) (trimRight (t ++ [b]))

/-- **A turn takes one part off the end.** -/
theorem Turn.exists_part {t u : Text} (h : Turn t u) : ∃ q ∈ openerPart, t = u ++ q := by
  cases h with
  | @mark t m hm =>
    obtain ⟨bs, ht, hbs⟩ := Text.exists_trimRight t
    refine ⟨bs ++ m, mem_openerPart.2 ⟨bs, m, rfl, List.all_eq_true.2 hbs, .inl hm⟩, ?_⟩
    rw [← List.append_assoc, ← ht]
  | @word t w b hb hw =>
    obtain ⟨bs, ht, hbs⟩ := Text.exists_trimRight (t ++ [b])
    have hne : bs ≠ [] := by
      rintro rfl
      rw [List.append_nil] at ht
      have hlast := Text.getLast?_trimRight (t := t ++ [b]) (c := b) (by rw [← ht]; simp)
      rw [hb] at hlast
      cases hlast
    refine ⟨bs ++ w, mem_openerPart.2 ⟨bs, w, rfl, List.all_eq_true.2 hbs, .inr ⟨hne, hw⟩⟩, ?_⟩
    rw [← List.append_assoc, ← ht, List.append_assoc, List.singleton_append]

theorem Turn.length_lt {t u : Text} (h : Turn t u) : u.length < t.length := by
  obtain ⟨q, hq, rfl⟩ := h.exists_part
  have := List.length_pos_of_ne_nil (ne_nil_of_mem_openerPart hq)
  rw [List.length_append]
  omega

theorem Turn.beforeOpener_eq {t u : Text} (h : Turn t u) : beforeOpener t = beforeOpener u := by
  obtain ⟨q, hq, rfl⟩ := h.exists_part
  exact beforeOpener_append_part u hq

theorem Turn.getLast?_right {t u : Text} (h : Turn t u) {c : Char} (hc : u.getLast? = some c) : isBlank c = false := by
  cases h <;> exact Text.getLast?_trimRight hc

/-- Where no turn can be made there is no opener. -/
theorem beforeOpener_of_no_turn {t : Text} (hlast : ∀ c, t.getLast? = some c → isBlank c = false)
    (hstop : ∀ u, ¬ Turn t u) : beforeOpener t = t := by
  obtain ⟨r, rfl⟩ : ∃ r : Text, t = r.reverse := ⟨t.reverse, t.reverse_reverse.symm⟩
  unfold beforeOpener
  rw [List.reverse_reverse]
  congr 1
  fun_cases dropReversedOpeners r with
  | case1 => rfl
  | case2 b rest hb =>
    refine absurd ?_ (hstop (trimRight (rest.reverse ++ [b])))
    simpa using Turn.word (t := rest.reverse) hb (mem_bodyWord.2 (.inl rfl))
  | case3 b rest hb => rfl
  | case4 b rest hb =>
    refine absurd ?_ (hstop (trimRight (rest.reverse ++ [b])))
    simpa using Turn.word (t := rest.reverse) hb (mem_bodyWord.2 (.inr rfl))
  | case5 b rest hb => rfl
  | case6 c rest _ _ hc =>
    -- a mark at the end would allow a turn, and a blank does not stand there
    have hmark : ∀ m : Char, [m] ∈ mark → c ≠ m := by
      rintro m hm rfl
      refine hstop (trimRight rest.reverse) ?_
      simpa using Turn.mark (t := rest.reverse) hm
    have hblank := hlast c (by simp)
    simp [hblank, hmark ';' (.inl rfl), hmark '\x7b' (.inr rfl)] at hc
  | case7 c rest _ _ hc => rfl

/-- **The loop comes to rest before the opener**, from wherever it starts. -/
theorem reflTransGen_turn (t : Text) (hlast : ∀ c, t.getLast? = some c → isBlank c = false) :
    ReflTransGen Turn t (beforeOpener t) := by
  by_cases h : ∃ u, Turn t u
  · obtain ⟨u, hu⟩ := h
    have := hu.length_lt
    rw [hu.beforeOpener_eq]
    exact .head hu (reflTransGen_turn u fun c hc => hu.getLast?_right hc)
  · rw [beforeOpener_of_no_turn hlast fun u hu => h ⟨u, hu⟩]
termination_by t.length

/-- What a run of the loop takes off is made of parts. -/
theorem exists_parts_of_run {t u : Text} (h : ReflTransGen Turn t u) : ∃ q ∈ openerPart∗, t = u ++ q := by
  -- from the first turn on: the part that goes first stands last
  induction h using ReflTransGen.head_induction_on with
  | refl => exact ⟨[], Language.nil_mem_kstar _, (List.append_nil u).symm⟩
  | head hturn _ ih =>
    obtain ⟨q, hq, rfl⟩ := hturn.exists_part
    obtain ⟨qs, hqs, rfl⟩ := ih
    obtain ⟨parts, rfl, hparts⟩ := Language.mem_kstar.1 hqs
    refine ⟨parts.flatten ++ q, Language.mem_kstar.2 ⟨parts ++ [q], by simp, fun x hx => ?_⟩, List.append_assoc ..⟩
    rcases List.mem_append.1 hx with hx | hx
    · exact hparts x hx
    · rwa [List.mem_singleton.1 hx]

theorem beforeOpener_of_run {t u : Text} (h : ReflTransGen Turn t u) : beforeOpener u = beforeOpener t := by
  induction h with
  | refl => rfl
  | tail _ hturn ih => rw [← hturn.beforeOpener_eq, ih]

theorem getLast?_of_run {t u : Text} (h : ReflTransGen Turn (trimRight t) u) {c : Char} (hc : u.getLast? = some c) :
    isBlank c = false := by
  rcases h.cases_tail with rfl | ⟨_, -, hturn⟩
  · exact Text.getLast?_trimRight hc
  · exact hturn.getLast?_right hc

/-! ## The longest opener -/

theorem beforeOpener_trimRight (t : Text) : beforeOpener (trimRight t) = beforeOpener t := by
  obtain ⟨bs, ht, hbs⟩ := Text.exists_trimRight t
  calc beforeOpener (trimRight t) = beforeOpener (trimRight t ++ bs) :=
        (beforeOpener_append_blanks _ (List.all_eq_true.2 hbs)).symm
    _ = beforeOpener t := by rw [← ht]

/-- **What is dropped is an opener.** -/
theorem exists_opener (t : Text) : ∃ o ∈ opener, t = beforeOpener t ++ o := by
  have hrun := reflTransGen_turn (trimRight t) fun c hc => Text.getLast?_trimRight hc
  obtain ⟨qs, hqs, ht⟩ := exists_parts_of_run hrun
  obtain ⟨bs, htrim, hbs⟩ := Text.exists_trimRight t
  refine ⟨qs ++ bs, Language.mem_mul.2 ⟨qs, hqs, bs, mem_blanks.2 (List.all_eq_true.2 hbs), rfl⟩, ?_⟩
  rw [← List.append_assoc, ← beforeOpener_trimRight t, ← ht, ← htrim]

theorem beforeOpener_beforeOpener (t : Text) : beforeOpener (beforeOpener t) = beforeOpener t := by
  obtain ⟨o, ho, ht⟩ := exists_opener t
  calc beforeOpener (beforeOpener t) = beforeOpener (beforeOpener t ++ o) := (beforeOpener_append _ ho).symm
    _ = beforeOpener t := by rw [← ht]

/-- **No opener reaches further**: none begins before the end of what is left. -/
theorem length_beforeOpener_le {t p o : Text} (ht : t = p ++ o) (ho : o ∈ opener) :
    (beforeOpener t).length ≤ p.length := by
  obtain ⟨o', -, hp⟩ := exists_opener p
  have hlength := congrArg List.length hp
  rw [List.length_append] at hlength
  rw [ht, beforeOpener_append p ho]
  omega

/-- **The loop stops before the opener and nowhere else.** -/
theorem stops_iff {t u : Text} :
    (ReflTransGen Turn (trimRight t) u ∧ ∀ v, ¬ Turn u v) ↔ u = beforeOpener t := by
  constructor
  · rintro ⟨hrun, hstop⟩
    rw [← beforeOpener_trimRight t, ← beforeOpener_of_run hrun]
    exact (beforeOpener_of_no_turn (fun c hc => getLast?_of_run hrun hc) hstop).symm
  · rintro rfl
    constructor
    · rw [← beforeOpener_trimRight t]
      exact reflTransGen_turn _ fun c hc => Text.getLast?_trimRight hc
    · intro v hv
      have hle := length_beforeOpener_le (o := []) (List.append_nil v).symm (mem_opener_of_allBlank rfl)
      rw [← hv.beforeOpener_eq, beforeOpener_beforeOpener] at hle
      exact absurd hv.length_lt (Nat.not_lt.2 hle)

/-- **The openers are the texts that are dropped whole.** -/
theorem mem_opener_iff {o : Text} : o ∈ opener ↔ beforeOpener o = [] := by
  constructor
  · intro ho
    rw [← List.nil_append o, beforeOpener_append [] ho]
    rfl
  · intro h
    obtain ⟨o', ho', ho⟩ := exists_opener o
    rw [h, List.nil_append] at ho
    rwa [ho]

instance (o : Text) : Decidable (o ∈ opener) := decidable_of_iff _ mem_opener_iff.symm

theorem dropOpener_append_trimRight (t : Text) {o : Text} (ho : o ∈ opener) :
    dropOpener (t ++ trimRight o) = dropOpener t := by
  obtain ⟨bs, hsplit, hbs⟩ := Text.exists_trimRight o
  have hblank := mem_opener_of_allBlank (List.all_eq_true.2 hbs)
  calc dropOpener (t ++ trimRight o) = dropOpener (t ++ trimRight o ++ bs) := (dropOpener_append _ hblank).symm
    _ = dropOpener (t ++ o) := by rw [List.append_assoc, ← hsplit]
    _ = dropOpener t := dropOpener_append t ho

/-- The blanks in front of what is left hid no opener. -/
theorem beforeOpener_dropOpener (t : Text) : beforeOpener (dropOpener t) = dropOpener t := by
  obtain ⟨lead, hlead, -⟩ := Text.exists_trimLeft (beforeOpener t)
  obtain ⟨o, ho, hrest⟩ := exists_opener (dropOpener t)
  -- an opener at the end of what is left would have been one before the blanks in front went
  rw [dropOpener_eq] at hrest ⊢
  have hle := length_beforeOpener_le (p := lead ++ beforeOpener (Text.trimLeft (beforeOpener t)))
    (by rw [List.append_assoc, ← hrest, ← hlead]) ho
  have h1 := congrArg List.length hlead
  have h2 := congrArg List.length hrest
  rw [beforeOpener_beforeOpener] at hle
  simp only [List.length_append] at hle h1 h2
  obtain rfl : o = [] := List.eq_nil_of_length_eq_zero (by omega)
  rw [List.append_nil] at hrest
  exact hrest.symm

theorem dropOpener_dropOpener (t : Text) : dropOpener (dropOpener t) = dropOpener t := by
  rw [dropOpener_eq (dropOpener t), beforeOpener_dropOpener, dropOpener_eq]
  exact Text.trimLeft_of_head? fun c hc => Text.head?_trimLeft hc

theorem tight_dropOpener (t : Text) : Text.Tight (dropOpener t) := by
  refine ⟨fun c hc => Text.head?_trimLeft hc, fun c hc => ?_⟩
  rw [← beforeOpener_dropOpener] at hc
  exact getLast?_of_run (stops_iff.2 rfl).1 hc

/-- **The longest opener goes.**  A text is what stands before its longest opener and that opener; the blanks in front of
the former go too.  The loop that takes marks and words from the end, turn by turn, always ends, since each turn shortens
the text, and it ends before the longest opener.  A second time there is nothing to drop. -/
theorem longest_opener_goes (t : Text) :
    (∃ p o, t = p ++ o ∧ o ∈ opener ∧ (∀ p' o', t = p' ++ o' → o' ∈ opener → o'.length ≤ o.length) ∧
      dropOpener t = Text.trimLeft p ∧
      ∀ u, (ReflTransGen Turn (trimRight t) u ∧ ∀ v, ¬ Turn u v) ↔ u = p) ∧
    (∀ u v, Turn u v → v.length < u.length) ∧
    dropOpener (dropOpener t) = dropOpener t := by
  obtain ⟨o, ho, ht⟩ := exists_opener t
  refine ⟨⟨beforeOpener t, o, ht, ho, fun p' o' ht' ho' => ?_, rfl, fun u => stops_iff⟩,
    fun u v h => h.length_lt, dropOpener_dropOpener t⟩
  have hle := length_beforeOpener_le ht' ho'
  have h1 := congrArg List.length ht
  have h2 := congrArg List.length ht'
  rw [List.length_append] at h1 h2
  omega

end Condition
end Scriptwright
