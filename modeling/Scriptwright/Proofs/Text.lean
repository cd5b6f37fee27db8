import Scriptwright.Text.Blank
/-!
# Texts cut and joined

Facts about texts that know nothing of scripts.  Cutting at a character is the list library's `splitOn`
(`pieces_eq_splitOn`), so lines that hold no line feed come back from their joined text (`splitLines_joinLines`), and
whatever the lines hold, at least as many come back as were joined (`length_le_splitLines_joinLines`).  A text is cut at
the first occurrence of a separator exactly when the separator occurs in it (`cut?_eq_none_iff`).  Trimming takes a
piece out of the middle (`trim_isInfix`), the one between the blanks at both ends (`trim_eq_iff`).
-/
namespace Scriptwright
namespace Text

/-! ## Cutting at a character -/

theorem pieces_eq_splitOn (c : Char) : ∀ t : Text, pieces c t = t.splitOn c
  | [] => by rw [List.splitOn_nil]; rfl
  | x :: xs => by
    rw [pieces, pieces_eq_splitOn c xs, List.splitOn_cons_eq_if_modifyHead]
    by_cases hx : x = c
    · simp [hx]
    · obtain ⟨p, ps, hp⟩ := List.exists_cons_of_ne_nil (List.splitOn_ne_nil c xs)
      simp [hx, hp]

theorem length_pieces (c : Char) : ∀ t : Text, (pieces c t).length = t.count c + 1
  | [] => rfl
  | x :: xs => by
    have ih := length_pieces c xs
    rw [pieces, List.count_cons]
    by_cases hx : x = c
    · simp [hx, ih]
    · rw [if_neg hx]
      obtain ⟨p, ps, hp⟩ := List.exists_cons_of_ne_nil (pieces_ne_nil c xs)
      rw [hp] at ih ⊢
      simpa [hx] using ih

theorem not_mem_of_mem_pieces {c : Char} : ∀ {t p : Text}, p ∈ pieces c t → c ∉ p
  | [], p, h => by
    rw [pieces, List.mem_singleton] at h
    simp [h]
  | x :: xs, p, h => by
    rw [pieces] at h
    by_cases hx : x = c
    · rw [if_pos hx, List.mem_cons] at h
      rcases h with rfl | h
      · simp
      · exact not_mem_of_mem_pieces h
    · rw [if_neg hx] at h
      obtain ⟨q, qs, hq⟩ := List.exists_cons_of_ne_nil (pieces_ne_nil c xs)
      rw [hq] at h
      rcases List.mem_cons.1 h with rfl | h
      · have hq' : c ∉ q := not_mem_of_mem_pieces (t := xs) (by rw [hq]; exact List.mem_cons_self)
        simp [Ne.symm hx, hq']
      · exact not_mem_of_mem_pieces (t := xs) (by rw [hq]; exact List.mem_cons_of_mem _ h)

/-! ## Joining lines -/

/-- **Lines without line feeds come back from their joined text.** -/
theorem splitLines_joinLines {ls : List Text} (hne : ls ≠ []) (h : ∀ l ∈ ls, '\n' ∉ l) :
    splitLines (joinLines ls) = ls := by
  unfold splitLines joinLines
  rw [pieces_eq_splitOn]
  exact List.splitOn_intercalate '\n' h hne

theorem count_joinLines : ∀ ls : List Text, ls.length ≤ (joinLines ls).count '\n' + 1
  | [] => by simp
  | [l] => by simp
  | l :: l' :: ls => by
    have ih := count_joinLines (l' :: ls)
    unfold joinLines at ih ⊢
    rw [List.intercalate_cons_cons, List.count_append, List.count_append]
    simp only [List.length_cons, List.count_singleton_self] at ih ⊢
    omega

/-- **No line is lost by joining**, whatever the lines hold. -/
theorem length_le_splitLines_joinLines (ls : List Text) : ls.length ≤ (splitLines (joinLines ls)).length := by
  unfold splitLines
  rw [length_pieces]
  exact count_joinLines ls

/-! ## The first occurrence of a separator -/

theorem startsWith_iff {t p : Text} : startsWith t p = true ↔ p <+: t := List.isPrefixOf_iff_prefix

theorem cut?_eq_none_iff {sep : Text} : ∀ {t : Text}, cut? sep t = none ↔ ¬ sep <:+: t
  | [] => by
    rw [cut?, List.infix_nil]
    cases sep <;> simp
  | c :: cs => by
    rw [cut?, List.infix_cons_iff, ← List.isPrefixOf_iff_prefix]
    by_cases h : sep.isPrefixOf (c :: cs) = true
    · simp [h]
    · rw [if_neg h, Option.map_eq_none_iff, cut?_eq_none_iff]
      simp [h]

theorem eq_of_cut? {sep : Text} : ∀ {t before after : Text}, cut? sep t = some (before, after) →
    t = before ++ (sep ++ after)
  | [], before, after, h => by
    rw [cut?] at h
    cases sep with
    | nil => simp_all
    | cons c cs => simp at h
  | c :: cs, before, after, h => by
    rw [cut?] at h
    split at h
    · rename_i hp
      obtain ⟨rest, hr⟩ := List.isPrefixOf_iff_prefix.1 hp
      simp only [Option.some.injEq, Prod.mk.injEq] at h
      obtain ⟨rfl, rfl⟩ := h
      rw [← hr, List.drop_left, List.nil_append]
    · obtain ⟨⟨b, a⟩, hb, he⟩ := Option.map_eq_some_iff.1 h
      simp only [Prod.mk.injEq] at he
      obtain ⟨rfl, rfl⟩ := he
      rw [eq_of_cut? hb, List.cons_append]

/-! ## Trimming -/

theorem trimLeft_suffix (t : Text) : trimLeft t <:+ t := List.dropWhile_suffix _

theorem trimRight_isPrefix (t : Text) : trimRight t <+: t := by
  rw [← List.reverse_suffix, trimRight, List.reverse_reverse]
  exact List.dropWhile_suffix _

theorem trim_isInfix (t : Text) : trim t <:+: t :=
  (trimRight_isPrefix _).isInfix.trans (trimLeft_suffix t).isInfix

theorem allBlank_cons {c : Char} {t : Text} : allBlank (c :: t) = true ↔ isBlank c = true ∧ allBlank t = true := by
  unfold allBlank
  rw [List.all_cons, Bool.and_eq_true]

theorem allBlank_append {a b : Text} : allBlank (a ++ b) = true ↔ allBlank a = true ∧ allBlank b = true := by
  unfold allBlank
  rw [List.all_append, Bool.and_eq_true]

/-- No blank stands at an end of the text. -/
def Tight (t : Text) : Prop :=
  (∀ c, t.head? = some c → isBlank c = false) ∧ ∀ c, t.getLast? = some c → isBlank c = false

theorem head?_trimLeft {t : Text} {c : Char} (h : (trimLeft t).head? = some c) : isBlank c = false := by
  have := List.head?_dropWhile_not isBlank t
  rw [show (t.dropWhile isBlank).head? = some c from h] at this
  exact this

theorem trimLeft_of_head? {t : Text} (h : ∀ c, t.head? = some c → isBlank c = false) : trimLeft t = t := by
  refine trimLeft_of_not_startsBlank ?_
  cases t with
  | nil => rfl
  | cons c cs => exact h c rfl

theorem exists_trimLeft (t : Text) : ∃ lead, t = lead ++ trimLeft t ∧ ∀ c ∈ lead, isBlank c = true :=
  ⟨t.takeWhile isBlank, List.takeWhile_append_dropWhile.symm, List.all_eq_true.1 List.all_takeWhile⟩

theorem exists_trimRight (t : Text) : ∃ trail, t = trimRight t ++ trail ∧ ∀ c ∈ trail, isBlank c = true := by
  obtain ⟨lead, ht, hlead⟩ := exists_trimLeft t.reverse
  refine ⟨lead.reverse, ?_, fun c hc => hlead c (List.mem_reverse.1 hc)⟩
  show t = (trimLeft t.reverse).reverse ++ lead.reverse
  rw [← List.reverse_append, ← ht, List.reverse_reverse]

theorem getLast?_trimRight {t : Text} {c : Char} (h : (trimRight t).getLast? = some c) : isBlank c = false := by
  rw [show trimRight t = (trimLeft t.reverse).reverse from rfl, List.getLast?_reverse] at h
  exact head?_trimLeft h

theorem trimRight_append_blanks {x trail : Text} (hx : ∀ c, x.getLast? = some c → isBlank c = false)
    (htrail : ∀ c ∈ trail, isBlank c = true) : trimRight (x ++ trail) = x := by
  have hreverse : trimLeft (trail.reverse ++ x.reverse) = x.reverse := by
    rw [trimLeft, List.dropWhile_append_of_pos fun c hc => htrail c (List.mem_reverse.1 hc)]
    exact trimLeft_of_head? fun c hc => hx c (by rwa [List.head?_reverse] at hc)
  show (trimLeft (x ++ trail).reverse).reverse = x
  rw [List.reverse_append, hreverse, List.reverse_reverse]

/-- **Trimming cuts the blanks off at both ends and leaves no blank there.** -/
theorem trim_eq_iff {t x : Text} : trim t = x ↔
    Tight x ∧ ∃ lead trail, t = lead ++ (x ++ trail) ∧ (∀ c ∈ lead, isBlank c = true) ∧ ∀ c ∈ trail, isBlank c = true := by
  constructor
  · rintro rfl
    obtain ⟨lead, ht, hlead⟩ := exists_trimLeft t
    obtain ⟨trail, hleft, htrail⟩ := exists_trimRight (trimLeft t)
    have hhead : ∀ c, (trim t).head? = some c → isBlank c = false := by
      intro c hc
      refine head?_trimLeft (t := t) ?_
      rw [hleft, List.head?_append, show (trimRight (trimLeft t)).head? = some c from hc]
      rfl
    refine ⟨⟨hhead, fun c hc => getLast?_trimRight hc⟩, lead, trail, ?_, hlead, htrail⟩
    show t = lead ++ (trimRight (trimLeft t) ++ trail)
    rw [← hleft, ← ht]
  · rintro ⟨⟨hhead, hlast⟩, lead, trail, rfl, hlead, htrail⟩
    unfold trim
    rw [trimLeft, List.dropWhile_append_of_pos hlead]
    cases x with
    | nil =>
      -- all is blank, and it goes from the left
      have hnil : trimLeft trail = [] := (trimLeft_eq_nil_iff trail).2 (List.all_eq_true.2 htrail)
      rw [List.nil_append, show trail.dropWhile isBlank = [] from hnil]
      rfl
    | cons c cs =>
      have hleft : trimLeft (c :: cs ++ trail) = c :: cs ++ trail := trimLeft_of_head? fun x hx => hhead x hx
      rw [show (c :: cs ++ trail).dropWhile isBlank = _ from hleft]
      exact trimRight_append_blanks hlast htrail

theorem tight_trim (t : Text) : Tight (trim t) := (trim_eq_iff.1 rfl).1

theorem trim_append_blank {x : Text} (hx : Tight x) {c : Char} (hc : isBlank c = true) : trim (x ++ [c]) = x :=
  trim_eq_iff.2 ⟨hx, [], [c], rfl, by simp, by simpa using hc⟩

theorem trim_cons_blank {x : Text} (hx : Tight x) {c : Char} (hc : isBlank c = true) : trim (c :: x) = x :=
  trim_eq_iff.2 ⟨hx, [c], [], by simp, by simpa using hc, by simp⟩

theorem trim_of_tight {x : Text} (hx : Tight x) : trim x = x :=
  trim_eq_iff.2 ⟨hx, [], [], by simp, by simp, by simp⟩

theorem trim_blanks_append {lead : Text} (hlead : allBlank lead = true) (t : Text) : trim (lead ++ t) = trim t := by
  unfold trim trimLeft
  rw [List.dropWhile_append_of_pos (List.all_eq_true.1 hlead)]

theorem trimRight_append_of_last {x : Text} (hx : ∀ c, x.getLast? = some c → isBlank c = false) (y : Text) :
    trimRight (x ++ y) = x ++ trimRight y := by
  obtain ⟨trail, hy, htrail⟩ := exists_trimRight y
  have hlast : ∀ c, (x ++ trimRight y).getLast? = some c → isBlank c = false := by
    intro c hc
    rw [List.getLast?_append, Option.or_eq_some_iff] at hc
    rcases hc with hc | ⟨-, hc⟩
    · exact getLast?_trimRight hc
    · exact hx c hc
  calc trimRight (x ++ y) = trimRight (x ++ trimRight y ++ trail) := by rw [List.append_assoc, ← hy]
    _ = x ++ trimRight y := trimRight_append_blanks hlast htrail

/-- Behind a tight text only the end is trimmed. -/
theorem trim_append_of_tight {x : Text} (hx : Tight x) (hne : x ≠ []) (y : Text) : trim (x ++ y) = x ++ trimRight y := by
  have hleft : trimLeft (x ++ y) = x ++ y := by
    obtain ⟨c, cs, rfl⟩ := List.exists_cons_of_ne_nil hne
    exact trimLeft_of_head? fun a ha => hx.1 a ha
  unfold trim
  rw [hleft, trimRight_append_of_last hx.2]

/-- Blanks on both sides change nothing for the trimmed text. -/
theorem trim_between_blanks {lead trail : Text} (hlead : allBlank lead = true) (htrail : allBlank trail = true) (t : Text) :
    trim (lead ++ (t ++ trail)) = trim t := by
  obtain ⟨htight, lead', trail', ht, hlead', htrail'⟩ := (trim_eq_iff (t := t)).1 rfl
  refine trim_eq_iff.2 ⟨htight, lead ++ lead', trail' ++ trail, ?_, ?_, ?_⟩
  · conv => lhs; rw [ht]
    simp
  · exact List.forall_mem_append.2 ⟨List.all_eq_true.1 hlead, hlead'⟩
  · exact List.forall_mem_append.2 ⟨htrail', List.all_eq_true.1 htrail⟩

/-- A text is tight if it begins and ends so. -/
theorem Tight.around {x y : Text} (hx : Tight x) (hy : Tight y) (hxne : x ≠ []) (hyne : y ≠ []) (m : Text) :
    Tight (x ++ (m ++ y)) := by
  constructor
  · obtain ⟨c, cs, rfl⟩ := List.exists_cons_of_ne_nil hxne
    exact fun a ha => hx.1 a ha
  · intro a ha
    rw [← List.append_assoc, List.getLast?_append, Option.or_eq_some_iff] at ha
    rcases ha with ha | ⟨hnone, -⟩
    · exact hy.2 a ha
    · exact absurd (List.getLast?_eq_none_iff.1 hnone) hyne

theorem trim_eq_nil_iff {t : Text} : trim t = [] ↔ allBlank t = true := by
  constructor
  · intro h
    obtain ⟨-, lead, trail, ht, hlead, htrail⟩ := trim_eq_iff.1 h
    rw [ht, List.nil_append]
    exact allBlank_append.2 ⟨List.all_eq_true.2 hlead, List.all_eq_true.2 htrail⟩
  · intro h
    rw [← List.append_nil t, trim_blanks_append h]
    rfl

/-- Something that is not blank at the front of a text stays at its front. -/
theorem head?_trim {t : Text} {c : Char} (h : t.head? = some c) (hc : isBlank c = false) :
    (trim t).head? = some c := by
  obtain ⟨-, lead, trail, ht, hlead, htrail⟩ := (trim_eq_iff (t := t)).1 rfl
  have hnot : ∀ {r : Text}, (∀ x ∈ r, isBlank x = true) → r.head? ≠ some c := fun hr hhead => by
    rw [hr c (List.mem_of_head? hhead)] at hc
    cases hc
  rw [ht, List.head?_append, Option.or_eq_some_iff] at h
  rcases h with h | ⟨-, h⟩
  · exact absurd h (hnot hlead)
  · rw [List.head?_append, Option.or_eq_some_iff] at h
    rcases h with h | ⟨-, h⟩
    · exact h
    · exact absurd h (hnot htrail)

end Text
end Scriptwright
