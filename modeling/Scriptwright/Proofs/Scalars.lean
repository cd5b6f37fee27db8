import Mathlib.Data.List.TakeWhile
import Mathlib.Logic.Basic
import Scriptwright.Proofs.Numeral
import Scriptwright.Yaml.Reader.Flow
/-!
# Scalars read back

A scalar is written plain where that is safe, in single quotes where it has neither quotes nor line breaks, and in double
quotes otherwise.  Each style has a reader of its own: `readSingle_text`, `readDouble_text` and `readPlain_bare` say what
each makes of a text written for it, and `readInline_writeText` puts them together.  A plain scalar is read word by word
up to the end of its line and is then given a meaning, so two more facts are needed of it: it holds nothing that ends it
early (`of_allowsPlain`), and it means itself (`meaning_of_meansItself`) or, for a numeral, the number (`meaning_ofInt`).
-/
namespace Scriptwright
namespace Yaml

/-- A fact about each character of a fixed text is computed along the text, not over all characters. -/
theorem forall_mem_of_all {t : Text} {p : Char → Prop} [DecidablePred p] (h : t.all (fun c => decide (p c)) = true) :
    ∀ c ∈ t, p c :=
  fun c hc => of_decide_eq_true (List.all_eq_true.1 h c hc)

/-! ## Single quotes -/

/-- The fold has not come to the end of a line. -/
def Fold.OnLine : Fold → Prop
  | .lines _ _ => False
  | _ => True

theorem Fold.OnLine.onSpace {f : Fold} (h : f.OnLine) (c : Char) : (f.onSpace c).OnLine := by
  cases f with
  | text => trivial
  | spaces seen => trivial
  | lines joint breaks => exact h.elim

theorem Fold.OnLine.flush_onSpace {f : Fold} (h : f.OnLine) (c : Char) : (f.onSpace c).flush = f.flush ++ [c] := by
  cases f with
  | text => rfl
  | spaces seen => rfl
  | lines joint breaks => exact h.elim

theorem readSingle_cons {c : Char} (hc : c ≠ '\'') (f : Fold) (column line : Nat) (rest : Text) :
    readSingle f column line (c :: rest) =
      if isSpaceOrTab c then readSingle (f.onSpace c) (column + 1) line rest
      else if isBreak c then (if atMarker rest then none else readSingle (f.onBreak c) 0 (line + 1) rest)
      else (readSingle .text (column + 1) line rest).map fun p => (f.flush ++ c :: p.1, p.2) := by
  rw [readSingle]
  all_goals
    intros
    exact hc ‹_›

theorem readSingle_close {rest : Text} (hrest : rest.head? ≠ some '\'') (f : Fold) (column line : Nat) :
    readSingle f column line ('\'' :: rest) = some (f.flush, ⟨rest, column + 1, line, false⟩) := by
  rw [readSingle]
  rintro rest' rfl
  exact hrest rfl

/-- **What stands in single quotes is read back**, if it holds no quotes and no line breaks. -/
theorem readSingle_text {rest : Text} (hrest : rest.head? ≠ some '\'') (line : Nat) :
    ∀ (t : Text) (f : Fold) (column : Nat), f.OnLine → (∀ c ∈ t, c ≠ '\'' ∧ isBreak c = false) →
      readSingle f column line (t ++ '\'' :: rest) = some (f.flush ++ t, ⟨rest, column + t.length + 1, line, false⟩)
  | [], f, column, _, _ => by rw [List.nil_append, readSingle_close hrest, List.append_nil]; rfl
  | c :: t, f, column, hf, ht => by
    obtain ⟨⟨hc, hbreak⟩, ht⟩ := List.forall_mem_cons.1 ht
    have hcolumn : column + 1 + t.length + 1 = column + (c :: t).length + 1 := by
      rw [List.length_cons]
      omega
    rw [List.cons_append, readSingle_cons hc]
    split
    · rw [readSingle_text hrest line t _ _ (hf.onSpace c) ht, hf.flush_onSpace, List.append_assoc, hcolumn]
      rfl
    · rw [hbreak, if_neg (by simp), readSingle_text hrest line t .text _ trivial ht, hcolumn]
      rfl

/-! ## Double quotes -/

theorem eq_ofNat {c : Char} {n : Nat} (h : c.toNat = n) : c = Char.ofNat n := by rw [← h, Char.ofNat_toNat]

theorem escapedChar?_escapeLetter {c l : Char} (h : escapeLetter? c = some l) :
    escapedChar? l = some c ∧ l ≠ 'x' ∧ l ≠ 'u' ∧ l ≠ 'U' := by
  unfold escapeLetter? at h
  iterate 11
    rcases ite_eq_iff.1 h with ⟨rfl, hl⟩ | ⟨-, h⟩
    · cases hl
      decide
  iterate 3
    rcases ite_eq_iff.1 h with ⟨hn, hl⟩ | ⟨-, h⟩
    · cases hl
      rw [eq_ofNat hn]
      decide
  cases h

theorem isBreak_iff {c : Char} :
    isBreak c = true ↔ c = '\n' ∨ c.toNat = 0x85 ∨ c.toNat = 0x2028 ∨ c.toNat = 0x2029 := by
  simp [isBreak, or_assoc]

theorem of_escapeLetter?_none {c : Char} (h : escapeLetter? c = none) : c ≠ '"' ∧ c ≠ '\\' ∧ isBreak c = false := by
  refine ⟨?_, ?_, ?_⟩
  · rintro rfl
    cases h
  · rintro rfl
    cases h
  · rw [← Bool.not_eq_true, isBreak_iff]
    rintro (rfl | hn | hn | hn)
    · cases h
    all_goals
      rw [eq_ofNat hn] at h
      cases h

/-- A character is written in base sixteen with a number of digits that its code fits. -/
theorem exists_hexUpper {width : Nat} (hwidth : 0 < width) {c : Char} (hc : c.toNat < 16 ^ width) :
    (Text.hexUpper width c.toNat).length = width ∧ codeChar? (Text.hexUpper width c.toNat) = some c := by
  obtain ⟨ds, htext, hnum, hlen⟩ := Text.numeral_hexLower hwidth hc
  have hupper : Text.hexUpper width c.toNat = ds.map fun d => (Nat.digitChar d).toUpper := by
    rw [Text.hexUpper, htext, List.map_map]
    rfl
  have hvalid := Text.toNat_valid c
  refine ⟨by rw [hupper, List.length_map, hlen], ?_⟩
  rw [hupper, codeChar?, hnum.mapM_hexDigit?]
  simp only [hnum.value, Char.ofNat_toNat]
  rw [if_pos (by simpa using hvalid)]

section Double

variable (f : Fold) (column line : Nat) (rest : Text)

theorem readDouble_cons {c : Char} (hquote : c ≠ '"') (hslash : c ≠ '\\') :
    readDouble f column line (c :: rest) =
      if isSpaceOrTab c then readDouble (f.onSpace c) (column + 1) line rest
      else if isBreak c then (if atMarker rest then none else readDouble (f.onBreak c) 0 (line + 1) rest)
      else (readDouble .text (column + 1) line rest).map fun p => (f.flush ++ c :: p.1, p.2) := by
  rw [readDouble]
  · rw [if_neg hslash]
  · exact hquote
  all_goals
    intros
    exact hslash ‹_›

theorem readDouble_letter {c l : Char} (h : escapeLetter? c = some l) :
    readDouble f column line ('\\' :: l :: rest) =
      (readDouble .text (column + 2) line rest).map fun p => (f.flush ++ c :: p.1, p.2) := by
  obtain ⟨hchar, hx, hu, hU⟩ := escapedChar?_escapeLetter h
  rw [readDouble, hchar]
  · intros
    exact hx ‹_›
  · intros
    exact hu ‹_›
  · intros
    exact hU ‹_›

theorem readDouble_code {c : Char} (hletter : escapeLetter? c = none) (hplain : isPlainChar c = false) :
    readDouble f column line (escapeChar c ++ rest) =
      (readDouble .text (column + (escapeChar c).length) line rest).map fun p => (f.flush ++ c :: p.1, p.2) := by
  have hvalid := Text.toNat_valid c
  rw [escapeChar, hletter]
  simp only [hplain, Bool.false_eq_true, if_false]
  split
  · obtain ⟨hlen, hcode⟩ := exists_hexUpper (by decide : 0 < 2) (c := c) (by omega)
    match Text.hexUpper 2 c.toNat, hlen, hcode with
    | [a, b], _, hcode => simp [readDouble, hcode]
  · split
    · obtain ⟨hlen, hcode⟩ := exists_hexUpper (by decide : 0 < 4) (c := c) (by omega)
      match Text.hexUpper 4 c.toNat, hlen, hcode with
      | [x, y, z, w], _, hcode => simp [readDouble, hcode]
    · obtain ⟨hlen, hcode⟩ := exists_hexUpper (by decide : 0 < 8) (c := c) (by omega)
      match Text.hexUpper 8 c.toNat, hlen, hcode with
      | [x, y, z, w, x', y', z', w'], _, hcode => simp [readDouble, hcode]

/-- **An escaped character is read as itself**; a space waits for what comes after it. -/
theorem readDouble_escapeChar (c : Char) :
    readDouble f column line (escapeChar c ++ rest) =
      if c = ' ' then readDouble (f.onSpace c) (column + (escapeChar c).length) line rest
      else (readDouble .text (column + (escapeChar c).length) line rest).map fun p => (f.flush ++ c :: p.1, p.2) := by
  by_cases hspace : c = ' '
  · subst hspace
    exact readDouble_cons f column line rest (by decide) (by decide)
  rw [if_neg hspace]
  cases hletter : escapeLetter? c with
  | some l =>
    have htext : escapeChar c = ['\\', l] := by rw [escapeChar, hletter]
    rw [htext]
    exact readDouble_letter f column line rest hletter
  | none =>
    cases hplain : isPlainChar c with
    | false => exact readDouble_code f column line rest hletter hplain
    | true =>
      have htext : escapeChar c = [c] := by rw [escapeChar, hletter]; exact if_pos hplain
      obtain ⟨hquote, hslash, hbreak⟩ := of_escapeLetter?_none hletter
      have htab : c ≠ '\t' := by
        rintro rfl
        cases hletter
      have hblank : isSpaceOrTab c = false := by simp [isSpaceOrTab, hspace, htab]
      rw [htext, List.singleton_append, readDouble_cons f column line rest hquote hslash, hblank, hbreak]
      rfl

end Double

/-- **What stands in double quotes is read back**, whatever it is. -/
theorem readDouble_text (line : Nat) (rest : Text) : ∀ (t : Text) (f : Fold) (column : Nat), f.OnLine →
    readDouble f column line (t.flatMap escapeChar ++ '"' :: rest) =
      some (f.flush ++ t, ⟨rest, column + (t.flatMap escapeChar).length + 1, line, false⟩)
  | [], f, column, _ => by
    rw [List.flatMap_nil, List.nil_append, readDouble, List.append_nil]
    rfl
  | c :: t, f, column, hf => by
    have hcolumn : column + (escapeChar c).length + (t.flatMap escapeChar).length + 1 =
        column + ((c :: t).flatMap escapeChar).length + 1 := by
      rw [List.flatMap_cons, List.length_append]
      omega
    rw [← hcolumn, List.flatMap_cons, List.append_assoc, readDouble_escapeChar]
    split
    · rw [readDouble_text line rest t _ _ (hf.onSpace c), hf.flush_onSpace, List.append_assoc]
      rfl
    · rw [readDouble_text line rest t .text _ trivial]
      rfl

/-! ## Plain scalars -/

/-- What may follow a scalar on a further line, `n` columns in: neither a comment nor a colon, and no document marker. -/
structure Follows (n : Nat) (r : Text) : Prop where
  head : ∀ c ∈ r.head?, isBreak c = false ∧ c ≠ ' ' ∧ c ≠ '#' ∧ c ≠ ':'
  marker : n = 0 → atMarker r = false

theorem atMarker_spaces {n : Nat} {r : Text} (h : Follows n r) : atMarker (List.replicate n ' ' ++ r) = false := by
  cases n with
  | zero => exact h.marker rfl
  | succ n => rfl

theorem plainLines_spaces {n : Nat} {r : Text} (h : Follows n r) (line : Nat) :
    ∀ k column, plainLines column line [] (List.replicate k ' ' ++ r) = ([], ⟨r, column + k, line, true⟩)
  | 0, column => by
    rw [List.replicate_zero, List.nil_append]
    cases r with
    | nil => rfl
    | cons c r =>
      obtain ⟨hbreak, hspace, -, -⟩ := h.head c rfl
      simp [plainLines, hbreak, hspace]
  | k + 1, column => by
    rw [List.replicate_succ, List.cons_append, plainLines, if_pos (by decide), plainLines_spaces h line k,
      Nat.add_right_comm, Nat.add_assoc]

/-- A text of a line that is read word by word: no word ends it early, and no space is lost at its ends. -/
structure Bare (t : Text) : Prop where
  chars : ∀ c ∈ t, isPlainChar c = true ∧ isBreak c = false
  inner : hasInnerIndicator true t = false
  head : ∀ c ∈ t.head?, c ≠ ' '
  last : ∀ c ∈ t.getLast?, c ≠ ' '

theorem isLineEnd_of_not_break {c : Char} (h : isBreak c = false) : isLineEnd c = false := by
  simp only [isBreak, Bool.or_eq_false_iff] at h
  simp [isLineEnd, h]

theorem isTokenEnd_eq {c : Char} (hplain : isPlainChar c = true) (hbreak : isBreak c = false) :
    isTokenEnd c = (c == ' ') := by
  have htab : c ≠ '\t' := by
    rintro rfl
    cases hplain
  simp [isTokenEnd, htab, isLineEnd_of_not_break hbreak]

theorem endsToken_append {t : Text} (h : startsSpacing t = false) (k : Text) : endsToken (t ++ k) = false := by
  cases t with
  | nil => cases h
  | cons c t =>
    simp only [startsSpacing, isSpacing, isBreak, Bool.or_eq_false_iff] at h
    simp [endsToken, isTokenEnd, isLineEnd, h]

theorem hasInnerIndicator_append {c : Char} {s : Text} : ∀ {u : Text} {spaced : Bool},
    hasInnerIndicator spaced (u ++ c :: s) = false → hasInnerIndicator (isSpacing c) s = false
  | [], _, h => by
    simp only [List.nil_append, hasInnerIndicator, Bool.or_eq_false_iff] at h
    exact h.2
  | _ :: u, _, h => by
    simp only [List.cons_append, hasInnerIndicator, Bool.or_eq_false_iff] at h
    exact hasInnerIndicator_append h.2

/-- A word goes up to the next space or to the end of the line. -/
theorem plainWord_word {s k : Text} (hs : ∀ c ∈ s.head?, c = ' ') : ∀ {w : Text} {spaced : Bool},
    (∀ c ∈ w, isTokenEnd c = false) → hasInnerIndicator spaced (w ++ s) = false →
    plainWord false (w ++ (s ++ '\n' :: k)) = w
  | [], _, _, _ => by
    cases s with
    | nil => simp [plainWord, endsPlain, isTokenEnd, isLineEnd]
    | cons c s =>
      obtain rfl := hs c rfl
      simp [plainWord, endsPlain, isTokenEnd]
  | c :: w, _, hw, hinner => by
    obtain ⟨hc, hw⟩ := List.forall_mem_cons.1 hw
    simp only [List.cons_append, hasInnerIndicator, Bool.or_eq_false_iff, Bool.and_eq_false_iff] at hinner
    have hcolon : (c == ':' && endsToken (w ++ (s ++ '\n' :: k))) = false := by
      rw [Bool.and_eq_false_iff]
      rcases hinner.1.1 with hne | hspacing
      · exact Or.inl hne
      · right
        rw [← List.append_assoc]
        exact endsToken_append hspacing _
    have hends : endsPlain false (c :: (w ++ (s ++ '\n' :: k))) = false := by
      rw [endsPlain, hc, hcolon]
      rfl
    rw [List.cons_append, plainWord, hends, plainWord_word hs hw hinner.2]
    rfl

theorem exists_spaces : ∀ t : Text, ∃ m s, t = List.replicate m ' ' ++ s ∧ ∀ c ∈ s.head?, c ≠ ' '
  | [] => ⟨0, [], rfl, nofun⟩
  | c :: t => by
    by_cases hc : c = ' '
    · obtain ⟨m, s, rfl, hs⟩ := exists_spaces t
      exact ⟨m + 1, s, by rw [hc, List.replicate_succ, List.cons_append], hs⟩
    · refine ⟨0, c :: t, rfl, fun x hx => ?_⟩
      obtain rfl : c = x := by simpa using hx
      exact hc

/-- The text is a word, or a word, spaces, and another such text. -/
theorem Bare.cases {t : Text} (h : Bare t) :
    ' ' ∉ t ∨ ∃ w m s, t = w ++ (List.replicate (m + 1) ' ' ++ s) ∧ w ≠ [] ∧ ' ' ∉ w ∧ s ≠ [] ∧ Bare s := by
  by_cases hmem : ' ' ∈ t
  · right
    obtain ⟨w, rest, rfl, hspace⟩ := List.eq_append_cons_of_mem hmem
    obtain ⟨m, s, rfl, hhead⟩ := exists_spaces rest
    have hs : s ≠ [] := by
      rintro rfl
      refine h.last ' ' ?_ rfl
      rw [List.append_nil, ← List.replicate_succ, List.replicate_succ', ← List.append_assoc, List.getLast?_concat]
      rfl
    have hw : w ≠ [] := by
      rintro rfl
      exact h.head ' ' rfl rfl
    have hsplit : w ++ ' ' :: (List.replicate m ' ' ++ s) = (w ++ List.replicate m ' ') ++ ' ' :: s := by
      rw [← List.cons_append, ← List.replicate_succ, List.replicate_succ']
      simp
    refine ⟨w, m, s, rfl, hw, hspace, hs, ⟨fun c hc => h.chars c (by simp [hc]), ?_, hhead, fun c hc => h.last c ?_⟩⟩
    · have hinner := h.inner
      rw [hsplit] at hinner
      exact hasInnerIndicator_append hinner
    · have hlast : s.getLast? = some c := hc
      simp [hsplit, List.getLast?_append, List.getLast?_cons, hlast]
  · exact Or.inl hmem

theorem plainGap_end {n : Nat} {r : Text} (hr : Follows n r) (column line : Nat) (fresh : Bool) :
    plainGap ⟨'\n' :: (List.replicate n ' ' ++ r), column, line, fresh⟩ = ([' '], ⟨r, n, line + 1, true⟩) := by
  simp [plainGap, Cursor.drop, isLineEnd, atMarker_spaces hr, plainLines_spaces hr]

theorem plainGap_spaces {c : Char} (hc : c ≠ ' ') (hend : isLineEnd c = false) (m column line : Nat) (fresh : Bool)
    (rest : Text) : plainGap ⟨List.replicate m ' ' ++ c :: rest, column, line, fresh⟩ =
      (List.replicate m ' ', ⟨c :: rest, column + m, line, fresh⟩) := by
  have hblanks : (List.replicate m ' ' ++ c :: rest).takeWhile (· == ' ') = List.replicate m ' ' := by
    rw [List.takeWhile_append_of_pos (by simp)]
    simp [hc]
  simp [plainGap, Cursor.drop, hblanks, hend]

theorem readPlain_succ {cur : Cursor} {w : Text} (hword : plainWord false cur.rest = w) (hw : w ≠ []) (floor fuel : Nat)
    (gap : Text) : readPlain false floor (fuel + 1) gap cur =
      let (gap', next) := plainGap (cur.drop w.length).stale
      if gap'.isEmpty || next.headIs (· == '#') || (!false && next.column < floor) || (next.column == 0 && next.atEnd)
      then (gap ++ w, next)
      else
        let (more, last) := readPlain false floor fuel gap' next
        (gap ++ w ++ more, last) := by
  rw [readPlain, hword]
  cases w with
  | nil => exact absurd rfl hw
  | cons c w => rfl

/-- **A plain scalar is read back** from a line that ends with it, if the next line does not go on with it. -/
theorem readPlain_bare {n floor : Nat} {r : Text} (hr : Follows n r) (hn : n < floor) (line : Nat) :
    ∀ (fuel : Nat) (t gap : Text) (column : Nat) (fresh : Bool), Bare t → t ≠ [] → t.length < fuel → floor ≤ column →
      readPlain false floor fuel gap ⟨t ++ '\n' :: (List.replicate n ' ' ++ r), column, line, fresh⟩ =
        (gap ++ t, ⟨r, n, line + 1, true⟩)
  | 0, t, _, _, _, _, _, hfuel, _ => absurd hfuel (Nat.not_lt_zero _)
  | fuel + 1, t, gap, column, fresh, ht, hne, hfuel, hcolumn => by
    have hends : ∀ w : Text, (∀ c ∈ w, c ∈ t) → ' ' ∉ w → ∀ c ∈ w, isTokenEnd c = false := by
      intro w hsub hspace c hc
      obtain ⟨hplain, hbreak⟩ := ht.chars c (hsub c hc)
      rw [isTokenEnd_eq hplain hbreak, beq_eq_false_iff_ne]
      rintro rfl
      exact hspace hc
    -- the last word meets the end of the line, and there the next line stands too far left to go on with it;
    -- any other word meets spaces, which become the gap before the rest
    rcases ht.cases with hspace | ⟨w, m, s, rfl, hw, hspace, hs, hbare⟩
    · have hword : plainWord false (t ++ '\n' :: (List.replicate n ' ' ++ r)) = t :=
        plainWord_word (s := []) nofun (hends t (fun _ h => h) hspace) (by rw [List.append_nil]; exact ht.inner)
      rw [readPlain_succ hword hne]
      simp only [Cursor.drop, Cursor.stale, List.drop_left, plainGap_end hr]
      simp [hn]
    · obtain ⟨c, s, rfl⟩ := List.exists_cons_of_ne_nil hs
      have hc : c ≠ ' ' := hbare.head c rfl
      have hend : isLineEnd c = false := isLineEnd_of_not_break (hbare.chars c List.mem_cons_self).2
      have hhash : (c == '#') = false := by
        have hinner := hbare.inner
        simp only [hasInnerIndicator, Bool.or_eq_false_iff, Bool.and_true] at hinner
        exact hinner.1.2
      have hword : plainWord false (w ++ ((List.replicate (m + 1) ' ' ++ c :: s) ++ '\n' :: (List.replicate n ' ' ++ r))) = w :=
        plainWord_word (fun x hx => by simpa [List.replicate_succ, eq_comm] using hx)
          (hends w (fun x hx => List.mem_append_left _ hx) hspace) ht.inner
      rw [List.length_append, List.length_append, List.length_replicate] at hfuel
      have hmore := readPlain_bare hr hn line fuel (c :: s) (List.replicate (m + 1) ' ') (column + w.length + (m + 1)) false
        hbare hs (by omega) (by omega)
      rw [List.append_assoc, readPlain_succ hword hw]
      simp only [Cursor.drop, Cursor.stale, List.drop_left, List.append_assoc, List.cons_append] at hmore ⊢
      rw [plainGap_spaces hc hend]
      have hfar : ¬ column + w.length + (m + 1) < floor := by omega
      simp only [hmore, Cursor.headIs, hhash, hfar]
      rw [if_neg (by simp)]

/-- A word goes up to a colon that ends a key. -/
theorem plainWord_key {rest : Text} (hrest : endsToken rest = true) : ∀ {k : Text},
    (∀ c ∈ k, isTokenEnd c = false ∧ c ≠ ':') → plainWord false (k ++ ':' :: rest) = k
  | [], _ => by simp [plainWord, endsPlain, hrest]
  | c :: k, h => by
    obtain ⟨⟨hend, hcolon⟩, h⟩ := List.forall_mem_cons.1 h
    rw [List.cons_append, plainWord, plainWord_key hrest h]
    simp [endsPlain, hend, hcolon]

theorem readPlain_key {k rest : Text} (hne : k ≠ []) (hk : ∀ c ∈ k, isTokenEnd c = false ∧ c ≠ ':')
    (hrest : endsToken rest = true) (floor fuel column line : Nat) (fresh : Bool) :
    readPlain false floor (fuel + 1) [] ⟨k ++ ':' :: rest, column, line, fresh⟩ =
      (k, ⟨':' :: rest, column + k.length, line, false⟩) := by
  have hgap := plainGap_spaces (c := ':') (by decide) (by decide) 0 (column + k.length) line false rest
  rw [readPlain_succ (plainWord_key hrest hk) hne]
  simp only [Cursor.drop, Cursor.stale, List.drop_left]
  rw [List.replicate_zero, List.nil_append] at hgap
  rw [hgap]
  rfl

/-! ## Meanings -/

theorem whole?_ne_text {t s : Text} : whole? t ≠ some (.value (.text s)) := by
  unfold whole?
  split
  · exact nofun
  · split <;> exact nofun

theorem real?_ne_text {t s : Text} : real? t ≠ some (.value (.text s)) := by
  unfold real?
  split
  split
  · exact nofun
  split
  · exact nofun
  split
  · exact nofun
  · simp only
    split <;> exact nofun

/-- No plain scalar stands for a text other than its own: words, numbers and dates stand for no text at all. -/
theorem eq_of_meaning_text {t s : Text} (h : meaning t = .value (.text s)) : s = t := by
  have hwords : ∀ w ∈ words, w.2.asText? = none := by decide
  unfold meaning at h
  split at h
  · rename_i w v hfind
    obtain rfl : v = .text s := by simpa using h
    cases hwords _ (List.mem_of_find?_eq_some hfind)
  split at h
  · cases h
  split at h
  · cases h
  split at h
  · split at h
    · rename_i m horElse
      subst h
      cases hwhole : if t.head?.any (· == '.') then none else whole? t with
      | none =>
        rw [hwhole] at horElse
        exact absurd horElse real?_ne_text
      | some m =>
        rw [hwhole] at horElse
        cases horElse
        split at hwhole
        · cases hwhole
        · exact absurd hwhole whole?_ne_text
    · split at h
      · cases h
      · cases h
      · cases h
        rfl
  · cases h
    rfl

theorem meaning_of_meansItself {t : Text} (h : meansItself t = true) : meaning t = .value (.text t) := by
  unfold meansItself at h
  split at h
  · rename_i s hs
    rw [hs, eq_of_meaning_text hs]
  · cases h

theorem dropSign_ofNat (n : Nat) : dropSign (Text.ofNat n) = (false, Text.ofNat n) := by
  have hdigit : ∀ c ds, Text.ofNat n = c :: ds → c.isDigit = true := fun c ds htext =>
    Text.isDigit_of_mem_ofNat (htext ▸ List.mem_cons_self)
  unfold dropSign
  split
  · cases hdigit _ _ ‹_›
  · cases hdigit _ _ ‹_›
  · rfl

theorem wholeForm?_ofNat (n : Nat) : wholeForm? (Text.ofNat n) = some (10, Text.ofNat n) := by
  have hletter : ∀ c ds, Text.ofNat n = '0' :: c :: ds → c.isDigit = true := fun c ds htext =>
    Text.isDigit_of_mem_ofNat (htext ▸ List.mem_cons_of_mem _ List.mem_cons_self)
  unfold wholeForm?
  split
  · cases hletter _ _ ‹_›
  · cases hletter _ _ ‹_›
  · cases hletter _ _ ‹_›
  · rw [if_pos]
    simp only [isGroup, Bool.and_eq_true, Bool.not_eq_true', List.isEmpty_eq_false_iff, List.all_eq_true, Bool.or_eq_true]
    exact ⟨Nat.toDigits_ne_nil, fun c hc => Or.inl (Text.isDigit_of_mem_ofNat hc)⟩

theorem groupValue_ofNat (n : Nat) : groupValue 10 (Text.ofNat n) = some n := by
  obtain ⟨d, ds, htext, hnum, -⟩ := Text.numeral_toDigits (by decide : 1 < 10) n
  rw [groupValue, Text.ofNat, htext, hnum.filterMap_hexDigit? (by decide)]
  exact congrArg some hnum.value

theorem whole?_ofInt (n : Int) : whole? (Text.ofInt n) = some (.value (.int n)) := by
  cases n with
  | ofNat n =>
    rw [Text.ofInt, whole?, dropSign_ofNat, wholeForm?_ofNat]
    simp [groupValue_ofNat]
  | negSucc n =>
    rw [Text.ofInt, whole?, dropSign, wholeForm?_ofNat]
    simp [groupValue_ofNat, Int.negSucc_eq]

/-- The numeral of a whole number begins with a digit or a minus sign. -/
theorem exists_ofInt (n : Int) : ∃ c rest, Text.ofInt n = c :: rest ∧ (c.isDigit = true ∨ c = '-') := by
  cases n with
  | ofNat n =>
    obtain ⟨c, rest, htext, hc⟩ := Text.exists_ofNat n
    exact ⟨c, rest, htext, Or.inl hc⟩
  | negSucc n => exact ⟨'-', _, rfl, Or.inr rfl⟩

/-- **The numeral of a whole number stands for it.** -/
theorem meaning_ofInt (n : Int) : meaning (Text.ofInt n) = .value (.int n) := by
  have hwhole := whole?_ofInt n
  obtain ⟨c, rest, htext, hc⟩ := exists_ofInt n
  rw [htext] at hwhole ⊢
  have hne : ∀ x : Char, x.isDigit = false → x ≠ '-' → c ≠ x := by
    rintro x hdigit hminus rfl
    rcases hc with hc | rfl
    · rw [hc] at hdigit
      cases hdigit
    · exact hminus rfl
  have hword : words.find? (fun w => w.1.toList == c :: rest) = none := by
    have hheads : ∀ x ∈ words.filterMap (·.1.toList.head?), x.isDigit = false ∧ x ≠ '-' := forall_mem_of_all (by decide)
    rw [List.find?_eq_none]
    intro w hw heq
    obtain ⟨hdigit, hminus⟩ := hheads c (List.mem_filterMap.2 ⟨w, hw, by rw [beq_iff_eq.1 heq]; rfl⟩)
    exact hne c hdigit hminus rfl
  have hstart : (c.isDigit || isSign c || c == '.') = true := by
    rcases hc with hc | rfl
    · rw [hc]
      rfl
    · decide
  have hmerge : c :: rest ≠ "<<".toList := fun h => hne '<' rfl (by decide) (List.cons.inj h).1
  have hdefault : c :: rest ≠ "=".toList := fun h => hne '=' rfl (by decide) (List.cons.inj h).1
  rw [meaning, hword]
  simp only
  rw [if_neg hmerge, if_neg hdefault, if_pos (by simpa using hstart), if_neg (by simpa using hne '.' rfl (by decide)), hwhole]
  rfl

/-! ## Styles -/

/-- The text begins as a plain scalar may. -/
def OpensPlain (t : Text) : Prop :=
  ∃ c rest, t = c :: rest ∧ isIndicator c = false ∧ (isWeakIndicator c = true → startsSpacing rest = false)

theorem isPlainChar_of_not_special {c : Char} (hspecial : isSpecial c = false) (hbreak : isBreak c = false) :
    isPlainChar c = true := by
  simp only [isBreak, Bool.or_eq_false_iff] at hbreak
  simpa [isSpecial, hbreak] using hspecial

theorem of_allowsPlain {t : Text} (h : allowsPlain t = true) : Bare t ∧ OpensPlain t ∧ meansItself t = true := by
  cases t with
  | nil => cases h
  | cons c rest =>
    simp only [allowsPlain, Bool.and_eq_true, Bool.not_eq_true', Bool.or_eq_false_iff, Bool.and_eq_false_iff] at h
    obtain ⟨⟨⟨⟨⟨⟨⟨⟨-, hindicator⟩, hweak⟩, hinner⟩, hbreak⟩, hhead⟩, hlast⟩, hspecial⟩, hself⟩ := h
    have hopens : isWeakIndicator c = true → startsSpacing rest = false := fun hc =>
      hweak.resolve_left (by rw [hc]; exact Bool.noConfusion)
    refine ⟨⟨fun x hx => ?_, ?_, fun x hx => ?_, fun x hx => ?_⟩, ⟨c, rest, rfl, hindicator, hopens⟩, hself⟩
    · have hxbreak : isBreak x = false := by simpa using List.any_eq_false.1 hbreak x hx
      have hxspecial : isSpecial x = false := by simpa using List.any_eq_false.1 hspecial x hx
      exact ⟨isPlainChar_of_not_special hxspecial hxbreak, hxbreak⟩
    · have hcolon : (c == ':' && startsSpacing rest) = false := by
        by_cases hc : c = ':'
        · subst hc
          exact hopens rfl
        · simp [hc]
      have hhash : (c == '#') = false := by
        rw [beq_eq_false_iff_ne]
        rintro rfl
        cases hindicator
      simp [hasInnerIndicator, hcolon, hhash, hinner]
    · obtain rfl : c = x := by simpa using hx
      simpa using hhead
    · rintro rfl
      rw [show (c :: rest).getLast? = some ' ' from hx] at hlast
      cases hlast

/-- Characters that stand for themselves wherever they are. -/
def tameChars : Text := "abcdefghijklmnopqrstuvwxyz_0123456789-".toList

theorem tame_facts : ∀ c ∈ tameChars, isPlainChar c = true ∧ isBreak c = false ∧ isSpacing c = false ∧ c ≠ ' ' ∧ c ≠ ':' ∧
    c ≠ '#' ∧ isIndicator c = false := forall_mem_of_all (by decide)

theorem hasInnerIndicator_of_tame : ∀ {t : Text} (spaced : Bool), (∀ c ∈ t, c ∈ tameChars) → hasInnerIndicator spaced t = false
  | [], _, _ => rfl
  | c :: t, _, h => by
    obtain ⟨hc, ht⟩ := List.forall_mem_cons.1 h
    obtain ⟨-, -, -, -, hcolon, hhash, -⟩ := tame_facts c hc
    rw [hasInnerIndicator, hasInnerIndicator_of_tame _ ht]
    simp [hcolon, hhash]

theorem bare_of_tame {t : Text} (h : ∀ c ∈ t, c ∈ tameChars) : Bare t where
  chars c hc := ⟨(tame_facts c (h c hc)).1, (tame_facts c (h c hc)).2.1⟩
  inner := hasInnerIndicator_of_tame true h
  head c hc := (tame_facts c (h c (List.mem_of_mem_head? hc))).2.2.2.1
  last c hc := (tame_facts c (h c (List.mem_of_mem_getLast? hc))).2.2.2.1

theorem opensPlain_of_tame {t : Text} (h : ∀ c ∈ t, c ∈ tameChars) (hne : t ≠ []) (hdash : t ≠ ['-']) : OpensPlain t := by
  obtain ⟨c, rest, rfl⟩ := List.exists_cons_of_ne_nil hne
  obtain ⟨hc, hrest⟩ := List.forall_mem_cons.1 h
  refine ⟨c, rest, rfl, (tame_facts c hc).2.2.2.2.2.2, fun hweak => ?_⟩
  cases rest with
  | nil =>
    have hquestion : ∀ x ∈ tameChars, isWeakIndicator x = true → x = '-' := forall_mem_of_all (by decide)
    exact absurd (by rw [hquestion c hc hweak]) hdash
  | cons x rest => exact (tame_facts x (hrest x List.mem_cons_self)).2.2.1

theorem tame_ofInt (n : Int) : ∀ c ∈ Text.ofInt n, c ∈ tameChars := by
  have hnat : ∀ m : Nat, ∀ c ∈ Text.ofNat m, c ∈ tameChars := by
    intro m c hc
    have hdigits : ∀ d < 10, Nat.digitChar d ∈ tameChars := by decide
    obtain ⟨d, ds, htext, hnum, -⟩ := Text.numeral_toDigits (by decide : 1 < 10) m
    rw [Text.ofNat, htext] at hc
    obtain ⟨x, hx, rfl⟩ := List.mem_map.1 hc
    exact hdigits x (hnum.below x hx)
  cases n with
  | ofNat m => exact hnat m
  | negSucc m => exact List.forall_mem_cons.2 ⟨by decide, hnat (m + 1)⟩

theorem ofInt_ne_dash (n : Int) : Text.ofInt n ≠ ['-'] := by
  intro h
  have hwhole := whole?_ofInt n
  rw [h] at hwhole
  cases hwhole

theorem opensPlain_ofInt (n : Int) : OpensPlain (Text.ofInt n) := by
  obtain ⟨c, rest, htext, -⟩ := exists_ofInt n
  exact opensPlain_of_tame (tame_ofInt n) (by rw [htext]; exact List.cons_ne_nil _ _) (ofInt_ne_dash n)

/-- A scalar without a sign in front is plain. -/
theorem readInline_unquoted {c : Char} (hc : isIndicator c = false) (floor fuel : Nat) (as : Anchors) (rest : Text)
    (column line : Nat) (fresh : Bool) (hstart : startsPlain false (c :: rest) = true) :
    readInline false floor (fuel + 1) as ⟨c :: rest, column, line, fresh⟩ =
      let p := readPlain false floor ((c :: rest).length + 1) [] ⟨c :: rest, column, line, fresh⟩
      some (.plain p.1, as, p.2) := by
  rw [readInline, hstart]
  simp only
  split
  case h_6 => rfl
  all_goals
    rename_i heq
    cases heq
    cases hc

section Inline

variable {n floor : Nat} {r : Text} (hr : Follows n r) (hn : n < floor) (fuel : Nat) (as : Anchors)
  (column line : Nat) (fresh : Bool)

include hr hn

theorem readInline_plain {t : Text} (ht : Bare t) (hopens : OpensPlain t) (hcolumn : floor ≤ column) :
    readInline false floor (fuel + 1) as ⟨t ++ '\n' :: (List.replicate n ' ' ++ r), column, line, fresh⟩ =
      some (.plain t, as, ⟨r, n, line + 1, true⟩) := by
  obtain ⟨c, rest, rfl, hindicator, hweak⟩ := hopens
  have hstart : startsPlain false (c :: (rest ++ '\n' :: (List.replicate n ' ' ++ r))) = true := by
    rw [startsPlain]
    split
    · rename_i hc
      simp [endsToken_append (hweak hc)]
    · obtain ⟨hplain, hbreak⟩ := ht.chars c List.mem_cons_self
      have hspace : (c == ' ') = false := beq_eq_false_iff_ne.2 (ht.head c rfl)
      simp [isTokenEnd_eq hplain hbreak, hspace, hbreak, hindicator]
  have hread := readPlain_bare hr hn line ((c :: (rest ++ '\n' :: (List.replicate n ' ' ++ r))).length + 1) (c :: rest) [] column
    fresh ht (List.cons_ne_nil _ _) (by simp only [List.length_cons, List.length_append]; omega) hcolumn
  rw [List.cons_append, readInline_unquoted hindicator _ _ _ _ _ _ _ hstart]
  rw [List.cons_append] at hread
  simp only [hread, List.nil_append]

end Inline

/-- The text holds none of the line breaks U+0085, U+2028 and U+2029. -/
def NoSeparators (t : Text) : Prop := ∀ c ∈ t, c.toNat ≠ 0x85 ∧ c.toNat ≠ 0x2028 ∧ c.toNat ≠ 0x2029

instance (t : Text) : Decidable (NoSeparators t) := List.decidableBAll _ t

theorem indentBreaks_of_not_break (indent : Nat) : ∀ {t : Text}, (∀ c ∈ t, isBreak c = false) → indentBreaks indent t = t
  | [], _ => rfl
  | [c], h => by simp [indentBreaks, h c List.mem_cons_self]
  | c :: x :: t, h => by
    obtain ⟨hc, ht⟩ := List.forall_mem_cons.1 h
    rw [indentBreaks, hc, indentBreaks_of_not_break indent ht]
    rfl

theorem of_allowsSingle {t : Text} (h : allowsSingle t = true) (ht : NoSeparators t) :
    ∀ c ∈ t, c ≠ '\'' ∧ isBreak c = false ∧ isPlainChar c = true := by
  simp only [allowsSingle, Bool.not_eq_true', Bool.or_eq_false_iff] at h
  obtain ⟨⟨⟨hquote, hnewline⟩, hspecial⟩, -⟩ := h
  intro c hc
  have hbreak : isBreak c = false := by
    rw [← Bool.not_eq_true, isBreak_iff]
    rintro (rfl | h85 | h2028 | h2029)
    · simp [hc] at hnewline
    · exact (ht c hc).1 h85
    · exact (ht c hc).2.1 h2028
    · exact (ht c hc).2.2 h2029
  refine ⟨?_, hbreak, isPlainChar_of_not_special (by simpa using List.any_eq_false.1 hspecial c hc) hbreak⟩
  rintro rfl
  simp [hc] at hquote

/-- The node of a text as it is written. -/
def textNode (t : Text) : Node := if allowsPlain t then .plain t else .quoted t

/-- Where the reader comes to after a scalar: to what follows it, or to the end of its line. -/
def Arrived (n : Nat) (r : Text) (cur : Cursor) : Prop :=
  (∃ line, cur = ⟨r, n, line, true⟩) ∨
    ∃ column line, cur = ⟨'\n' :: (List.replicate n ' ' ++ r), column, line, false⟩

/-- **A text is read back in whichever style it is written.** -/
theorem readInline_writeText {n floor : Nat} {r : Text} (hr : Follows n r) (hn : n < floor) (fuel : Nat) (as : Anchors)
    {column : Nat} (hcolumn : floor ≤ column) (line : Nat) (fresh : Bool) (indent : Nat) {t : Text} (ht : NoSeparators t) :
    ∃ after, readInline false floor (fuel + 1) as
        ⟨writeText indent t ++ '\n' :: (List.replicate n ' ' ++ r), column, line, fresh⟩ = some (textNode t, as, after) ∧
      Arrived n r after := by
  unfold writeText textNode
  split
  · rename_i hplain
    obtain ⟨hbare, hopens, -⟩ := of_allowsPlain hplain
    exact ⟨_, readInline_plain hr hn fuel as column line fresh hbare hopens hcolumn, Or.inl ⟨_, rfl⟩⟩
  split
  · rename_i hsingle
    have hchars := of_allowsSingle hsingle ht
    refine ⟨_, ?_, Or.inr ⟨column + 1 + t.length + 1, line, rfl⟩⟩
    rw [writeSingle, indentBreaks_of_not_break indent fun c hc => (hchars c hc).2.1, readInline]
    simp only [List.cons_append, List.append_assoc, List.nil_append]
    rw [readSingle_text (by simp) line t .text _ trivial fun c hc => ⟨(hchars c hc).1, (hchars c hc).2.1⟩]
    rfl
  · refine ⟨_, ?_, Or.inr ⟨column + 1 + (t.flatMap escapeChar).length + 1, line, rfl⟩⟩
    rw [writeDouble, readInline]
    simp only [List.cons_append, List.append_assoc, List.nil_append]
    rw [readDouble_text line _ t .text _ trivial]
    rfl

theorem readInline_ofInt {n floor : Nat} {r : Text} (hr : Follows n r) (hn : n < floor) (fuel : Nat) (as : Anchors)
    {column : Nat} (hcolumn : floor ≤ column) (line : Nat) (fresh : Bool) (i : Int) :
    readInline false floor (fuel + 1) as ⟨Text.ofInt i ++ '\n' :: (List.replicate n ' ' ++ r), column, line, fresh⟩ =
      some (.plain (Text.ofInt i), as, ⟨r, n, line + 1, true⟩) :=
  readInline_plain hr hn fuel as column line fresh (bare_of_tame (tame_ofInt i)) (opensPlain_ofInt i) hcolumn

end Yaml
end Scriptwright
