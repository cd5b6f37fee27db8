import Scriptwright.Proofs.Literals
import Scriptwright.Settings.Load
/-!
# The name of the application

The preamble for data processing puts the name of the application between two single quotes as it is, while the arguments
of commands are escaped.  So the literal there has the name for its value exactly if the name stands on one line, holds no
quote, and no backslash in it makes an escape with what follows (`application_name_in_literal`).  Settings accept every
name that is not blank, and not all of these are of this kind (`application_name_breaks_out`).
-/
namespace Scriptwright

namespace Literal

/-! ## Escapes -/

/-- The character makes an escape with a backslash in front of it. -/
def makesEscape (c : Char) : Bool :=
  (escapedChar? c).isSome || ('0' ≤ c && c ≤ '7') || c == 'x' || c == 'u' || c == 'U' || c == 'N' || c == '\n'

theorem octalDigits_eq_nil_iff {c : Char} {rest : Text} :
    octalDigits (c :: rest) = [] ↔ ('0' ≤ c && c ≤ '7') = false := by
  rw [octalDigits, List.take_succ_cons, List.takeWhile_cons]
  cases '0' ≤ c && c ≤ '7' <;> simp

theorem escape?_of_not_makesEscape {c : Char} (hc : makesEscape c = false) (rest : Text) :
    escape? (c :: rest) = some (['\\'], 0) := by
  simp only [makesEscape, Bool.or_eq_false_iff, beq_eq_false_iff_ne] at hc
  obtain ⟨⟨⟨⟨⟨⟨hchar, hoctal⟩, hx⟩, hu⟩, hU⟩, hN⟩, hfeed⟩ := hc
  have hnone : escapedChar? c = none := Option.not_isSome_iff_eq_none.1 (Bool.eq_false_iff.1 hchar)
  rw [escape?, hnone, octalDigits_eq_nil_iff.2 hoctal]
  · exact hfeed
  · exact hN
  · exact hx
  · exact hu
  · exact hU

/-- An escape is of two characters at least and stands for one at most. -/
theorem escape?_of_makesEscape {c : Char} {rest x : Text} {n : Nat} (hc : makesEscape c = true)
    (h : escape? (c :: rest) = some (x, n)) : x.length ≤ 1 ∧ 0 < n := by
  have hcode : ∀ {code : Option Char} {k : Nat}, (code.map fun y => ([y], k + 1)) = some (x, n) → x.length ≤ 1 ∧ 0 < n := by
    intro code k hcode
    obtain ⟨y, -, hy⟩ := Option.map_eq_some_iff.1 hcode
    obtain ⟨rfl, rfl⟩ := Prod.mk.inj hy
    exact ⟨by simp, by omega⟩
  unfold escape? at h
  split at h
  · cases h
  · obtain ⟨rfl, rfl⟩ := Prod.mk.inj (Option.some.inj h)
    exact ⟨by simp, by omega⟩
  · cases h
  · exact hcode h
  · exact hcode h
  · exact hcode h
  · rename_i hfeed hN hx hu hU heq
    obtain ⟨rfl, rfl⟩ := List.cons.inj heq
    split at h
    · obtain ⟨rfl, rfl⟩ := Prod.mk.inj (Option.some.inj h)
      exact ⟨by simp, by omega⟩
    · rename_i hnone hoctal
      simp only [makesEscape, hnone, octalDigits_eq_nil_iff.1 hoctal, Option.isSome_none, Bool.false_or, Bool.or_eq_true,
        beq_iff_eq] at hc
      exact absurd hc (by simp only [not_or]; exact ⟨⟨⟨⟨hx, hu⟩, hU⟩, hN⟩, hfeed⟩)
    · rename_i hsome
      obtain ⟨rfl, rfl⟩ := Prod.mk.inj (Option.some.inj h)
      exact ⟨by simp, List.length_pos_iff.2 hsome⟩

theorem escape?_cases {t x : Text} {n : Nat} (h : escape? t = some (x, n)) : ∃ c rest, t = c :: rest ∧
    (makesEscape c = false ∧ x = ['\\'] ∧ n = 0 ∨ makesEscape c = true ∧ x.length ≤ 1 ∧ 0 < n) := by
  cases t with
  | nil => cases h
  | cons c rest =>
    refine ⟨c, rest, rfl, ?_⟩
    by_cases hc : makesEscape c = true
    · exact .inr ⟨hc, escape?_of_makesEscape hc h⟩
    · have hplain := Bool.eq_false_iff.2 hc
      rw [escape?_of_not_makesEscape hplain] at h
      obtain ⟨rfl, rfl⟩ := Prod.mk.inj (Option.some.inj h)
      exact .inl ⟨hplain, rfl, rfl⟩

theorem length_unescapeFrom? {n : Nat} {t u : Text} (h : unescapeFrom? n t = some u) : u.length ≤ t.length - n := by
  fun_induction unescapeFrom? n t generalizing u with
  | case1 n =>
    obtain rfl := Option.some.inj h
    simp
  | case2 n c rest ih => simpa using ih h
  | case3 rest hnone => cases h
  | case4 rest x n hescape ih =>
    obtain ⟨u', hu', rfl⟩ := Option.map_eq_some_iff.1 h
    have hlen := ih hu'
    obtain ⟨c, r, rfl, ⟨-, rfl, rfl⟩ | ⟨-, hx, hn⟩⟩ := escape?_cases hescape <;> simp at hlen ⊢ <;> omega
  | case5 c rest hc ih =>
    obtain ⟨u', hu', rfl⟩ := Option.map_eq_some_iff.1 h
    have hlen := ih hu'
    simp at hlen ⊢
    omega

/-- Every backslash is followed by a character that makes no escape with it. -/
def Inert (t : Text) : Prop :=
  ∀ before after, t = before ++ '\\' :: after → ∃ c rest, after = c :: rest ∧ makesEscape c = false

theorem inert_cons {c : Char} {t : Text} :
    Inert (c :: t) ↔ (c = '\\' → ∃ d rest, t = d :: rest ∧ makesEscape d = false) ∧ Inert t := by
  constructor
  · intro h
    refine ⟨fun hc => h [] t (by rw [hc]; rfl), fun before after ht => h (c :: before) after (by rw [ht]; rfl)⟩
  · rintro ⟨hc, ht⟩ before after heq
    cases before with
    | nil =>
      obtain ⟨hslash, rfl⟩ := List.cons.inj heq
      exact hc hslash
    | cons b before => exact ht before after (List.cons.inj heq).2

/-- **A text has itself for its value exactly if nothing in it makes an escape.**  Every escape makes it shorter. -/
theorem unescape?_eq_self_iff {t : Text} : unescape? t = some t ↔ Inert t := by
  unfold unescape?
  induction t with
  | nil => exact iff_of_true rfl fun before after h => by simp at h
  | cons c t ih =>
    rw [inert_cons, ← ih]
    by_cases hc : c = '\\'
    · subst hc
      rw [unescapeFrom?, if_pos rfl]
      constructor
      · intro h
        split at h
        · cases h
        · rename_i x n hescape
          obtain ⟨u, hu, heq⟩ := Option.map_eq_some_iff.1 h
          have hlen := length_unescapeFrom? hu
          obtain ⟨d, rest, rfl, ⟨hd, rfl, rfl⟩ | ⟨-, hx, hn⟩⟩ := escape?_cases hescape
          · obtain rfl : u = d :: rest := by simpa using heq
            exact ⟨fun _ => ⟨d, rest, rfl, hd⟩, hu⟩
          · have htotal := congrArg List.length heq
            simp at htotal hlen
            omega
      · rintro ⟨hnext, ht⟩
        obtain ⟨d, rest, rfl, hd⟩ := hnext rfl
        simp only [escape?_of_not_makesEscape hd, ht]
        rfl
    · rw [unescapeFrom?, if_neg hc]
      simp [hc]

/-! ## The end of the literal -/

theorem eq_of_closing? {quote : Char} {t body after : Text} (h : closing? quote t = some (body, after)) :
    t = body ++ quote :: after := by
  fun_induction closing? quote t generalizing body after with
  | case1 => cases h
  | case2 c rest ih =>
    obtain ⟨⟨b, a⟩, hb, heq⟩ := Option.map_eq_some_iff.1 h
    obtain ⟨rfl, rfl⟩ := Prod.mk.inj heq
    rw [ih hb]
    rfl
  | case3 rest hslash =>
    obtain ⟨rfl, rfl⟩ := Prod.mk.inj (Option.some.inj h)
    rfl
  | case4 => cases h
  | case5 c rest hslash hquote hbreak ih =>
    obtain ⟨⟨b, a⟩, hb, heq⟩ := Option.map_eq_some_iff.1 h
    obtain ⟨rfl, rfl⟩ := Prod.mk.inj heq
    rw [ih hb]
    rfl

/-- A backslash that makes no escape is passed over like any other character. -/
theorem closing?_of_inert {c : Char} {t : Text} (hinert : Inert (c :: t)) (hline : ∀ x ∈ c :: t, x ≠ '\n' ∧ x ≠ '\r')
    (hquote : c ≠ '\'') (rest : Text) :
    closing? '\'' (c :: (t ++ rest)) = (closing? '\'' (t ++ rest)).map fun p => (c :: p.1, p.2) := by
  obtain ⟨hc, ht⟩ := List.forall_mem_cons.1 hline
  by_cases hslash : c = '\\'
  · subst hslash
    obtain ⟨d, r, rfl, hd⟩ := (inert_cons.1 hinert).1 rfl
    have hne : ∀ x, makesEscape x = true → d ≠ x := by
      rintro x hx rfl
      rw [hd] at hx
      cases hx
    rw [List.cons_append, closing?, closing?_plain (hne _ rfl) (hne _ rfl) (List.forall_mem_cons.1 ht).1, Option.map_map]
    rfl
  · exact closing?_plain hslash hquote hc _

/-- **Where nothing makes an escape, the first quote ends the literal.** -/
theorem closing?_of_inert_iff {t : Text} (hinert : Inert t) (hline : ∀ c ∈ t, c ≠ '\n' ∧ c ≠ '\r') (rest : Text) :
    closing? '\'' (t ++ '\'' :: rest) = some (t, rest) ↔ '\'' ∉ t := by
  induction t with
  | nil => exact iff_of_true rfl List.not_mem_nil
  | cons c t ih =>
    by_cases hquote : c = '\''
    · subst hquote
      refine iff_of_false (fun h => ?_) fun h => h List.mem_cons_self
      cases h
    · have ht := ih (inert_cons.1 hinert).2 (List.forall_mem_cons.1 hline).2
      rw [List.cons_append, closing?_of_inert hinert hline hquote, List.mem_cons, not_or, ← ht]
      simp [Ne.symm hquote, Prod.ext_iff]

/-- **A text between single quotes is read as itself exactly if it holds no quote and nothing in it makes an escape.** -/
theorem read?_quoted_iff {t rest : Text} (hline : ∀ c ∈ t, c ≠ '\n' ∧ c ≠ '\r') (hrest : rest.head? ≠ some '\'') :
    read? '\'' ('\'' :: (t ++ '\'' :: rest)) = some (t, rest) ↔ '\'' ∉ t ∧ Inert t := by
  rw [read?]
  constructor
  · intro h
    split at h
    · split at h
      · cases h
      · rename_i body after hclosing
        obtain ⟨value, hvalue, heq⟩ := Option.map_eq_some_iff.1 h
        obtain ⟨rfl, rfl⟩ := Prod.mk.inj heq
        obtain rfl : value = body := List.append_cancel_right (eq_of_closing? hclosing)
        have hinert := unescape?_eq_self_iff.1 hvalue
        exact ⟨(closing?_of_inert_iff hinert hline after).1 hclosing, hinert⟩
    · cases h
  · rintro ⟨hquote, hinert⟩
    have hstart : Text.startsWith (t ++ '\'' :: rest) ['\'', '\''] = false := by
      rw [Bool.eq_false_iff, ne_eq, Text.startsWith_iff]
      cases t with
      | nil =>
        rintro ⟨r, hr⟩
        obtain rfl : '\'' :: r = rest := by simpa using hr
        exact hrest rfl
      | cons c t =>
        intro hprefix
        obtain ⟨rfl, -⟩ := List.cons_prefix_cons.1 hprefix
        exact hquote List.mem_cons_self
    rw [hstart, (closing?_of_inert_iff hinert hline rest).2 hquote]
    simp [unescape?_eq_self_iff.2 hinert]

end Literal

/-! ## The line of the session -/

/-- The text can stand within a line of a program. -/
def InProgramLine (t : Text) : Prop := ∀ c ∈ t, c ≠ '\n' ∧ c ≠ '\r' ∧ c ≠ '\x00'

/-- **When the literal in the preamble has the name of the application for its value.**  The literal stands on the fifth
line.  It is within that line, ends where it was meant to end and has the name for its value exactly if the name could be
within a line and holds no quote and no backslash that makes an escape with the character behind it. -/
theorem application_name_in_literal (s : Settings) :
    let literal := '\'' :: (s.appName ++ ['\''])
    let after := ").getOrCreate()".toList
    (preamble s .dataProcessing)[4]? =
      some (s.sessionName ++ " = SparkSession.builder.appName(".toList ++ (literal ++ after)) ∧
    (InProgramLine literal ∧ Literal.read? '\'' (literal ++ after) = some (s.appName, after) ↔
      InProgramLine s.appName ∧ '\'' ∉ s.appName ∧ Literal.Inert s.appName) := by
  intro literal after
  have hjoin : literal ++ after = '\'' :: (s.appName ++ '\'' :: after) := by simp [literal]
  have hopening : " = SparkSession.builder.appName('".toList = " = SparkSession.builder.appName(".toList ++ ['\''] := by
    decide
  have hclosing : "').getOrCreate()".toList = '\'' :: after := by decide
  have hline : InProgramLine literal ↔ InProgramLine s.appName := by
    unfold InProgramLine
    simp only [literal, List.forall_mem_cons, List.forall_mem_append]
    simp
  constructor
  · rw [hjoin]
    show some (s.sessionName ++ _ ++ s.appName ++ _) = _
    rw [hopening, hclosing]
    simp only [List.append_assoc, List.cons_append, List.nil_append]
  · rw [hline, hjoin]
    exact and_congr_right fun h => Literal.read?_quoted_iff (fun c hc => ⟨(h c hc).1, (h c hc).2.1⟩) (by decide)

/-- **A name that is accepted may break out of its literal**: the quote in it ends the literal, and the rest of the name is
left over as code. -/
theorem application_name_breaks_out :
    let s : Settings := { appName := "it's".toList }
    Settings.ofValue (Path.ofText "config.yaml".toList) (.record [("spark_app_name", .ofString "it's")]) = ([], .ok s) ∧
    (preamble s .dataProcessing)[4]? = some "spark = SparkSession.builder.appName('it's').getOrCreate()".toList ∧
    Literal.read? '\'' "'it's').getOrCreate()".toList = some ("it".toList, "s').getOrCreate()".toList) := by
  intro s
  exact ⟨rfl, by decide, by decide⟩

end Scriptwright
