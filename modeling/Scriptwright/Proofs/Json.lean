import Scriptwright.Json.Reader
import Scriptwright.Proofs.Numeral
import Scriptwright.Report.Export
/-!
# JSON read back

Reading is the inverse of writing on every value that the format has a form for (`read?_write`): null, truth values,
whole numbers, texts, and lists and mappings of them.  A report is such a value, so nothing of it is lost, and its
document is plain ASCII (`isAscii_writeAt`).

The reader is asked about a written value in front of any text that ends it, at any depth and with any fuel from its
length on (`ReadsBack`).  In this form the statement about a list or a mapping follows from those about its parts.
-/
namespace Scriptwright
namespace Json

/-! ## Strings -/

theorem exists_unit {n : Nat} (hn : n < 0x10000) :
    ∃ a b c d, Text.hexLower 4 n = [a, b, c, d] ∧ unit? a b c d = some n := by
  obtain ⟨ds, htext, hnum, hlen⟩ := Text.numeral_hexLower (by decide : 0 < 4) hn
  match ds, hlen with
  | [a, b, c, d], _ =>
    have hbelow := hnum.below
    simp only [List.forall_mem_cons] at hbelow
    obtain ⟨ha, hb, hc, hd, -⟩ := hbelow
    refine ⟨_, _, _, _, htext, ?_⟩
    rw [unit?, Text.hexDigit?_digitChar a ha, Text.hexDigit?_digitChar b hb, Text.hexDigit?_digitChar c hc,
      Text.hexDigit?_digitChar d hd]
    exact congrArg some hnum.value

theorem readChars_unitEscape {n : Nat} (hn : n < 0x10000) (hhigh : isHighUnit n = false) (hlow : isLowUnit n = false)
    (rest : Text) :
    readChars (unitEscape n ++ rest) = (readChars rest).map fun p => (Char.ofNat n :: p.1, p.2) := by
  obtain ⟨a, b, c, d, htext, hunit⟩ := exists_unit hn
  rw [unitEscape, htext]
  simp only [List.cons_append, List.nil_append]
  rw [readChars, hunit]
  simp only [hhigh, hlow, Bool.false_eq_true, if_false]

theorem readChars_unitEscapes {n m : Nat} (hn : n < 0x10000) (hm : m < 0x10000) (hhigh : isHighUnit n = true)
    (hlow : isLowUnit m = true) (rest : Text) :
    readChars (unitEscape n ++ unitEscape m ++ rest) = (readChars rest).map fun p => (pairChar n m :: p.1, p.2) := by
  obtain ⟨a, b, c, d, htext, hunit⟩ := exists_unit hn
  obtain ⟨e, f, g, h, htext', hunit'⟩ := exists_unit hm
  rw [unitEscape, unitEscape, htext, htext']
  simp only [List.cons_append, List.nil_append]
  rw [readChars, hunit]
  simp only [hhigh, if_true, hunit', hlow]

theorem readChars_shortEscape {c x : Char} (hc : c ≠ 'u') (h : shortEscape? c = some x) (rest : Text) :
    readChars ('\\' :: c :: rest) = (readChars rest).map fun p => (x :: p.1, p.2) := by
  rw [readChars]
  · rw [h]
  · rintro a b d e r rfl
    exact absurd rfl hc

theorem readChars_cons {c : Char} (h : 0x20 ≤ c.toNat) (hquote : c ≠ '"') (hslash : c ≠ '\\') (rest : Text) :
    readChars (c :: rest) = (readChars rest).map fun p => (c :: p.1, p.2) := by
  rw [readChars]
  · rw [if_neg]
    simp [hslash, h]
  · exact hquote
  · intro a b d e r hc
    exact absurd hc hslash
  · intro a r hc
    exact absurd hc hslash

/-- The four ways in which a character is written in a string. -/
inductive Escaped (c : Char) : Text → Prop where
  | short {x : Char} (hx : x ≠ 'u') (h : shortEscape? x = some c) : Escaped c ['\\', x]
  | itself (hquote : c ≠ '"') (hslash : c ≠ '\\') (hlow : 0x20 ≤ c.toNat) (hhigh : c.toNat < 0x7F) : Escaped c [c]
  | unit (h : c.toNat < 0x10000) : Escaped c (unitEscape c.toNat)
  | pair (h : 0x10000 ≤ c.toNat) :
    Escaped c (unitEscape (0xD800 + (c.toNat - 0x10000) / 0x400) ++ unitEscape (0xDC00 + (c.toNat - 0x10000) % 0x400))

theorem escaped_escapeChar (c : Char) : Escaped c (escapeChar c) := by
  have hshort : ∀ {x y : Char}, x ≠ 'u' → shortEscape? x = some y → c = y → Escaped c ['\\', x] :=
    fun hx h hc => .short hx (hc ▸ h)
  unfold escapeChar
  refine iteInduction (hshort (by decide) rfl) fun hquote => ?_
  refine iteInduction (hshort (by decide) rfl) fun hslash => ?_
  iterate 5 refine iteInduction (hshort (by decide) rfl) fun _ => ?_
  refine iteInduction (fun hascii => ?_) fun _ => ?_
  · simp only [Bool.and_eq_true, decide_eq_true_eq] at hascii
    exact .itself hquote hslash hascii.1 hascii.2
  · exact iteInduction .unit fun h => .pair (Nat.le_of_not_lt h)

/-- **A written character is read as itself**, in whichever way it is written. -/
theorem Escaped.readChars {c : Char} {t : Text} (h : Escaped c t) (rest : Text) :
    readChars (t ++ rest) = (readChars rest).map fun p => (c :: p.1, p.2) := by
  have hvalid := Text.toNat_valid c
  cases h with
  | short hx h => exact readChars_shortEscape hx h rest
  | itself hquote hslash hlow hhigh => exact readChars_cons hlow hquote hslash rest
  | unit h =>
    rw [readChars_unitEscape h ?_ ?_, Char.ofNat_toNat]
    · simp only [isHighUnit, Bool.and_eq_false_iff, decide_eq_false_iff_not]
      omega
    · simp only [isLowUnit, Bool.and_eq_false_iff, decide_eq_false_iff_not]
      omega
  | pair h =>
    rw [readChars_unitEscapes (by omega) (by omega) ?_ ?_]
    · have hpair : 0x10000 + (0xD800 + (c.toNat - 0x10000) / 0x400 - 0xD800) * 0x400 +
          (0xDC00 + (c.toNat - 0x10000) % 0x400 - 0xDC00) = c.toNat := by omega
      rw [pairChar, hpair, Char.ofNat_toNat]
    · simp only [isHighUnit, Bool.and_eq_true, decide_eq_true_eq]
      omega
    · simp only [isLowUnit, Bool.and_eq_true, decide_eq_true_eq]
      omega

theorem readChars_flatMap : ∀ t rest : Text, readChars (t.flatMap escapeChar ++ '"' :: rest) = some (t, rest)
  | [], rest => by rw [List.flatMap_nil, List.nil_append, readChars]
  | c :: t, rest => by
    rw [List.flatMap_cons, List.append_assoc, (escaped_escapeChar c).readChars, readChars_flatMap t rest]
    rfl

theorem writeString_append (t rest : Text) : writeString t ++ rest = '"' :: (t.flatMap escapeChar ++ '"' :: rest) := by
  simp [writeString]

/-! ## Numerals -/

/-- What follows a value in a document: nothing, the next item, or the line of the closing bracket. -/
def EndsValue (rest : Text) : Prop := ∀ c, rest.head? = some c → c = ',' ∨ c = '\n'

theorem endsValue_nil : EndsValue [] := by
  intro c hc
  cases hc

theorem endsValue_comma (t : Text) : EndsValue (',' :: t) := by
  rintro c ⟨⟩
  exact Or.inl rfl

theorem endsValue_newLine (depth : Nat) (t : Text) : EndsValue (newLine depth ++ t) := by
  rintro c ⟨⟩
  exact Or.inr rfl

theorem spanDigits_append {ds : List Nat} (hds : ∀ d ∈ ds, d < 10) {rest : Text} (hrest : EndsValue rest) :
    spanDigits (ds.map Nat.digitChar ++ rest) = (ds, rest) := by
  have hdigit : ∀ c ∈ ds.map Nat.digitChar, c.isDigit = true := by
    intro c hc
    obtain ⟨d, hd, rfl⟩ := List.mem_map.1 hc
    rw [Nat.isDigit_digitChar]
    exact decide_eq_true (hds d hd)
  have hstop : rest.takeWhile Char.isDigit = [] ∧ rest.dropWhile Char.isDigit = rest := by
    cases rest with
    | nil => exact ⟨rfl, rfl⟩
    | cons c cs => rcases hrest c rfl with rfl | rfl <;> exact ⟨rfl, rfl⟩
  rw [spanDigits, List.takeWhile_append_of_pos hdigit, List.dropWhile_append_of_pos hdigit, hstop.1, hstop.2,
    List.append_nil, List.map_map]
  have hvalue : ∀ d ∈ ds, ((fun c : Char => c.toNat - 48) ∘ Nat.digitChar) d = id d := fun d hd =>
    Nat.toNat_digitChar_sub_48_of_lt_ten (hds d hd)
  rw [List.map_congr_left hvalue, List.map_id]

theorem readFraction_of_endsValue {rest : Text} (h : EndsValue rest) : readFraction rest = some ([], rest) := by
  cases rest with
  | nil => rfl
  | cons c cs => rcases h c rfl with rfl | rfl <;> rfl

theorem readExponent_of_endsValue {rest : Text} (h : EndsValue rest) : readExponent rest = some (none, rest) := by
  cases rest with
  | nil => rfl
  | cons c cs => rcases h c rfl with rfl | rfl <;> rfl

theorem readNumeral_ofNat (negative : Bool) (n : Nat) {rest : Text} (h : EndsValue rest) :
    readNumeral negative (Text.ofNat n ++ rest) = some (.int (if negative then -(n : Int) else n), rest) := by
  obtain ⟨d, ds, htext, hnum, hzero⟩ := Text.numeral_toDigits (by decide : 1 < 10) n
  unfold readNumeral
  rw [Text.ofNat, htext, spanDigits_append hnum.below h]
  have hvalue := hnum.value
  split
  · rename_i heq
    cases heq
  · -- a zero in front stands alone
    rename_i heq
    obtain ⟨⟨rfl, rfl⟩, -⟩ : (d = 0 ∧ ds = _ :: _) ∧ rest = _ := by simpa using heq
    cases hzero rfl
  · rename_i whole rest' _ _ heq
    obtain ⟨rfl, rfl⟩ : d :: ds = whole ∧ rest = rest' := by simpa using heq
    rw [readFraction_of_endsValue h]
    simp only
    rw [readExponent_of_endsValue h]
    simp only [List.isEmpty_nil, Option.isNone_none, Bool.and_self, if_true, hvalue]

theorem readValue_of_isDigit {c : Char} (hc : c.isDigit = true) (fuel : Nat) (rest : Text) :
    readValue (fuel + 1) (c :: rest) = readNumeral false (c :: rest) := by
  rw [readValue]
  · intro h
    cases h
  all_goals
    intro r h
    obtain ⟨rfl, -⟩ := List.cons.inj h
    revert hc
    decide

theorem readValue_ofInt (fuel : Nat) (n : Int) {rest : Text} (h : EndsValue rest) :
    readValue (fuel + 1) (Text.ofInt n ++ rest) = some (.int n, rest) := by
  cases n with
  | ofNat n =>
    have hnumeral := readNumeral_ofNat false n h
    obtain ⟨c, tail, htext, hc⟩ := Text.exists_ofNat n
    rw [Text.ofInt, htext, List.cons_append, readValue_of_isDigit hc, ← List.cons_append, ← htext, hnumeral]
    rfl
  | negSucc n =>
    show readValue (fuel + 1) ('-' :: (Text.ofNat (n + 1) ++ rest)) = _
    rw [readValue, readNumeral_ofNat true (n + 1) h]
    rfl

/-! ## Values -/

/-- The values that have a form in JSON: no real number and no moment is among them, and names are texts. -/
inductive Representable : Value → Prop where
  | null : Representable .null
  | bool (b : Bool) : Representable (.bool b)
  | int (n : Int) : Representable (.int n)
  | text (t : Text) : Representable (.text t)
  | list {vs : List Value} (h : ∀ v ∈ vs, Representable v) : Representable (.list vs)
  | map {es : List (Value × Value)} (hkey : ∀ e ∈ es, ∃ k, e.1 = .text k) (h : ∀ e ∈ es, Representable e.2) :
    Representable (.map es)

/-- What a value begins with: no space, and no bracket or brace that closes. -/
def OpensValue (t : Text) : Prop := ∃ c rest, t = c :: rest ∧ isSpace c = false ∧ c ≠ ']' ∧ c ≠ '\x7d'

theorem opensValue_ofNat (n : Nat) : OpensValue (Text.ofNat n) := by
  obtain ⟨c, tail, htext, hc⟩ := Text.exists_ofNat n
  have hne : ∀ x : Char, x.isDigit = false → c ≠ x := by
    rintro x hx rfl
    rw [hx] at hc
    cases hc
  refine ⟨c, tail, htext, ?_, hne ']' rfl, hne '\x7d' rfl⟩
  simp [isSpace, hne ' ' rfl, hne '\n' rfl, hne '\r' rfl, hne '\t' rfl]

theorem opensValue_writeAt (depth : Nat) {v : Value} (h : Representable v) : OpensValue (writeAt depth v) := by
  cases h with
  | null => exact ⟨'n', _, rfl, by decide⟩
  | bool b => cases b <;> exact ⟨_, _, rfl, by decide⟩
  | int n =>
    cases n with
    | ofNat n => exact opensValue_ofNat n
    | negSucc n => exact ⟨'-', _, rfl, by decide⟩
  | text t => exact ⟨'"', _, rfl, by decide⟩
  | @list vs h => cases vs <;> exact ⟨'[', _, rfl, by decide⟩
  | @map es hkey h => cases es <;> exact ⟨'\x7b', _, rfl, by decide⟩

theorem OpensValue.append {t : Text} (h : OpensValue t) (rest : Text) : OpensValue (t ++ rest) := by
  obtain ⟨c, tail, rfl, hc⟩ := h
  exact ⟨c, tail ++ rest, rfl, hc⟩

theorem skipSpace_cons {c : Char} (hc : isSpace c = false) (t : Text) : skipSpace (c :: t) = c :: t := by
  rw [skipSpace, List.dropWhile_cons, hc]
  rfl

theorem skipSpace_newLine (depth : Nat) (t : Text) : skipSpace (newLine depth ++ t) = skipSpace t := by
  refine List.dropWhile_append_of_pos fun c hc => ?_
  rcases List.mem_cons.1 hc with rfl | hc
  · rfl
  · rw [List.eq_of_mem_replicate hc]
    rfl

theorem OpensValue.skipSpace {t : Text} (h : OpensValue t) : skipSpace t = t := by
  obtain ⟨c, tail, rfl, hc, -⟩ := h
  exact skipSpace_cons hc tail

/-- **The value is read back** from what is written for it, at any depth and whatever ends it. -/
def ReadsBack (v : Value) : Prop :=
  ∀ (depth fuel : Nat) (rest : Text), (writeAt depth v).length ≤ fuel → EndsValue rest →
    readValue fuel (writeAt depth v ++ rest) = some (v, rest)

/-- A value is written with at least one character, so there is a step of fuel to begin with. -/
theorem ReadsBack.intro {v : Value} (hv : Representable v)
    (h : ∀ (depth fuel : Nat) (rest : Text), (writeAt depth v).length ≤ fuel + 1 → EndsValue rest →
      readValue (fuel + 1) (writeAt depth v ++ rest) = some (v, rest)) : ReadsBack v := by
  intro depth fuel rest hfuel hrest
  cases fuel with
  | zero =>
    obtain ⟨c, tail, htext, -⟩ := opensValue_writeAt depth hv
    rw [htext] at hfuel
    cases hfuel
  | succ fuel => exact h depth fuel rest hfuel hrest

/-! ## Lists -/

theorem writeItems_cons (depth : Nat) (v w : Value) (ws : List Value) :
    writeItems depth (v :: w :: ws) = writeAt depth v ++ ',' :: (newLine depth ++ writeItems depth (w :: ws)) := by
  rw [writeItems]
  · simp only [List.append_assoc, List.cons_append, List.nil_append]
  · simp

theorem opensValue_writeItems (depth : Nat) {v : Value} (h : Representable v) :
    ∀ vs : List Value, OpensValue (writeItems depth (v :: vs))
  | [] => opensValue_writeAt depth h
  | w :: ws => by
    rw [writeItems_cons]
    exact (opensValue_writeAt depth h).append _

theorem readItems_writeItems (depth depth' : Nat) (rest : Text) :
    ∀ (v : Value) (vs : List Value) (fuel : Nat), (∀ x ∈ v :: vs, Representable x ∧ ReadsBack x) →
      (writeItems depth (v :: vs)).length < fuel →
      readItems fuel (writeItems depth (v :: vs) ++ (newLine depth' ++ ']' :: rest)) = some (v :: vs, rest)
  | v, [], fuel + 1, h, hfuel => by
    have hv := (h v List.mem_cons_self).2 depth fuel (newLine depth' ++ ']' :: rest) (Nat.le_of_lt_succ hfuel)
      (endsValue_newLine _ _)
    rw [writeItems, readItems, hv]
    simp only [skipSpace_newLine, skipSpace_cons (by decide : isSpace ']' = false)]
  | v, w :: ws, fuel + 1, h, hfuel => by
    obtain ⟨hv, hws⟩ := List.forall_mem_cons.1 h
    rw [writeItems_cons, List.length_append, List.length_cons, List.length_append] at hfuel
    have hopens := (opensValue_writeItems depth (hws w List.mem_cons_self).1 ws).append (newLine depth' ++ ']' :: rest)
    have htail := readItems_writeItems depth depth' rest w ws fuel hws (by omega)
    rw [writeItems_cons, List.append_assoc, List.cons_append, List.append_assoc, readItems,
      hv.2 depth fuel _ (by omega) (endsValue_comma _)]
    simp only [skipSpace_cons (by decide : isSpace ',' = false), skipSpace_newLine, hopens.skipSpace, htail]
    rfl

theorem readValue_bracket {t : Text} (h : OpensValue t) (fuel depth : Nat) :
    readValue (fuel + 1) ('[' :: (newLine depth ++ t)) = (readItems fuel t).map fun p => (.list p.1, p.2) := by
  rw [readValue, skipSpace_newLine, h.skipSpace]
  obtain ⟨c, tail, rfl, -, hc, -⟩ := h
  split
  · rename_i heq
    exact absurd (List.cons.inj heq).1 hc
  · rfl

theorem readsBack_list {vs : List Value} (h : ∀ v ∈ vs, Representable v ∧ ReadsBack v) : ReadsBack (.list vs) := by
  refine ReadsBack.intro (.list fun v hv => (h v hv).1) fun depth fuel rest hfuel _ => ?_
  cases vs with
  | nil => rfl
  | cons v vs =>
    rw [writeAt] at hfuel ⊢
    simp only [List.cons_append, List.append_assoc, List.nil_append, List.length_cons, List.length_append] at hfuel ⊢
    have hopens := opensValue_writeItems (depth + 1) (h v List.mem_cons_self).1 vs
    have hitems := readItems_writeItems (depth + 1) depth rest v vs fuel h (by omega)
    rw [readValue_bracket (hopens.append _), hitems]
    rfl

/-! ## Mappings -/

theorem writeMembers_cons (depth : Nat) (k : Text) (v : Value) (e : Value × Value) (es : List (Value × Value)) :
    writeMembers depth ((.text k, v) :: e :: es) =
      writeString k ++ ':' :: ' ' :: (writeAt depth v ++ ',' :: (newLine depth ++ writeMembers depth (e :: es))) := by
  rw [writeMembers]
  · simp [writeKey]
  · simp

theorem writeMembers_singleton (depth : Nat) (k : Text) (v : Value) :
    writeMembers depth [(.text k, v)] = writeString k ++ ':' :: ' ' :: writeAt depth v := by
  simp [writeMembers, writeKey]

theorem opensValue_writeMembers (depth : Nat) (k : Text) (v : Value) (es : List (Value × Value)) :
    OpensValue (writeMembers depth ((.text k, v) :: es)) := by
  cases es with
  | nil => exact ⟨'"', _, rfl, by decide⟩
  | cons e es => exact ⟨'"', _, rfl, by decide⟩

theorem skipSpace_value {v : Value} (h : Representable v) (depth : Nat) (rest : Text) :
    skipSpace (' ' :: (writeAt depth v ++ rest)) = writeAt depth v ++ rest :=
  ((opensValue_writeAt depth h).append rest).skipSpace

theorem readMembers_writeMembers (depth depth' : Nat) (rest : Text) :
    ∀ (k : Text) (v : Value) (es : List (Value × Value)) (fuel : Nat), (∀ e ∈ es, ∃ k, e.1 = .text k) →
      (Representable v ∧ ReadsBack v) → (∀ e ∈ es, Representable e.2 ∧ ReadsBack e.2) →
      (writeMembers depth ((.text k, v) :: es)).length < fuel →
      readMembers fuel (writeMembers depth ((.text k, v) :: es) ++ (newLine depth' ++ '\x7d' :: rest)) =
        some ((.text k, v) :: es, rest)
  | k, v, [], fuel + 1, _, ⟨hv, hback⟩, _, hfuel => by
    rw [writeMembers_singleton, List.length_append, List.length_cons, List.length_cons] at hfuel
    rw [writeMembers_singleton, List.append_assoc, writeString_append, readMembers, readChars_flatMap]
    simp only [List.cons_append, skipSpace_cons (by decide : isSpace ':' = false), skipSpace_value hv,
      hback depth fuel _ (by omega) (endsValue_newLine depth' _), skipSpace_newLine,
      skipSpace_cons (by decide : isSpace '\x7d' = false)]
  | k, v, (key, w) :: es, fuel + 1, hkey, ⟨hv, hback⟩, hes, hfuel => by
    rw [writeMembers_cons] at hfuel
    simp only [List.length_append, List.length_cons] at hfuel
    obtain ⟨⟨k', rfl⟩, hkeys⟩ := List.forall_mem_cons.1 hkey
    obtain ⟨hw, hes⟩ := List.forall_mem_cons.1 hes
    have hopens := (opensValue_writeMembers depth k' w es).append (newLine depth' ++ '\x7d' :: rest)
    have htail := readMembers_writeMembers depth depth' rest k' w es fuel hkeys hw hes (by omega)
    rw [writeMembers_cons, List.append_assoc, writeString_append, readMembers, readChars_flatMap]
    simp only [List.cons_append, List.append_assoc, skipSpace_cons (by decide : isSpace ':' = false), skipSpace_value hv,
      hback depth fuel _ (by omega) (endsValue_comma _), skipSpace_cons (by decide : isSpace ',' = false),
      skipSpace_newLine, hopens.skipSpace, htail]
    rfl

theorem readValue_brace {t : Text} (h : OpensValue t) (fuel depth : Nat) :
    readValue (fuel + 1) ('\x7b' :: (newLine depth ++ t)) = (readMembers fuel t).map fun p => (.map p.1, p.2) := by
  rw [readValue, skipSpace_newLine, h.skipSpace]
  obtain ⟨c, tail, rfl, -, -, hc⟩ := h
  split
  · rename_i heq
    exact absurd (List.cons.inj heq).1 hc
  · rfl

theorem readsBack_map {es : List (Value × Value)} (hkey : ∀ e ∈ es, ∃ k, e.1 = .text k)
    (h : ∀ e ∈ es, Representable e.2 ∧ ReadsBack e.2) : ReadsBack (.map es) := by
  refine ReadsBack.intro (.map hkey fun e he => (h e he).1) fun depth fuel rest hfuel _ => ?_
  match es, hkey, h with
  | [], _, _ => rfl
  | (key, v) :: es, hkey, h =>
    obtain ⟨⟨k, rfl⟩, hkeys⟩ := List.forall_mem_cons.1 hkey
    obtain ⟨hv, hes⟩ := List.forall_mem_cons.1 h
    rw [writeAt] at hfuel ⊢
    simp only [List.cons_append, List.append_assoc, List.nil_append, List.length_cons, List.length_append] at hfuel ⊢
    have hopens := opensValue_writeMembers (depth + 1) k v es
    have hmembers := readMembers_writeMembers (depth + 1) depth rest k v es fuel hkeys hv hes (by omega)
    rw [readValue_brace (hopens.append _), hmembers]
    rfl

/-! ## Documents -/

theorem readsBack_of_representable {v : Value} (h : Representable v) : ReadsBack v := by
  induction h with
  | null => exact .intro .null fun depth fuel rest _ _ => rfl
  | bool b => exact .intro (.bool b) fun depth fuel rest _ _ => by cases b <;> rfl
  | int n => exact .intro (.int n) fun depth fuel rest _ hrest => readValue_ofInt fuel n hrest
  | text t =>
    refine .intro (.text t) fun depth fuel rest _ _ => ?_
    show readValue (fuel + 1) (writeString t ++ rest) = some (.text t, rest)
    rw [writeString_append, readValue, readChars_flatMap]
    rfl
  | list h ih => exact readsBack_list fun v hv => ⟨h v hv, ih v hv⟩
  | map hkey h ih => exact readsBack_map hkey fun e he => ⟨h e he, ih e he⟩

/-- **Reading is the inverse of writing** on what has a form in JSON. -/
theorem read?_write {v : Value} (h : Representable v) : read? (write v) = some v := by
  have hskip : skipSpace (write v) = write v := (opensValue_writeAt 0 h).skipSpace
  have hback : readValue ((write v).length + 1) (write v ++ []) = some (v, []) :=
    readsBack_of_representable h 0 ((write v).length + 1) [] (Nat.le_succ _) endsValue_nil
  rw [List.append_nil] at hback
  rw [read?, hskip, hback]
  rfl

/-! ## ASCII -/

/-- Characters of ASCII that have a printed form, and line feeds. -/
def IsAscii (t : Text) : Prop := ∀ c ∈ t, c = '\n' ∨ (0x20 ≤ c.toNat ∧ c.toNat < 0x7F)

instance (t : Text) : Decidable (IsAscii t) := List.decidableBAll _ t

theorem IsAscii.append {a b : Text} (ha : IsAscii a) (hb : IsAscii b) : IsAscii (a ++ b) :=
  List.forall_mem_append.2 ⟨ha, hb⟩

theorem isAscii_digitChars {base : Nat} {ds : List Nat} (hbase : base ≤ 16) (h : ∀ d ∈ ds, d < base) :
    IsAscii (ds.map Nat.digitChar) := by
  have hall : ∀ d < 16, Nat.digitChar d = '\n' ∨ (0x20 ≤ (Nat.digitChar d).toNat ∧ (Nat.digitChar d).toNat < 0x7F) := by
    decide
  intro c hc
  obtain ⟨d, hd, rfl⟩ := List.mem_map.1 hc
  exact hall d (Nat.lt_of_lt_of_le (h d hd) hbase)

theorem isAscii_ofInt (n : Int) : IsAscii (Text.ofInt n) := by
  have hnat : ∀ m : Nat, IsAscii (Text.ofNat m) := by
    intro m
    obtain ⟨d, ds, htext, hnum, -⟩ := Text.numeral_toDigits (by decide : 1 < 10) m
    rw [Text.ofNat, htext]
    exact isAscii_digitChars (by decide) hnum.below
  cases n with
  | ofNat m => exact hnat m
  | negSucc m => exact IsAscii.append (a := ['-']) (by decide) (hnat (m + 1))

theorem isAscii_unitEscape {n : Nat} (hn : n < 0x10000) : IsAscii (unitEscape n) := by
  obtain ⟨ds, htext, hnum, -⟩ := Text.numeral_hexLower (by decide : 0 < 4) hn
  rw [unitEscape, htext]
  exact IsAscii.append (a := ['\\', 'u']) (by decide) (isAscii_digitChars (Nat.le_refl 16) hnum.below)

theorem isAscii_of_shortEscape? {c x : Char} (h : shortEscape? c = some x) : IsAscii [c] := by
  unfold shortEscape? at h
  split at h
  case h_9 => cases h
  all_goals decide

theorem Escaped.isAscii {c : Char} {t : Text} (h : Escaped c t) : IsAscii t := by
  have hvalid := Text.toNat_valid c
  cases h with
  | short hx h => exact List.forall_mem_cons.2 ⟨by decide, isAscii_of_shortEscape? h⟩
  | itself hquote hslash hlow hhigh => exact List.forall_mem_singleton.2 (.inr ⟨hlow, hhigh⟩)
  | unit h => exact isAscii_unitEscape h
  | pair h => exact (isAscii_unitEscape (by omega)).append (isAscii_unitEscape (by omega))

theorem isAscii_writeString (t : Text) : IsAscii (writeString t) := by
  refine IsAscii.append (a := '"' :: t.flatMap escapeChar) ?_ (by decide)
  refine List.forall_mem_cons.2 ⟨by decide, fun c hc => ?_⟩
  obtain ⟨x, -, hx⟩ := List.mem_flatMap.1 hc
  exact (escaped_escapeChar x).isAscii c hx

theorem isAscii_newLine (depth : Nat) : IsAscii (newLine depth) := by
  refine List.forall_mem_cons.2 ⟨by decide, fun c hc => ?_⟩
  rw [List.eq_of_mem_replicate hc]
  decide

theorem isAscii_writeItems (depth : Nat) :
    ∀ vs : List Value, (∀ v ∈ vs, IsAscii (writeAt depth v)) → IsAscii (writeItems depth vs)
  | [], _ => List.forall_mem_nil _
  | [v], h => h v List.mem_cons_self
  | v :: w :: ws, h => by
    obtain ⟨hv, hws⟩ := List.forall_mem_cons.1 h
    have htail := isAscii_writeItems depth (w :: ws) hws
    rw [writeItems_cons]
    exact hv.append (IsAscii.append (a := [',']) (by decide) ((isAscii_newLine depth).append htail))

theorem isAscii_writeMembers (depth : Nat) :
    ∀ es : List (Value × Value), (∀ e ∈ es, ∃ k, e.1 = .text k) → (∀ e ∈ es, IsAscii (writeAt depth e.2)) →
      IsAscii (writeMembers depth es)
  | [], _, _ => List.forall_mem_nil _
  | [(key, v)], hkey, h => by
    obtain ⟨k, rfl⟩ := hkey _ List.mem_cons_self
    rw [writeMembers_singleton]
    exact (isAscii_writeString k).append (IsAscii.append (a := [':', ' ']) (by decide) (h _ List.mem_cons_self))
  | (key, v) :: e :: es, hkey, h => by
    obtain ⟨⟨k, rfl⟩, hkeys⟩ := List.forall_mem_cons.1 hkey
    obtain ⟨hv, hes⟩ := List.forall_mem_cons.1 h
    have htail := isAscii_writeMembers depth (e :: es) hkeys hes
    rw [writeMembers_cons]
    refine (isAscii_writeString k).append (IsAscii.append (a := [':', ' ']) (by decide) (IsAscii.append hv ?_))
    exact IsAscii.append (a := [',']) (by decide) ((isAscii_newLine depth).append htail)

theorem isAscii_writeAt {v : Value} (h : Representable v) (depth : Nat) : IsAscii (writeAt depth v) := by
  induction h generalizing depth with
  | null => exact (by decide : IsAscii (writeAtom .null))
  | bool b => exact (by revert b; decide : IsAscii (writeAtom (.bool b)))
  | int n => exact isAscii_ofInt n
  | text t => exact isAscii_writeString t
  | @list vs h ih =>
    have hitems := isAscii_writeItems (depth + 1) vs fun v hv => ih v hv (depth + 1)
    cases vs with
    | nil => exact (by decide : IsAscii (writeAtom (.list [])))
    | cons v vs =>
      rw [writeAt]
      have hfront : IsAscii ('[' :: newLine (depth + 1)) := IsAscii.append (a := ['[']) (by decide) (isAscii_newLine _)
      exact ((hfront.append hitems).append (isAscii_newLine depth)).append (by decide)
  | @map es hkey h ih =>
    have hmembers := isAscii_writeMembers (depth + 1) es hkey fun e he => ih e he (depth + 1)
    cases es with
    | nil => exact (by decide : IsAscii (writeAtom (.map [])))
    | cons e es =>
      rw [writeAt]
      have hfront : IsAscii ('\x7b' :: newLine (depth + 1)) := IsAscii.append (a := ['\x7b']) (by decide) (isAscii_newLine _)
      exact ((hfront.append hmembers).append (isAscii_newLine depth)).append (by decide)

end Json

/-! ## Reports -/

theorem Diagnostic.representable_toValue (d : Diagnostic) : Json.Representable d.toValue := by
  refine .map (by simp) ?_
  simp only [List.map_cons, List.map_nil, List.forall_mem_cons]
  exact ⟨.int _, .text _, .text _, by simp⟩

theorem Report.representable_toValue (r : Report) : Json.Representable r.toValue := by
  have hnotes : ∀ ds : List Diagnostic, Json.Representable (.list (ds.map Diagnostic.toValue)) := by
    intro ds
    refine .list fun v hv => ?_
    obtain ⟨d, -, rfl⟩ := List.mem_map.1 hv
    exact d.representable_toValue
  refine .map (by simp) ?_
  simp only [List.map_cons, List.map_nil, List.forall_mem_cons]
  exact ⟨.text _, .text _, .text _, .text _, hnotes _, hnotes _, by simp⟩

theorem Report.fits_lines_iff {r : Report} {limit : Nat} :
    ((r.warnings ++ r.unsupported).all fun d => Value.fitsDigits limit d.line) = true ↔
      limit = 0 ∨ ∀ d ∈ r.warnings ++ r.unsupported, d.line.natAbs < 10 ^ limit := by
  simp only [List.all_eq_true, Value.fitsDigits_iff]
  by_cases h : limit = 0 <;> simp [h]

end Scriptwright
