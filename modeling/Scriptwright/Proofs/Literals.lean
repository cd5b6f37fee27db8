import Scriptwright.Proofs.Segments
import Scriptwright.Text.Digit
/-!
# Literals in converted programs

The target reads a string literal in two steps.  The first quote that no backslash escapes ends the literal
(`closing?`), and the escapes before it stand for other characters (`unescape?`).  What `write` writes comes back in
front of any rest: the literal ends where it was written to end, and its value is the text (`read?_write`).

A command that reads or filters files hands its first argument to such a literal, so no file name and no pattern
breaks out of it or changes its value (`embedded_literal`).
-/
namespace Scriptwright

open Text (isBlank Tight)

/-! ## Reading literals -/

namespace Literal

/-- What stands before and after the first quote without a backslash in front; there is none if the line ends first. -/
def closing? (quote : Char) : Text → Option (Text × Text)
  | [] => none
  | '\\' :: c :: rest => (closing? quote rest).map fun p => ('\\' :: c :: p.1, p.2)
  | c :: rest =>
    if c = quote then some ([], rest)
    else if c = '\n' || c = '\r' then none
    else (closing? quote rest).map fun p => (c :: p.1, p.2)

/-- The character that a backslash and one more character stand for. -/
def escapedChar? : Char → Option Char
  | '\\' => some '\\'
  | '\'' => some '\''
  | '"' => some '"'
  | 'a' => some '\x07'
  | 'b' => some '\x08'
  | 't' => some '\t'
  | 'n' => some '\n'
  | 'v' => some '\x0b'
  | 'f' => some '\x0c'
  | 'r' => some '\r'
  | _ => none

/-- The character with the code in the first `width` digits of base sixteen, if a text can hold it. -/
def codeChar? (width : Nat) (t : Text) : Option Char :=
  if t.length < width then none
  else
    match (t.take width).mapM Text.hexDigit? with
    | none => none
    | some ds => if (Text.valueOf 16 ds).isValidChar then some (Char.ofNat (Text.valueOf 16 ds)) else none

/-- The digits of base eight in front, three at most. -/
def octalDigits (t : Text) : Text := (t.take 3).takeWhile fun c => '0' ≤ c && c ≤ '7'

/-- What the characters behind a backslash stand for, and how many of them are part of the escape.  A backslash that
escapes nothing stands for itself.  Names of characters are not looked up, so an escape by name is refused. -/
def escape? : Text → Option (Text × Nat)
  | [] => none
  | '\n' :: _ => some ([], 1)
  | 'N' :: _ => none
  | 'x' :: rest => (codeChar? 2 rest).map fun c => ([c], 3)
  | 'u' :: rest => (codeChar? 4 rest).map fun c => ([c], 5)
  | 'U' :: rest => (codeChar? 8 rest).map fun c => ([c], 9)
  | c :: rest =>
    match escapedChar? c, octalDigits (c :: rest) with
    | some x, _ => some ([x], 1)
    | none, [] => some (['\\'], 0)
    | none, ds => some ([Char.ofNat (Text.valueOf 8 (ds.map fun d => d.toNat - 48))], ds.length)

/-- The text with its escapes resolved, where the first `skip` characters are the rest of an escape. -/
def unescapeFrom? : Nat → Text → Option Text
  | _, [] => some []
  | skip + 1, _ :: rest => unescapeFrom? skip rest
  | 0, c :: rest =>
    if c = '\\' then
      match escape? rest with
      | none => none
      | some (x, n) => (unescapeFrom? n rest).map (x ++ ·)
    else (unescapeFrom? 0 rest).map (c :: ·)

def unescape? (t : Text) : Option Text := unescapeFrom? 0 t

/-- The value of the literal in front and what follows it.  Three quotes begin a literal of another kind. -/
def read? (quote : Char) : Text → Option (Text × Text)
  | [] => none
  | c :: rest =>
    if c = quote && !Text.startsWith rest [quote, quote] then
      match closing? quote rest with
      | none => none
      | some (body, after) => (unescape? body).map fun value => (value, after)
    else none

/-! ## Writing literals -/

/-- What stands between the quotes. -/
def escaped (t : Text) : Text := t.flatMap fun c => if c = '\\' || c = '"' then ['\\', c] else [c]

theorem write_eq (t : Text) : write t = '"' :: (escaped t ++ ['"']) := rfl

theorem escaped_cons_of_special {c : Char} (hc : c = '\\' ∨ c = '"') (t : Text) :
    escaped (c :: t) = '\\' :: c :: escaped t := by
  rcases hc with rfl | rfl <;> rfl

theorem escaped_cons_of_plain {c : Char} (hc : ¬ (c = '\\' ∨ c = '"')) (t : Text) : escaped (c :: t) = c :: escaped t := by
  unfold escaped
  simp [hc]

theorem closing?_plain {quote c : Char} (hslash : c ≠ '\\') (hquote : c ≠ quote) (hbreak : c ≠ '\n' ∧ c ≠ '\r')
    (rest : Text) : closing? quote (c :: rest) = (closing? quote rest).map fun p => (c :: p.1, p.2) := by
  rw [closing?, if_neg hquote]
  · simp [hbreak.1, hbreak.2]
  · simp [hslash]

theorem closing?_escaped {t : Text} (h : ∀ c ∈ t, c ≠ '\n' ∧ c ≠ '\r') (rest : Text) :
    closing? '"' (escaped t ++ '"' :: rest) = some (escaped t, rest) := by
  induction t with
  | nil => rfl
  | cons c t ih =>
    obtain ⟨hc, ht⟩ := List.forall_mem_cons.1 h
    by_cases hspecial : c = '\\' ∨ c = '"'
    · rw [escaped_cons_of_special hspecial, List.cons_append, List.cons_append, closing?, ih ht]
      rfl
    · rw [escaped_cons_of_plain hspecial, List.cons_append,
        closing?_plain (fun h => hspecial (.inl h)) (fun h => hspecial (.inr h)) hc, ih ht]
      rfl

theorem escape?_special {c : Char} (hc : c = '\\' ∨ c = '"') (rest : Text) : escape? (c :: rest) = some ([c], 1) := by
  rcases hc with rfl | rfl <;> rfl

/-- **Every escape that was written is resolved, and nothing else is taken for one.** -/
theorem unescape?_escaped (t : Text) : unescape? (escaped t) = some t := by
  unfold unescape?
  induction t with
  | nil => rfl
  | cons c t ih =>
    by_cases hspecial : c = '\\' ∨ c = '"'
    · rw [escaped_cons_of_special hspecial, unescapeFrom?, if_pos rfl, escape?_special hspecial]
      simp only [unescapeFrom?, ih]
      rfl
    · have hslash : c ≠ '\\' := fun h => hspecial (.inl h)
      rw [escaped_cons_of_plain hspecial, unescapeFrom?, if_neg hslash, ih]
      rfl

/-- A written literal is not taken for one in three quotes: only the empty one has two quotes in front. -/
theorem not_startsWith_quotes (t : Text) {rest : Text} (hrest : rest.head? ≠ some '"') :
    Text.startsWith (escaped t ++ '"' :: rest) ['"', '"'] = false := by
  rw [Bool.eq_false_iff, ne_eq, Text.startsWith_iff]
  cases t with
  | nil =>
    rintro ⟨r, hr⟩
    obtain rfl : '"' :: r = rest := by simpa [escaped] using hr
    exact hrest rfl
  | cons c t =>
    by_cases hspecial : c = '\\' ∨ c = '"'
    · rw [escaped_cons_of_special hspecial]
      simp [List.cons_prefix_cons]
    · rw [escaped_cons_of_plain hspecial]
      simp only [List.cons_append, List.cons_prefix_cons]
      exact fun h => hspecial (.inr h.1.symm)

/-- **A literal is read as it was written**, in front of anything but a quote. -/
theorem read?_write {t rest : Text} (h : ∀ c ∈ t, c ≠ '\n' ∧ c ≠ '\r') (hrest : rest.head? ≠ some '"') :
    read? '"' (write t ++ rest) = some (t, rest) := by
  have hjoin : write t ++ rest = '"' :: (escaped t ++ '"' :: rest) := by
    rw [write_eq, List.cons_append, List.append_assoc]
    rfl
  rw [hjoin, read?, not_startsWith_quotes t hrest, closing?_escaped h]
  simp [unescape?_escaped]

theorem mem_write {t : Text} {c : Char} (h : c ∈ write t) : c ∈ t ∨ c = '\\' ∨ c = '"' := by
  unfold write at h
  simp only [List.cons_append, List.mem_cons, List.mem_append, List.mem_flatMap, List.not_mem_nil, or_false] at h
  grind

end Literal

/-! ## The argument of a command -/

namespace Command

/-- The argument behind the first place of a text where the command begins a token and a blank follows it: from the
next character that is not blank up to the next blank. -/
def FirstArgument (w t a : Text) : Prop :=
  ∃ before blanks after, t = before ++ (w ++ (blanks ++ (a ++ after))) ∧ ¬ EndsToken before ∧
    blanks ≠ [] ∧ (∀ b ∈ blanks, isBlank b = true) ∧
    a ≠ [] ∧ (∀ c ∈ a, isBlank c = false) ∧ (∀ c, after.head? = some c → isBlank c = true) ∧
    ∀ before' c rest, t = before' ++ (w ++ c :: rest) → ¬ EndsToken before' → isBlank c = true →
      before.length ≤ before'.length

/-- In a text that ends with no blank, something follows every blank. -/
theorem argumentAt?_isSome_of_tight {before w rest : Text} {c : Char} (ht : Tight (before ++ (w ++ c :: rest)))
    (hc : isBlank c = true) : (argumentAt? w (w ++ c :: rest)).isSome = true := by
  obtain ⟨lead, hlead, hblank⟩ := Text.exists_trimLeft (c :: rest)
  cases htrim : Text.trimLeft (c :: rest) with
  | nil =>
    have hlast : ∃ x, (c :: rest).getLast? = some x := ⟨_, List.getLast?_eq_some_getLast (by simp)⟩
    obtain ⟨x, hx⟩ := hlast
    have hend : isBlank x = false := ht.2 x (by simp [List.getLast?_append, hx])
    have hall := List.all_eq_true.1 ((Text.trimLeft_eq_nil_iff _).1 htrim) x (List.mem_of_getLast? hx)
    rw [hend] at hall
    cases hall
  | cons y r =>
    have hy : isBlank y = false := Text.head?_trimLeft (t := c :: rest) (by rw [htrim]; rfl)
    rw [htrim] at hlead
    refine argumentAt?_isSome_iff.2 ⟨lead, y, r, by rw [hlead], ?_, hblank, hy⟩
    rintro rfl
    obtain ⟨rfl, -⟩ := List.cons.inj hlead
    rw [hc] at hy
    cases hy

/-- **The argument of a command in a trimmed text is the first one.** -/
theorem firstArgument_of_argument? {w t a : Text} (ht : Tight t) (h : argument? w t = some a) : FirstArgument w t a := by
  unfold argument? at h
  rw [argumentFrom_eq_leftmost] at h
  obtain ⟨⟨before, a'⟩, hp, rfl⟩ := Option.map_eq_some_iff.1 h
  obtain ⟨post, rfl, ha, hfirst⟩ := (Search.leftmost_eq_some_iff (outside_nil (argumentAt?_nil w))).1 hp
  have hbefore : ¬ EndsToken before := (outside_isSome_iff.1 (Option.isSome_of_eq_some ha)).1
  obtain ⟨blanks, after, rfl, hne, hblank, hane, hac, hafter⟩ := argumentAt?_eq_some_iff.1 (outside_eq_some ha)
  refine ⟨before, blanks, after, rfl, hbefore, hne, hblank, hane, hac, hafter, fun before' c rest heq hb hc => ?_⟩
  by_contra hlt
  have hnone := hfirst before' (w ++ c :: rest) heq (Nat.lt_of_not_le hlt)
  have hsome := outside_isSome_iff.2 ⟨hb, argumentAt?_isSome_of_tight (heq ▸ ht) hc⟩
  rw [hnone] at hsome
  cases hsome

end Command

/-! ## Statements about the data frame -/

/-- The commands that become statements about the data frame. -/
inductive DataCommand where
  | read
  | filter
  deriving DecidableEq

namespace DataCommand

def word : DataCommand → Text
  | .read => "cat".toList
  | .filter => "grep".toList

def kind : DataCommand → Kind
  | .read => .fileRead
  | .filter => .filterCommand

/-- The statement up to the literal. -/
def opening (s : Settings) : DataCommand → Text
  | .read => s.frameName ++ " = ".toList ++ s.sessionName ++ ".read.csv(".toList
  | .filter => s.frameName ++ ".filter(".toList ++ s.frameName ++ ".value.contains(".toList

/-- The statement behind the literal. -/
def closing (s : Settings) : DataCommand → Text
  | .read => ", header=".toList ++ Outcome.boolWord s.csvHeader ++ [')']
  | .filter => "))".toList

def construct (argument : Text) : DataCommand → Construct
  | .read => .fileRead argument
  | .filter => .filterCommand argument

theorem reread?_kind (s : Settings) (t : Text) (k : DataCommand) :
    Construct.reread? s t k.kind = (Command.argument? k.word t).map fun a => k.construct a := by
  cases k <;> rfl

theorem ofConstruct_construct (s : Settings) (l : Line) (k : DataCommand) (argument : Text) :
    Outcome.ofConstruct s l (k.construct argument) =
      ⟨k.kind, [k.opening s ++ (Literal.write (Literal.unquote argument) ++ k.closing s)], none⟩ := by
  cases k with
  | read =>
    have hstatement : Outcome.readStatement s argument =
        opening s .read ++ (Literal.write (Literal.unquote argument) ++ closing s .read) := by
      unfold Outcome.readStatement opening closing
      simp only [List.append_assoc]
    rw [← hstatement]
    rfl
  | filter =>
    have hstatement : Outcome.filterStatement s argument =
        opening s .filter ++ (Literal.write (Literal.unquote argument) ++ closing s .filter) := by
      unfold Outcome.filterStatement opening closing
      simp only [List.append_assoc]
    rw [← hstatement]
    rfl

end DataCommand

/-- **An argument becomes a literal that nothing in it can break.**  The statement for a command is fixed text around
one literal.  The literal holds no blank, hence no line break; whatever follows it but a quote, it is read up to its
last character; and its value is the first argument of the command without separators and quotes. -/
theorem Outcome.embedded_literal (s : Settings) (l : Line) (k : DataCommand) (h : l.kind s .dataProcessing = k.kind) :
    ∃ argument literal, Command.FirstArgument k.word l.text argument ∧
      ofLine s .dataProcessing l = ⟨k.kind, [k.opening s ++ (literal ++ k.closing s)], none⟩ ∧
      (∀ c ∈ literal, isBlank c = false) ∧
      ∀ rest, rest.head? ≠ some '"' → Literal.read? '"' (literal ++ rest) = some (Literal.unquote argument, rest) := by
  have hread := Construct.reread?_ofText s .dataProcessing l.text
  rw [show (Construct.ofText s .dataProcessing l.text).kind = k.kind from h, DataCommand.reread?_kind] at hread
  obtain ⟨argument, hargument, hconstruct⟩ := Option.map_eq_some_iff.1 hread
  have hfirst := Command.firstArgument_of_argument? (Text.tight_trim l.raw) hargument
  obtain ⟨-, -, -, -, -, -, -, -, hblank, -⟩ := id hfirst
  have hvalue : ∀ c ∈ Literal.unquote argument, isBlank c = false := fun c hc =>
    hblank c ((Literal.unquote_isInfix argument).subset hc)
  refine ⟨argument, Literal.write (Literal.unquote argument), hfirst, ?_, fun c hc => ?_, fun rest hrest => ?_⟩
  · rw [ofLine, ← hconstruct, DataCommand.ofConstruct_construct]
  · rcases Literal.mem_write hc with hc | rfl | rfl
    · exact hvalue c hc
    · rfl
    · rfl
  · refine Literal.read?_write (fun c hc => ⟨?_, ?_⟩) hrest
    · rintro rfl
      cases hvalue _ hc
    · rintro rfl
      cases hvalue _ hc

/-- A quote inside, a backslash at the end, separators behind the quotes and an earlier `cat` within a token. -/
theorem Outcome.embedded_literal_before_separators :
    let l : Line := ⟨3, "concat x |cat\t\"C:\\a\"b\\\";| wc".toList⟩
    l.kind {} .dataProcessing = DataCommand.read.kind ∧
    ofLine {} .dataProcessing l =
      ⟨.fileRead, ["df = spark.read.csv(".toList ++ ("\"C:\\\\a\\\"b\\\\\"".toList ++ ", header=True)".toList)], none⟩ ∧
    ∃ argument, Command.FirstArgument "cat".toList l.text argument ∧
      Literal.read? '"' ("\"C:\\\\a\\\"b\\\\\"".toList ++ ", header=True)".toList) =
        some (Literal.unquote argument, ", header=True)".toList) := by
  intro l
  have hkind : l.kind {} .dataProcessing = DataCommand.read.kind := by decide
  have hstatement : ofLine {} .dataProcessing l = ⟨.fileRead,
      ["df = spark.read.csv(".toList ++ ("\"C:\\\\a\\\"b\\\\\"".toList ++ ", header=True)".toList)], none⟩ := by
    decide
  obtain ⟨argument, literal, hfirst, hline, -, hread⟩ := embedded_literal {} l .read hkind
  refine ⟨hkind, hstatement, argument, hfirst, ?_⟩
  -- the statement and the text around the literal are known, and so is the literal
  have hsame : literal = "\"C:\\\\a\\\"b\\\\\"".toList := by
    rw [hstatement] at hline
    exact (List.append_cancel_right (List.append_cancel_left (List.cons.inj (Outcome.mk.inj hline).2.1).1)).symm
  rw [← hsame]
  exact hread _ (by decide)

end Scriptwright
