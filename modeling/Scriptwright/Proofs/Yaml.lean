import Scriptwright.Proofs.Scalars
import Scriptwright.Report.Export
import Scriptwright.Yaml.Reader
/-!
# YAML documents read back

Writing lays a value out over lines, and `blockText` is the text of a value from its first token on, wherever that stands.
`ReadsBack` says of one value that its text is read back as its node, whatever the reader has seen before and whatever
follows further left; lists and mappings inherit it from what they hold (`readItems_writeItems`, `readFrom_writeEntries`),
so that `readsBack_of_writable` is an induction over the value.  What is left is the frame of a document: its characters
are allowed (`isDocument_blockText`), nothing stands before its root (`readDocument_of_key`), and its nodes mean the
values they were written for (`toValue_nodeOf`).
-/
namespace Scriptwright
namespace Yaml

/-! ## Layout -/

/-- The value takes lines of its own. -/
def isBlock : Value → Bool
  | .list (_ :: _) => true
  | .map (_ :: _) => true
  | _ => false

/-- An item from its dash on. -/
def writeItem (column : Nat) : Value → Text
  | .map (e :: es) => "- ".toList ++ writeEntries (column + 2) (e :: es)
  | .list (x :: xs) => "-\n".toList ++ writeItems (column + 2) (x :: xs)
  | v => "- ".toList ++ writeInline column v ++ ['\n']

/-- A value from its first token on, which stands at the given column if the value takes lines of its own. -/
def blockText (column : Nat) : Value → Text
  | .list (x :: xs) => writeItem column x ++ writeItems column xs
  | .map (e :: es) => writeEntries column (e :: es)
  | v => writeInline column v ++ ['\n']

/-- The entries after the first one. -/
def moreEntries (column : Nat) : List (Value × Value) → Text
  | [] => []
  | e :: es => spaces column ++ writeEntries column (e :: es)

theorem writeItems_cons (column : Nat) (v : Value) (vs : List Value) :
    writeItems column (v :: vs) = spaces column ++ (writeItem column v ++ writeItems column vs) := by
  rcases v with _ | _ | _ | _ | _ | _ | (_ | ⟨x, xs⟩) | (_ | ⟨e, es⟩) <;> simp [writeItems, writeItem]

theorem writeEntries_cons (column : Nat) (k v : Value) (es : List (Value × Value)) :
    writeEntries column ((k, v) :: es) =
      writeInline column k ++ ':' :: (writeAfterKey column v ++ moreEntries column es) := by
  cases es <;> simp [writeEntries, moreEntries]

theorem writeAfterKey_eq (column : Nat) (v : Value) : writeAfterKey column v =
    if isBlock v then '\n' :: (spaces (column + 2) ++ blockText (column + 2) v) else ' ' :: blockText column v := by
  rcases v with _ | _ | _ | _ | _ | _ | (_ | ⟨x, xs⟩) | (_ | ⟨e, es⟩) <;>
    simp [writeAfterKey, isBlock, blockText, writeItems_cons]

theorem writeItem_eq (column : Nat) (v : Value) : ∃ gap c, writeItem column v = '-' :: (gap ++ blockText c v) ∧
    ((gap = [' '] ∧ (isBlock v = true → c = column + 2)) ∨ (gap = '\n' :: spaces (column + 2) ∧ c = column + 2)) := by
  rcases v with _ | _ | _ | _ | _ | _ | (_ | ⟨x, xs⟩) | (_ | ⟨e, es⟩)
  case list.cons =>
    refine ⟨'\n' :: spaces (column + 2), column + 2, ?_, Or.inr ⟨rfl, rfl⟩⟩
    rw [writeItem, writeItems_cons]
    rfl
  case map.cons => exact ⟨[' '], column + 2, rfl, Or.inl ⟨rfl, fun _ => rfl⟩⟩
  all_goals exact ⟨[' '], column, rfl, Or.inl ⟨rfl, nofun⟩⟩

/-! ## Between tokens -/

/-- A token begins here. -/
def StartsToken (t : Text) : Prop := ∀ c ∈ t.head?, isBreak c = false ∧ c ≠ ' ' ∧ c ≠ '#'

theorem Follows.startsToken {n : Nat} {r : Text} (h : Follows n r) : StartsToken r := fun c hc =>
  ⟨(h.head c hc).1, (h.head c hc).2.1, (h.head c hc).2.2.1⟩

theorem Follows.atEnd {n : Nat} {r : Text} (h : Follows n r) (hr : r ≠ []) (line : Nat) (fresh : Bool) :
    Cursor.atEnd ⟨r, n, line, fresh⟩ = false := by
  have hmarker : (n == 0 && atMarker r) = false := by
    cases n with
    | zero => exact h.marker rfl
    | succ n => rfl
  simp [Cursor.atEnd, hmarker, hr]

theorem skip_spaces {t : Text} (h : StartsToken t) (line : Nat) (fresh : Bool) :
    ∀ k column, Cursor.skip false ⟨spaces k ++ t, column, line, fresh⟩ = ⟨t, column + k, line, fresh⟩
  | 0, column => by
    cases t with
    | nil => rfl
    | cons c t =>
      obtain ⟨hbreak, hspace, hhash⟩ := h c rfl
      simp [Cursor.skip, spaces, Cursor.skipFrom, hbreak, hspace, hhash]
  | k + 1, column => by
    have hrest := skip_spaces h line fresh k (column + 1)
    rw [Nat.add_right_comm, Nat.add_assoc] at hrest
    exact hrest

theorem skip_line {t : Text} (h : StartsToken t) (k column line : Nat) (fresh : Bool) :
    Cursor.skip false ⟨'\n' :: (spaces k ++ t), column, line, fresh⟩ = ⟨t, k, line + 1, true⟩ := by
  have hrest := skip_spaces h (line + 1) true k 0
  rw [Nat.zero_add] at hrest
  cases fresh <;> exact hrest

theorem Arrived.skip {n : Nat} {r : Text} {cur : Cursor} (h : Arrived n r cur) (hr : Follows n r) :
    ∃ line, cur.skip false = ⟨r, n, line, true⟩ := by
  rcases h with ⟨line, rfl⟩ | ⟨column, line, rfl⟩
  · exact ⟨line, skip_spaces hr.startsToken line true 0 n⟩
  · exact ⟨line + 1, skip_line hr.startsToken n column line false⟩

/-- No key has been read: what follows is no colon. -/
theorem Arrived.not_atColon {n : Nat} {r : Text} {cur : Cursor} (h : Arrived n r cur) (hr : Follows n r) :
    (toColon cur).atSign ':' = false := by
  rcases h with ⟨line, rfl⟩ | ⟨column, line, rfl⟩
  · cases r with
    | nil => rfl
    | cons c r =>
      obtain ⟨-, hspace, -, hcolon⟩ := hr.head c rfl
      simp [toColon, Cursor.drop, Cursor.atSign, hspace, hcolon]
  · simp [toColon, Cursor.drop, Cursor.atSign]

/-! ## Values -/

/-- The characters of the names of fields. -/
def fieldChars : Text := "abcdefghijklmnopqrstuvwxyz_".toList

/-- A name that is written without quotes and is short enough for a key. -/
structure IsField (k : Text) : Prop where
  chars : ∀ c ∈ k, c ∈ fieldChars
  plain : allowsPlain k = true
  short : k.length ≤ 1024

instance (k : Text) : Decidable (IsField k) :=
  decidable_of_iff (k.all (fieldChars.contains ·) = true ∧ allowsPlain k = true ∧ k.length ≤ 1024)
    ⟨fun h => ⟨fun c hc => by simpa using List.all_eq_true.1 h.1 c hc, h.2.1, h.2.2⟩,
      fun h => ⟨List.all_eq_true.2 fun c hc => by simpa using h.chars c hc, h.plain, h.short⟩⟩

/-- Whole numbers, texts without separators, lists, and mappings from names: what is written and read back. -/
inductive Writable : Value → Prop where
  | int (n : Int) : Writable (.int n)
  | text {t : Text} (h : NoSeparators t) : Writable (.text t)
  | list {vs : List Value} (h : ∀ v ∈ vs, Writable v) : Writable (.list vs)
  | map {es : List (Value × Value)} (hkey : ∀ e ∈ es, ∃ k, e.1 = .text k ∧ IsField k)
    (hdistinct : Node.keysDistinct es = true) (h : ∀ e ∈ es, Writable e.2) : Writable (.map es)

mutual

/-- The node as which a value is written. -/
def nodeOf : Value → Node
  | .text t => textNode t
  | .list vs => .list (itemNodes vs)
  | .map es => .map (entryNodes es)
  | v => .plain (writeInline 0 v)

def itemNodes : List Value → List Node
  | [] => []
  | v :: vs => nodeOf v :: itemNodes vs

def entryNodes : List (Value × Value) → List (Node × Node)
  | [] => []
  | (k, v) :: es => (nodeOf k, nodeOf v) :: entryNodes es

end

theorem IsField.ne_nil {k : Text} (h : IsField k) : k ≠ [] := by
  rintro rfl
  cases h.plain

theorem IsField.nodeOf {k : Text} (h : IsField k) : nodeOf (.text k) = .plain k := by
  rw [Yaml.nodeOf, textNode, if_pos h.plain]

theorem IsField.entryNodes {k : Text} (h : IsField k) (v : Value) (es : List (Value × Value)) :
    entryNodes ((.text k, v) :: es) = (.plain k, Yaml.nodeOf v) :: Yaml.entryNodes es := by
  rw [Yaml.entryNodes, h.nodeOf]

theorem IsField.writeInline {k : Text} (h : IsField k) (column : Nat) : writeInline column (.text k) = k := by
  rw [Yaml.writeInline, writeText, if_pos h.plain]

/-! ## Meanings of nodes -/

theorem toValue_textNode (t : Text) : (textNode t).toValue = .ok (.text t) := by
  unfold textNode
  split
  · rename_i hplain
    rw [Node.toValue, Node.scalarValue, meaning_of_meansItself (of_allowsPlain hplain).2.2]
  · rfl

theorem itemValues_itemNodes : ∀ {vs : List Value}, (∀ v ∈ vs, (nodeOf v).toValue = .ok v) →
    Node.itemValues (itemNodes vs) = .ok vs
  | [], _ => rfl
  | v :: vs, h => by
    obtain ⟨hv, hvs⟩ := List.forall_mem_cons.1 h
    rw [itemNodes, Node.itemValues, hv, itemValues_itemNodes hvs]
    rfl

theorem entryValues_entryNodes : ∀ {es : List (Value × Value)}, (∀ e ∈ es, ∃ k, e.1 = .text k ∧ IsField k) →
    (∀ e ∈ es, (nodeOf e.2).toValue = .ok e.2) → Node.entryValues (entryNodes es) = .ok (none, es)
  | [], _, _ => rfl
  | (key, v) :: es, hkey, h => by
    obtain ⟨⟨k, rfl, hk⟩, hkeys⟩ := List.forall_mem_cons.1 hkey
    obtain ⟨hv, hes⟩ := List.forall_mem_cons.1 h
    -- the two keys with a meaning of their own are made of signs
    have hmerge : Node.isMergeKey (.plain k) = false := by
      rw [Node.isMergeKey, beq_eq_false_iff_ne]
      rintro rfl
      exact absurd (hk.chars '<' (by decide)) (by decide)
    have hdefault : k ≠ ['='] := by
      rintro rfl
      exact absurd (hk.chars '=' (by decide)) (by decide)
    have hvalue : (Node.plain k).toValue = .ok (.text k) := by
      rw [← hk.nodeOf]
      exact toValue_textNode k
    rw [entryNodes, hk.nodeOf, Node.entryValues, hmerge, hv, entryValues_entryNodes hkeys hes]
    simp only [Bool.false_eq_true, if_false]
    split
    · rename_i heq
      exact absurd (Node.plain.inj heq) hdefault
    · rw [hvalue]
      rfl

theorem toValue_nodeOf {v : Value} (h : Writable v) : (nodeOf v).toValue = .ok v := by
  induction h with
  | int n =>
    show (Node.plain (Text.ofInt n)).toValue = _
    rw [Node.toValue, Node.scalarValue, meaning_ofInt]
  | text h => exact toValue_textNode _
  | list h ih =>
    rw [nodeOf, Node.toValue, itemValues_itemNodes ih]
    rfl
  | map hkey hdistinct h ih =>
    rw [nodeOf, Node.toValue, entryValues_entryNodes hkey ih]
    show Node.gather none _ = _
    rw [Node.gather, hdistinct]
    rfl

/-! ## Scalars in their places -/

/-- The text begins with a scalar or an empty collection, without properties. -/
def OpensInline (t : Text) : Prop :=
  ∃ c rest, t = c :: rest ∧ isBreak c = false ∧ c ≠ ' ' ∧ c ≠ '#' ∧ c ≠ '&' ∧ c ≠ '!' ∧ isScalarSign c = false ∧
    (isWeakIndicator c = true → endsToken rest = false)

theorem opensInline_of_plain {t : Text} (ht : Bare t) (h : OpensPlain t) (k : Text) : OpensInline (t ++ k) := by
  obtain ⟨c, rest, rfl, hindicator, hweak⟩ := h
  have hne : ∀ x, isIndicator x = true → c ≠ x := by
    rintro x hx rfl
    rw [hx] at hindicator
    cases hindicator
  have hsign : isScalarSign c = false := by
    simp [isScalarSign, hne '|' (by decide), hne '>' (by decide)]
  exact ⟨c, rest ++ k, rfl, (ht.chars c List.mem_cons_self).2, ht.head c rfl, hne '#' (by decide), hne '&' (by decide),
    hne '!' (by decide), hsign, fun hc => endsToken_append (hweak hc) k⟩

section OpensInline

variable (cur : Cursor) (h : OpensInline cur.rest)

include h

theorem OpensInline.not_atSign {c : Char} (hc : isWeakIndicator c = true) : cur.atSign c = false := by
  obtain ⟨x, rest, heq, -, -, -, -, -, -, hweak⟩ := h
  rw [Cursor.atSign, heq]
  by_cases hx : x = c
  · subst hx
    simp [hweak hc]
  · simp [hx]

theorem OpensInline.readProperties : Yaml.readProperties false 3 {} cur = some ({}, cur) := by
  obtain ⟨x, rest, heq, -, -, -, hand, hbang, -, -⟩ := h
  rw [Yaml.readProperties, heq]
  split
  · rename_i heq'
    exact absurd (List.cons.inj heq').1 hand
  · rename_i heq'
    exact absurd (List.cons.inj heq').1 hbang
  · rfl

theorem OpensInline.readBlock (floor fuel : Nat) (as : Anchors) :
    Yaml.readBlock floor (fuel + 1) as cur =
      match readInline false floor fuel as cur with
      | none => none
      | some (n, as₁, after) =>
        if cur.fresh && (toColon after).atSign ':' && keyReaches cur (toColon after) then
          (readFrom cur.column n fuel as₁ (toColon after).stale).map fun p => (.map p.1, p.2)
        else some (n, as₁, after) := by
  have hempty : cur.rest.isEmpty = false := by
    obtain ⟨x, rest, heq, -⟩ := h
    rw [heq]
    rfl
  have hscalar : cur.headIs isScalarSign = false := by
    obtain ⟨x, rest, heq, -, -, -, -, -, hsign, -⟩ := h
    rw [Cursor.headIs, heq]
    exact hsign
  rw [Yaml.readBlock, h.not_atSign cur (c := '-') rfl, h.not_atSign cur (c := '?') rfl, h.not_atSign cur (c := ':') rfl, h.readProperties cur]
  simp only [Bool.false_eq_true, if_false, Bool.or_self, bne_self_eq_false, hempty, hscalar]
  rfl

theorem OpensInline.readEntries (column fuel : Nat) (as : Anchors) :
    Yaml.readEntries column (fuel + 1) as cur =
      match readInline false (column + 1) fuel as cur with
      | none => none
      | some (n, as₁, after) =>
        if (toColon after).atSign ':' && keyReaches cur (toColon after) then
          readFrom column n fuel as₁ (toColon after).stale
        else none := by
  rw [Yaml.readEntries, h.not_atSign cur (c := ':') rfl, h.not_atSign cur (c := '?') rfl, h.readProperties cur]
  rfl

end OpensInline

theorem opensInline_writeText (t : Text) (indent : Nat) (k : Text) : OpensInline (writeText indent t ++ k) := by
  unfold writeText
  split
  · rename_i hplain
    obtain ⟨hbare, hopens, -⟩ := of_allowsPlain hplain
    exact opensInline_of_plain hbare hopens k
  split
  · exact ⟨'\'', _, rfl, by decide, by decide, by decide, by decide, by decide, by decide, nofun⟩
  · exact ⟨'"', _, rfl, by decide, by decide, by decide, by decide, by decide, by decide, nofun⟩

theorem opensInline_writeInline {v : Value} (hv : Writable v) (column : Nat) (k : Text) :
    OpensInline (writeInline column v ++ k) := by
  cases hv with
  | int i => exact opensInline_of_plain (bare_of_tame (tame_ofInt i)) (opensPlain_ofInt i) k
  | text h => exact opensInline_writeText _ _ k
  | list h => exact ⟨'[', _, rfl, by decide, by decide, by decide, by decide, by decide, by decide, nofun⟩
  | map hkey hdistinct h => exact ⟨'\x7b', _, rfl, by decide, by decide, by decide, by decide, by decide, by decide, nofun⟩

/-- **A value on one line is read back**, up to the end of the line. -/
theorem readInline_writeInline {v : Value} (hv : Writable v) (hblock : isBlock v = false) {n floor : Nat} {r : Text}
    (hr : Follows n r) (hn : n < floor) (fuel : Nat) (as : Anchors) {column : Nat} (hcolumn : floor ≤ column) (line : Nat)
    (fresh : Bool) (indent : Nat) :
    ∃ after, readInline false floor (fuel + 2) as
        ⟨writeInline indent v ++ '\n' :: (spaces n ++ r), column, line, fresh⟩ = some (nodeOf v, as, after) ∧
      Arrived n r after := by
  cases hv with
  | int i => exact ⟨_, readInline_ofInt hr hn (fuel + 1) as hcolumn line fresh i, Or.inl ⟨_, rfl⟩⟩
  | text h => exact readInline_writeText hr hn (fuel + 1) as hcolumn line fresh (indent + 2) h
  | @list vs h =>
    cases vs with
    | nil => exact ⟨_, rfl, Or.inr ⟨column + 2, line, rfl⟩⟩
    | cons x xs => cases hblock
  | @map es hkey hdistinct h =>
    cases es with
    | nil => exact ⟨_, rfl, Or.inr ⟨column + 2, line, rfl⟩⟩
    | cons e es => cases hblock

/-! ## Values in their places -/

theorem blockText_of_not_isBlock {v : Value} (h : isBlock v = false) (indent : Nat) :
    blockText indent v = writeInline indent v ++ ['\n'] := by
  rcases v with _ | _ | _ | _ | _ | _ | (_ | ⟨x, xs⟩) | (_ | ⟨e, es⟩)
  case list.cons => cases h
  case map.cons => cases h
  all_goals rfl

theorem IsField.opensInline {k : Text} (h : IsField k) (rest : Text) : OpensInline (k ++ rest) := by
  obtain ⟨hbare, hopens, -⟩ := of_allowsPlain h.plain
  exact opensInline_of_plain hbare hopens rest

/-- What a value begins with. -/
def OpensBlock (t : Text) : Prop := ∃ c rest, t = c :: rest ∧ isBreak c = false ∧ c ≠ ' ' ∧ c ≠ '#'

theorem OpensInline.opensBlock {t : Text} (h : OpensInline t) : OpensBlock t := by
  obtain ⟨c, rest, rfl, hbreak, hspace, hhash, -⟩ := h
  exact ⟨c, rest, rfl, hbreak, hspace, hhash⟩

theorem OpensBlock.startsToken {t : Text} (h : OpensBlock t) (k : Text) : StartsToken (t ++ k) := by
  obtain ⟨c, rest, rfl, hc⟩ := h
  intro x hx
  obtain rfl : c = x := by simpa using hx
  exact hc

theorem opensBlock_blockText {v : Value} (hv : Writable v) (indent : Nat) : OpensBlock (blockText indent v) := by
  cases hblock : isBlock v with
  | false =>
    rw [blockText_of_not_isBlock hblock]
    exact (opensInline_writeInline hv indent _).opensBlock
  | true =>
    cases hv with
    | int i => cases hblock
    | text h => cases hblock
    | @list vs h =>
      cases vs with
      | nil => cases hblock
      | cons x xs =>
        obtain ⟨gap, c, heq, -⟩ := writeItem_eq indent x
        rw [blockText, heq]
        exact ⟨'-', _, rfl, by decide, by decide, by decide⟩
    | @map es hkey hdistinct h =>
      cases es with
      | nil => cases hblock
      | cons e es =>
        obtain ⟨key, v⟩ := e
        obtain ⟨k, rfl, hk⟩ := hkey _ List.mem_cons_self
        rw [blockText, writeEntries_cons, hk.writeInline]
        exact (hk.opensInline _).opensBlock

/-- **The value is read back** from its lines, wherever they stand and whatever follows them further left. -/
def ReadsBack (v : Value) : Prop :=
  ∀ (indent floor fuel column line n : Nat) (fresh : Bool) (as : Anchors) (r : Text),
    n < floor → floor ≤ column → Follows n r → (isBlock v = true → fresh = true ∧ column = indent) →
    2 * (blockText indent v).length ≤ fuel →
    ∃ after, readBlock floor fuel as ⟨blockText indent v ++ (spaces n ++ r), column, line, fresh⟩ =
        some (nodeOf v, as, after) ∧ Arrived n r after

theorem readsBack_inline {v : Value} (hv : Writable v) (hblock : isBlock v = false) : ReadsBack v := by
  intro indent floor fuel column line n fresh as r hn hcolumn hr _ hfuel
  have hopens := opensInline_writeInline hv indent ('\n' :: (spaces n ++ r))
  rw [blockText_of_not_isBlock hblock] at hfuel ⊢
  -- a character and a line feed at least, which is fuel for the way down to the scalar
  obtain ⟨c, rest, htext, -⟩ := opensInline_writeInline hv indent []
  rw [List.append_nil] at htext
  rw [htext] at hfuel
  simp only [List.cons_append, List.length_cons, List.length_append] at hfuel
  obtain ⟨fuel, rfl⟩ : ∃ f, fuel = f + 3 := ⟨fuel - 3, by omega⟩
  obtain ⟨after, hread, harrived⟩ := readInline_writeInline hv hblock hr hn fuel as hcolumn line fresh indent
  rw [List.append_assoc, List.singleton_append]
  refine ⟨after, ?_, harrived⟩
  rw [hopens.readBlock ⟨_, column, line, fresh⟩, hread]
  simp only [harrived.not_atColon hr, Bool.and_false, Bool.false_and, Bool.false_eq_true, if_false]

/-- A value stands below what holds it. -/
theorem ReadsBack.readBelow {v : Value} (h : ReadsBack v) (hv : Writable v) (itemsBefore : Bool)
    {indent floor fuel column n : Nat} {r : Text} (line : Nat) {fresh : Bool} (as : Anchors) (hn : n < floor)
    (hcolumn : floor ≤ column) (hr : Follows n r) (hblock : isBlock v = true → fresh = true ∧ column = indent)
    (hfuel : 2 * (blockText indent v).length ≤ fuel) :
    ∃ after, Yaml.readBelow itemsBefore floor (fuel + 1) as ⟨blockText indent v ++ (spaces n ++ r), column, line, fresh⟩ =
        some (nodeOf v, as, after) ∧ Arrived n r after := by
  obtain ⟨after, hread, harrived⟩ := h indent floor fuel column line n fresh as r hn hcolumn hr hblock hfuel
  obtain ⟨c, rest, htext, -⟩ := opensBlock_blockText hv indent
  refine ⟨after, ?_, harrived⟩
  have hend : Cursor.atEnd ⟨blockText indent v ++ (spaces n ++ r), column, line, fresh⟩ = false := by
    have hpos : (column == 0) = false := by
      rw [beq_eq_false_iff_ne]
      omega
    rw [Cursor.atEnd, htext]
    simp only [hpos]
    rfl
  rw [Yaml.readBelow, hend, if_pos hcolumn, hread]
  rfl

/-! ## Lists -/

theorem two_le_length_writeItem (column : Nat) (v : Value) : 2 ≤ (writeItem column v).length := by
  obtain ⟨gap, indent, heq, hgap⟩ := writeItem_eq column v
  rcases hgap with ⟨rfl, -⟩ | ⟨rfl, -⟩ <;> simp [heq]

theorem atSign_writeItem (column : Nat) (v : Value) (k : Text) (line : Nat) :
    Cursor.atSign ⟨writeItem column v ++ k, column, line, true⟩ '-' = true := by
  obtain ⟨gap, indent, heq, hgap⟩ := writeItem_eq column v
  rcases hgap with ⟨rfl, -⟩ | ⟨rfl, -⟩ <;> simp [heq, Cursor.atSign, endsToken, isTokenEnd, isLineEnd]

theorem follows_writeItem {column : Nat} (hcolumn : 0 < column) (v : Value) (k : Text) :
    Follows column (writeItem column v ++ k) := by
  obtain ⟨gap, indent, heq, -⟩ := writeItem_eq column v
  refine ⟨fun c hc => ?_, fun h => by omega⟩
  obtain rfl : '-' = c := by simpa [heq] using hc
  decide

/-- The item whose dash the reader is at. -/
theorem readBelow_writeItem {v : Value} (hv : Writable v) (hback : ReadsBack v) {column n : Nat} {r : Text} (fuel line : Nat)
    (as : Anchors) (hn : n < column + 1) (hr : Follows n r) (hfuel : 2 * (writeItem column v).length ≤ fuel + 4) :
    ∃ after, readBelow false (column + 1) (fuel + 1) as
        ((Cursor.drop ⟨writeItem column v ++ (spaces n ++ r), column, line, true⟩ 1).refreshed.skip false) =
          some (nodeOf v, as, after) ∧ Arrived n r after := by
  obtain ⟨gap, indent, heq, hgap⟩ := writeItem_eq column v
  have hstart := (opensBlock_blockText hv indent).startsToken (spaces n ++ r)
  rw [heq] at hfuel ⊢
  simp only [List.length_cons, List.length_append] at hfuel
  simp only [Cursor.drop, Cursor.refreshed, List.cons_append, List.append_assoc, List.drop_succ_cons, List.drop_zero]
  rcases hgap with ⟨rfl, hblock⟩ | ⟨rfl, rfl⟩
  · have hskip := skip_spaces hstart line true 1 (column + 1)
    rw [show spaces 1 = [' '] from rfl] at hskip
    rw [hskip]
    refine hback.readBelow hv false line as hn (by omega) hr (fun hb => ⟨rfl, (hblock hb).symm⟩) ?_
    simp only [List.length_singleton] at hfuel
    omega
  · rw [List.cons_append, skip_line hstart]
    refine hback.readBelow hv false (line + 1) as hn (by omega) hr (fun _ => ⟨rfl, rfl⟩) ?_
    simp only [List.length_cons] at hfuel
    omega

/-- **A list is read back item by item.** -/
theorem readItems_writeItems {column n : Nat} {r : Text} (hn : n < column) (hr : Follows n r) :
    ∀ (vs : List Value) (v : Value) (fuel line : Nat) (as : Anchors), (∀ x ∈ v :: vs, Writable x ∧ ReadsBack x) →
      2 * (writeItem column v ++ writeItems column vs).length ≤ fuel + 1 →
      ∃ line', readItems false column fuel as
        ⟨writeItem column v ++ (writeItems column vs ++ (spaces n ++ r)), column, line, true⟩ =
          some (itemNodes (v :: vs), as, ⟨r, n, line', true⟩)
  | [], v, fuel, line, as, h, hfuel => by
    obtain ⟨hv, hback⟩ := h v List.mem_cons_self
    have hlen := two_le_length_writeItem column v
    rw [List.length_append] at hfuel
    obtain ⟨fuel, rfl⟩ : ∃ f, fuel = f + 2 := ⟨fuel - 2, by omega⟩
    obtain ⟨after, hread, harrived⟩ := readBelow_writeItem hv hback fuel line as (Nat.lt_succ_of_lt hn) hr (by omega)
    obtain ⟨line', hskip⟩ := harrived.skip hr
    refine ⟨line', ?_⟩
    rw [writeItems, List.nil_append, readItems, hread]
    simp only [hskip, hn, decide_true, Bool.or_true, if_true]
    rfl
  | w :: ws, v, fuel, line, as, h, hfuel => by
    obtain ⟨⟨hv, hback⟩, hws⟩ := List.forall_mem_cons.1 h
    have hlen := two_le_length_writeItem column v
    rw [writeItems_cons] at hfuel ⊢
    simp only [List.length_append] at hfuel
    obtain ⟨fuel, rfl⟩ : ∃ f, fuel = f + 2 := ⟨fuel - 2, by omega⟩
    -- the next dash stands in the column of this one: the item ends before it, and the list goes on
    have hfollows := follows_writeItem (Nat.zero_lt_of_lt hn) w (writeItems column ws ++ (spaces n ++ r))
    obtain ⟨after, hread, harrived⟩ := readBelow_writeItem hv hback fuel line as (Nat.lt_succ_self column) hfollows (by omega)
    obtain ⟨line₁, hskip⟩ := harrived.skip hfollows
    obtain ⟨line', hrest⟩ := readItems_writeItems hn hr ws w (fuel + 1) line₁ as hws (by simp only [List.length_append]; omega)
    refine ⟨line', ?_⟩
    have hend := hfollows.atEnd (by obtain ⟨gap, indent, heq, -⟩ := writeItem_eq column w; simp [heq]) line₁ true
    simp only [List.append_assoc]
    rw [readItems, hread]
    simp only [hskip, hend, Nat.lt_irrefl, decide_false, Bool.or_self, Bool.false_eq_true, if_false, beq_self_eq_true, if_true,
      atSign_writeItem, hrest]
    rfl

/-! ## Mappings -/

/-- The value whose key's colon the reader is at. -/
theorem readBelow_writeAfterKey {v : Value} (hv : Writable v) (hback : ReadsBack v) {column col n : Nat} {r : Text}
    (fuel line : Nat) (as : Anchors) (hcol : column ≤ col) (hn : n < column + 1) (hr : Follows n r)
    (hfuel : 2 * (writeAfterKey column v).length ≤ fuel + 2) :
    ∃ after, readBelow true (column + 1) (fuel + 1) as
        ((Cursor.drop ⟨':' :: (writeAfterKey column v ++ (spaces n ++ r)), col, line, false⟩ 1).skip false) =
          some (nodeOf v, as, after) ∧ Arrived n r after := by
  have hstart := fun indent => (opensBlock_blockText hv indent).startsToken (spaces n ++ r)
  rw [writeAfterKey_eq] at hfuel ⊢
  simp only [Cursor.drop, List.drop_succ_cons, List.drop_zero]
  cases hblock : isBlock v with
  | true =>
    simp only [hblock, if_true, List.length_cons, List.length_append] at hfuel
    simp only [if_true, List.cons_append, List.append_assoc]
    rw [skip_line (hstart _)]
    exact hback.readBelow hv true (line + 1) as hn (by omega) hr (fun _ => ⟨rfl, rfl⟩) (by omega)
  | false =>
    simp only [hblock, Bool.false_eq_true, if_false, List.length_cons] at hfuel
    simp only [Bool.false_eq_true, if_false, List.cons_append]
    have hskip := skip_spaces (hstart column) line false 1 (col + 1)
    rw [show spaces 1 = [' '] from rfl] at hskip
    rw [← List.singleton_append, hskip]
    exact hback.readBelow hv true line as hn (by omega) hr (fun hb => by rw [hblock] at hb; cases hb) (by omega)

theorem endsToken_writeAfterKey (column : Nat) (v : Value) (k : Text) : endsToken (writeAfterKey column v ++ k) = true := by
  rw [writeAfterKey_eq]
  split <;> rfl

theorem two_le_length_writeAfterKey {v : Value} (hv : Writable v) (column : Nat) : 2 ≤ (writeAfterKey column v).length := by
  rw [writeAfterKey_eq]
  split
  · obtain ⟨c, rest, htext, -⟩ := opensBlock_blockText hv (column + 2)
    simp only [htext, List.length_cons, List.length_append]
    omega
  · obtain ⟨c, rest, htext, -⟩ := opensBlock_blockText hv column
    simp [htext]

theorem fieldChars_facts : ∀ c ∈ fieldChars, c ∈ tameChars ∧ isTokenEnd c = false ∧ isWeakIndicator c = false ∧ c ≠ '.' ∧
    c ≠ '-' := forall_mem_of_all (by decide)

theorem toColon_colon (rest : Text) (column line : Nat) (fresh : Bool) :
    toColon ⟨':' :: rest, column, line, fresh⟩ = ⟨':' :: rest, column, line, fresh⟩ := rfl

theorem atSign_colon {rest : Text} (h : endsToken rest = true) (column line : Nat) (fresh : Bool) :
    Cursor.atSign ⟨':' :: rest, column, line, fresh⟩ ':' = true := h

section Key

variable {k rest : Text} (hk : IsField k)

include hk

theorem IsField.readInline (hrest : endsToken rest = true) (floor fuel : Nat) (as : Anchors) (column line : Nat)
    (fresh : Bool) : Yaml.readInline false floor (fuel + 1) as ⟨k ++ ':' :: rest, column, line, fresh⟩ =
      some (.plain k, as, ⟨':' :: rest, column + k.length, line, false⟩) := by
  have hword : ∀ c ∈ k, isTokenEnd c = false ∧ c ≠ ':' := by
    intro c hc
    obtain ⟨htame, hend, -⟩ := fieldChars_facts c (hk.chars c hc)
    exact ⟨hend, (tame_facts c htame).2.2.2.2.1⟩
  have hread := readPlain_key hk.ne_nil hword hrest floor (k ++ ':' :: rest).length column line fresh
  obtain ⟨c, k', rfl⟩ := List.exists_cons_of_ne_nil hk.ne_nil
  obtain ⟨htame, hend, hweak, -⟩ := fieldChars_facts c (hk.chars c List.mem_cons_self)
  obtain ⟨-, hbreak, -, -, -, -, hindicator⟩ := tame_facts c htame
  have hstart : startsPlain false (c :: (k' ++ ':' :: rest)) = true := by
    simp [startsPlain, hweak, hend, hbreak, hindicator]
  rw [List.cons_append, readInline_unquoted hindicator _ _ _ _ _ _ _ hstart]
  rw [List.cons_append] at hread
  simp only [hread]

theorem IsField.follows (column : Nat) : Follows column (k ++ rest) := by
  obtain ⟨c, k', rfl⟩ := List.exists_cons_of_ne_nil hk.ne_nil
  obtain ⟨htame, -, -, hdot, hdash⟩ := fieldChars_facts c (hk.chars c List.mem_cons_self)
  obtain ⟨-, hbreak, -, hspace, hcolon, hhash, -⟩ := tame_facts c htame
  refine ⟨fun x hx => ?_, fun _ => ?_⟩
  · obtain rfl : c = x := by simpa using hx
    exact ⟨hbreak, hspace, hhash, hcolon⟩
  · simp [atMarker, Text.startsWith, hdot.symm, hdash.symm]

theorem IsField.keyReaches (column line : Nat) (fresh : Bool) :
    Yaml.keyReaches ⟨k ++ ':' :: rest, column, line, fresh⟩ ⟨':' :: rest, column + k.length, line, false⟩ = true := by
  have hshort := hk.short
  simp only [Yaml.keyReaches, beq_self_eq_true, Bool.true_and, decide_eq_true_eq, List.length_append]
  omega

theorem IsField.readEntries (hrest : endsToken rest = true) (column fuel : Nat) (as : Anchors) (col line : Nat)
    (fresh : Bool) : Yaml.readEntries column (fuel + 2) as ⟨k ++ ':' :: rest, col, line, fresh⟩ =
      readFrom column (.plain k) (fuel + 1) as ⟨':' :: rest, col + k.length, line, false⟩ := by
  rw [(hk.opensInline _).readEntries ⟨_, col, line, fresh⟩, hk.readInline hrest]
  simp only [toColon_colon, atSign_colon hrest, hk.keyReaches, Bool.and_self, if_true]
  rfl

theorem IsField.readBlock (hrest : endsToken rest = true) (floor fuel : Nat) (as : Anchors) (column line : Nat) :
    Yaml.readBlock floor (fuel + 2) as ⟨k ++ ':' :: rest, column, line, true⟩ =
      (readFrom column (.plain k) (fuel + 1) as ⟨':' :: rest, column + k.length, line, false⟩).map
        fun p => (.map p.1, p.2) := by
  rw [(hk.opensInline _).readBlock ⟨_, column, line, true⟩, hk.readInline hrest]
  simp only [toColon_colon, atSign_colon hrest, hk.keyReaches, Bool.and_self, if_true]
  rfl

end Key

/-- **A mapping is read back entry by entry.**  Nothing has to follow the outermost one. -/
theorem readFrom_writeEntries {column n : Nat} {r : Text} (hn : n < column ∨ n ≤ column ∧ r = []) (hr : Follows n r)
    (as : Anchors) : ∀ (es : List (Value × Value)) (k : Text) (v : Value) (fuel col line : Nat),
      IsField k → Writable v ∧ ReadsBack v → (∀ e ∈ es, ∃ k, e.1 = .text k ∧ IsField k) →
      (∀ e ∈ es, Writable e.2 ∧ ReadsBack e.2) → column ≤ col →
      2 * (writeAfterKey column v ++ moreEntries column es).length ≤ fuel →
      ∃ line', readFrom column (.plain k) fuel as
        ⟨':' :: (writeAfterKey column v ++ (moreEntries column es ++ (spaces n ++ r))), col, line, false⟩ =
          some (entryNodes ((.text k, v) :: es), as, ⟨r, n, line', true⟩)
  | [], k, v, fuel, col, line, hk, ⟨hv, hback⟩, _, _, hcol, hfuel => by
    have hlen := two_le_length_writeAfterKey hv column
    rw [List.length_append] at hfuel
    obtain ⟨fuel, rfl⟩ : ∃ f, fuel = f + 2 := ⟨fuel - 2, by omega⟩
    obtain ⟨after, hread, harrived⟩ := readBelow_writeAfterKey hv hback fuel line as hcol (by omega) hr (by omega)
    obtain ⟨line', hskip⟩ := harrived.skip hr
    refine ⟨line', ?_⟩
    have hend : (Cursor.atEnd ⟨r, n, line', true⟩ || decide (n < column)) = true := by
      rcases hn with hn | ⟨-, rfl⟩
      · simp [hn]
      · rfl
    rw [moreEntries, List.nil_append, readFrom, hread]
    simp only [hskip, readRest, hend, if_true]
    rw [hk.entryNodes]
    rfl
  | (key, w) :: es, k, v, fuel, col, line, hk, ⟨hv, hback⟩, hkeys, hes, hcol, hfuel => by
    obtain ⟨⟨k', rfl, hk'⟩, hkeys'⟩ := List.forall_mem_cons.1 hkeys
    obtain ⟨hw, hes'⟩ := List.forall_mem_cons.1 hes
    have hlen := two_le_length_writeAfterKey hv column
    rw [moreEntries, writeEntries_cons, hk'.writeInline] at hfuel ⊢
    simp only [List.length_append, List.length_cons] at hfuel
    obtain ⟨fuel, rfl⟩ : ∃ f, fuel = f + 4 := ⟨fuel - 4, by omega⟩
    simp only [List.append_assoc, List.cons_append]
    -- of what stands after the next colon only the first character matters until the reader gets there
    generalize htail : writeAfterKey column w ++ (moreEntries column es ++ (spaces n ++ r)) = tail
    have hfollows : Follows column (k' ++ ':' :: tail) := hk'.follows column
    obtain ⟨after, hread, harrived⟩ := readBelow_writeAfterKey hv hback (fuel + 2) line as hcol (Nat.lt_succ_self column)
      hfollows (by omega)
    obtain ⟨line₁, hskip⟩ := harrived.skip hfollows
    obtain ⟨line', hrest⟩ := readFrom_writeEntries hn hr as es k' w (fuel + 1) (column + k'.length) line₁ hk' hw hkeys' hes'
      (Nat.le_add_right _ _) (by rw [List.length_append]; omega)
    have hend := hfollows.atEnd (by simp) line₁ true
    have htoken : endsToken tail = true := by
      rw [← htail]
      exact endsToken_writeAfterKey column w _
    rw [htail] at hrest
    refine ⟨line', ?_⟩
    rw [readFrom, hread]
    simp only [hskip, readRest, hend, Nat.lt_irrefl, decide_false, Bool.or_self, Bool.false_eq_true, if_false, beq_self_eq_true,
      if_true, hk'.readEntries htoken, hrest]
    rw [hk.entryNodes]
    rfl

/-- **Whatever can be written is read back.** -/
theorem readsBack_of_writable {v : Value} (h : Writable v) : ReadsBack v := by
  induction h with
  | int i => exact readsBack_inline (.int i) rfl
  | text h => exact readsBack_inline (.text h) rfl
  | @list vs h ih =>
    cases vs with
    | nil => exact readsBack_inline (.list h) rfl
    | cons v vs =>
      intro indent floor fuel column line n fresh as r hn hcolumn hr hblock hfuel
      obtain ⟨rfl, rfl⟩ := hblock rfl
      have hlen := two_le_length_writeItem column v
      rw [blockText] at hfuel ⊢
      have hlen' : (writeItem column v).length ≤ (writeItem column v ++ writeItems column vs).length := by
        rw [List.length_append]
        omega
      obtain ⟨fuel, rfl⟩ : ∃ f, fuel = f + 1 := ⟨fuel - 1, by omega⟩
      obtain ⟨line', hread⟩ := readItems_writeItems (Nat.lt_of_lt_of_le hn hcolumn) hr vs v fuel line as
        (fun x hx => ⟨h x hx, ih x hx⟩) (by omega)
      refine ⟨_, ?_, Or.inl ⟨line', rfl⟩⟩
      rw [List.append_assoc, readBlock, atSign_writeItem]
      simp only [if_true, hread]
      rfl
  | @map es hkey hdistinct h ih =>
    cases es with
    | nil => exact readsBack_inline (.map hkey hdistinct h) rfl
    | cons e es =>
      obtain ⟨key, v⟩ := e
      obtain ⟨⟨k, rfl, hk⟩, hkeys⟩ := List.forall_mem_cons.1 hkey
      obtain ⟨hv, hvs⟩ := List.forall_mem_cons.1 h
      obtain ⟨hback, hbacks⟩ := List.forall_mem_cons.1 ih
      intro indent floor fuel column line n fresh as r hn hcolumn hr hblock hfuel
      obtain ⟨rfl, rfl⟩ := hblock rfl
      rw [blockText, writeEntries_cons, hk.writeInline] at hfuel ⊢
      simp only [List.length_append, List.length_cons] at hfuel
      obtain ⟨fuel, rfl⟩ : ∃ f, fuel = f + 2 := ⟨fuel - 2, by omega⟩
      obtain ⟨line', hread⟩ := readFrom_writeEntries (Or.inl (Nat.lt_of_lt_of_le hn hcolumn)) hr as es k v (fuel + 1)
        (column + k.length) line hk ⟨hv, hback⟩ hkeys (fun e he => ⟨hvs e he, hbacks e he⟩) (Nat.le_add_right _ _)
        (by rw [List.length_append]; omega)
      refine ⟨_, ?_, Or.inl ⟨line', rfl⟩⟩
      simp only [List.append_assoc, List.cons_append]
      rw [hk.readBlock (endsToken_writeAfterKey column v _), hread]
      rfl

/-! ## Characters of a document -/

/-- Every character may stand in a document. -/
def IsDocument (t : Text) : Prop := ∀ c ∈ t, isDocumentChar c = true

instance (t : Text) : Decidable (IsDocument t) := List.decidableBAll _ t

theorem isDocumentChar_of_isPlainChar {c : Char} (h : isPlainChar c = true) : isDocumentChar c = true := by
  simp only [isPlainChar, isDocumentChar, Bool.or_eq_true, Bool.and_eq_true] at h ⊢
  rcases h with ((h | h) | h) | h
  all_goals simp [h]

theorem IsDocument.append {a b : Text} (ha : IsDocument a) (hb : IsDocument b) : IsDocument (a ++ b) :=
  fun c hc => (List.mem_append.1 hc).elim (ha c) (hb c)

theorem IsDocument.cons {c : Char} {t : Text} (hc : isDocumentChar c = true) (ht : IsDocument t) : IsDocument (c :: t) :=
  List.forall_mem_cons.2 ⟨hc, ht⟩

theorem isDocument_spaces (n : Nat) : IsDocument (spaces n) := by
  intro c hc
  rw [List.eq_of_mem_replicate hc]
  rfl

theorem isDocument_hexUpper {width : Nat} (hwidth : 0 < width) {n : Nat} (hn : n < 16 ^ width) :
    IsDocument (Text.hexUpper width n) := by
  have hall : ∀ d < 16, isDocumentChar (Nat.digitChar d).toUpper = true := by decide
  obtain ⟨ds, htext, hnum, -⟩ := Text.numeral_hexLower hwidth hn
  intro c hc
  rw [Text.hexUpper, htext, List.map_map] at hc
  obtain ⟨d, hd, rfl⟩ := List.mem_map.1 hc
  exact hall d (hnum.below d hd)

theorem isDocumentChar_of_escapedChar? {c l : Char} (h : escapedChar? l = some c) : isDocumentChar l = true := by
  unfold escapedChar? at h
  split at h
  case h_19 => cases h
  all_goals rfl

theorem isDocument_escapeChar (c : Char) : IsDocument (escapeChar c) := by
  have hvalid := Text.toNat_valid c
  unfold escapeChar
  split
  · rename_i l hletter
    have hl := isDocumentChar_of_escapedChar? (escapedChar?_escapeLetter hletter).1
    exact .cons rfl (.cons hl nofun)
  split
  · rename_i hplain
    exact .cons (isDocumentChar_of_isPlainChar hplain) nofun
  split
  · exact .cons rfl (.cons rfl (isDocument_hexUpper (by decide) (by omega)))
  split
  · exact .cons rfl (.cons rfl (isDocument_hexUpper (by decide) (by omega)))
  · exact .cons rfl (.cons rfl (isDocument_hexUpper (by decide) (by omega)))

theorem isDocument_writeText {t : Text} (ht : NoSeparators t) (indent : Nat) : IsDocument (writeText indent t) := by
  unfold writeText
  split
  · rename_i hplain
    exact fun c hc => isDocumentChar_of_isPlainChar ((of_allowsPlain hplain).1.chars c hc).1
  split
  · rename_i hsingle
    have hchars := of_allowsSingle hsingle ht
    rw [writeSingle, indentBreaks_of_not_break indent fun c hc => (hchars c hc).2.1]
    exact (IsDocument.cons rfl fun c hc => isDocumentChar_of_isPlainChar (hchars c hc).2.2).append (by decide)
  · refine IsDocument.append (IsDocument.cons rfl fun c hc => ?_) (by decide)
    obtain ⟨x, -, hx⟩ := List.mem_flatMap.1 hc
    exact isDocument_escapeChar x c hx

theorem isDocument_writeInline {v : Value} (hv : Writable v) (column : Nat) : IsDocument (writeInline column v) := by
  cases hv with
  | int i => exact fun c hc => isDocumentChar_of_isPlainChar (tame_facts c (tame_ofInt i c hc)).1
  | text h => exact isDocument_writeText h _
  | list h => exact (by decide : IsDocument "[]".toList)
  | map hkey hdistinct h => exact (by decide : IsDocument "\x7b\x7d".toList)

theorem isDocument_writeItems : ∀ {vs : List Value}, (∀ v ∈ vs, ∀ indent, IsDocument (blockText indent v)) →
    ∀ column, IsDocument (writeItems column vs)
  | [], _, _ => nofun
  | v :: vs, h, column => by
    obtain ⟨hv, hvs⟩ := List.forall_mem_cons.1 h
    obtain ⟨gap, indent, heq, hgap⟩ := writeItem_eq column v
    have hgap' : IsDocument gap := by
      rcases hgap with ⟨rfl, -⟩ | ⟨rfl, -⟩
      · decide
      · exact .cons rfl (isDocument_spaces _)
    rw [writeItems_cons, heq]
    exact (isDocument_spaces column).append ((IsDocument.cons rfl (hgap'.append (hv indent))).append
      (isDocument_writeItems hvs column))

theorem isDocument_writeEntries : ∀ {es : List (Value × Value)}, (∀ e ∈ es, ∃ k, e.1 = .text k ∧ IsField k) →
    (∀ e ∈ es, ∀ indent, IsDocument (blockText indent e.2)) → ∀ column, IsDocument (writeEntries column es)
  | [], _, _, _ => nofun
  | (key, v) :: es, hkey, h, column => by
    obtain ⟨⟨k, rfl, hk⟩, hkeys⟩ := List.forall_mem_cons.1 hkey
    obtain ⟨hv, hes⟩ := List.forall_mem_cons.1 h
    have hname : IsDocument k := fun c hc =>
      isDocumentChar_of_isPlainChar (tame_facts c (fieldChars_facts c (hk.chars c hc)).1).1
    have hvalue : IsDocument (writeAfterKey column v) := by
      rw [writeAfterKey_eq]
      split
      · exact .cons rfl ((isDocument_spaces _).append (hv _))
      · exact .cons rfl (hv _)
    have hmore : IsDocument (moreEntries column es) := by
      cases es with
      | nil => exact nofun
      | cons e es => exact (isDocument_spaces column).append (isDocument_writeEntries hkeys hes column)
    rw [writeEntries_cons, hk.writeInline]
    exact hname.append (.cons rfl (hvalue.append hmore))

theorem isDocument_blockText {v : Value} (hv : Writable v) : ∀ indent, IsDocument (blockText indent v) := by
  induction hv with
  | int i => exact fun indent => (isDocument_writeInline (.int i) indent).append (by decide)
  | text h => exact fun indent => (isDocument_writeInline (.text h) indent).append (by decide)
  | @list vs h ih =>
    intro indent
    cases vs with
    | nil => exact (by decide : IsDocument "[]\n".toList)
    | cons v vs =>
      have hitems := isDocument_writeItems ih indent
      rw [writeItems_cons] at hitems
      exact fun c hc => hitems c (List.mem_append_right _ hc)
  | @map es hkey hdistinct h ih =>
    intro indent
    cases es with
    | nil => exact (by decide : IsDocument "\x7b\x7d\n".toList)
    | cons e es => exact isDocument_writeEntries hkey ih indent

/-! ## Documents -/

theorem follows_nil : Follows 0 [] := ⟨nofun, fun _ => rfl⟩

/-- Reading begins with the root of a document that begins with a key. -/
theorem readDocument_of_key {k rest : Text} (hk : IsField k) (hchars : IsDocument (k ++ rest)) :
    readDocument (k ++ rest) = (readRoot (8 * (k ++ rest).length + 16) ⟨k ++ rest, 0, 0, true⟩).map some := by
  have hfollows : Follows 0 (k ++ rest) := hk.follows 0
  have hskip : Cursor.skip false ⟨k ++ rest, 0, 0, true⟩ = ⟨k ++ rest, 0, 0, true⟩ :=
    skip_spaces hfollows.startsToken 0 true 0 0
  have hend := hfollows.atEnd (by simp [hk.ne_nil]) 0 true
  have hempty : (k ++ rest).isEmpty = false := by simp [hk.ne_nil]
  obtain ⟨c, k', rfl⟩ := List.exists_cons_of_ne_nil hk.ne_nil
  have hhead : c ≠ Text.mark ∧ c ≠ '%' :=
    (forall_mem_of_all (by decide) : ∀ x ∈ fieldChars, x ≠ Text.mark ∧ x ≠ '%') c (hk.chars c List.mem_cons_self)
  have hmark : ((c :: k' ++ rest).head? == some Text.mark) = false := by simp [hhead.1]
  have hdirectives : ∀ fuel, dropDirectives fuel ⟨c :: k' ++ rest, 0, 0, true⟩ = (false, ⟨c :: k' ++ rest, 0, 0, true⟩) := by
    intro fuel
    cases fuel with
    | zero => rfl
    | succ fuel =>
      rw [dropDirectives]
      split
      · rename_i heq
        exact absurd (List.cons.inj heq).1 hhead.2
      · rfl
  rw [readDocument, if_pos (List.all_eq_true.2 hchars)]
  simp only [hmark, Bool.false_eq_true, if_false, hskip, hdirectives, hfollows.marker rfl, Bool.and_false, Bool.false_and, hempty,
    hend]

theorem readRoot_writeEntries {e : Value × Value} {es : List (Value × Value)} (h : Writable (.map (e :: es))) (fuel : Nat)
    (hfuel : 2 * (writeEntries 0 (e :: es)).length + 2 ≤ fuel) :
    readRoot fuel ⟨writeEntries 0 (e :: es), 0, 0, true⟩ = some (nodeOf (.map (e :: es))) := by
  obtain ⟨key, v⟩ := e
  cases h with
  | map hkey _ hvalues =>
    obtain ⟨⟨k, rfl, hk⟩, hkeys⟩ := List.forall_mem_cons.1 hkey
    obtain ⟨hv, hvs⟩ := List.forall_mem_cons.1 hvalues
    rw [writeEntries_cons, hk.writeInline] at hfuel ⊢
    simp only [List.length_append, List.length_cons] at hfuel
    obtain ⟨fuel, rfl⟩ : ∃ f, fuel = f + 2 := ⟨fuel - 2, by omega⟩
    obtain ⟨line, hread⟩ := readFrom_writeEntries (Or.inr ⟨Nat.le_refl 0, rfl⟩) follows_nil [] es k v (fuel + 1)
      (0 + k.length) 0 hk ⟨hv, readsBack_of_writable hv⟩ hkeys (fun e he => ⟨hvs e he, readsBack_of_writable (hvs e he)⟩)
      (Nat.zero_le _) (by rw [List.length_append]; omega)
    rw [show spaces 0 ++ [] = ([] : Text) from rfl, List.append_nil] at hread
    rw [readRoot, hk.readBlock (endsToken_writeAfterKey 0 v _), hread]
    rfl

/-- **The document of a mapping is read back as the mapping.** -/
theorem load_write {e : Value × Value} {es : List (Value × Value)} (h : Writable (.map (e :: es))) :
    load (write (.map (e :: es))) = .ok (.map (e :: es)) := by
  have hvalue := toValue_nodeOf h
  have hchars := isDocument_blockText h 0
  have hroot := readRoot_writeEntries h (8 * (writeEntries 0 (e :: es)).length + 16) (by omega)
  obtain ⟨key, v⟩ := e
  obtain ⟨k, rfl, hk⟩ : ∃ k, key = .text k ∧ IsField k := by
    cases h with
    | map hkey _ _ => exact hkey _ List.mem_cons_self
  rw [blockText, writeEntries_cons, hk.writeInline] at hchars
  rw [writeEntries_cons, hk.writeInline] at hroot
  rw [write, writeEntries_cons, hk.writeInline, load, readDocument_of_key hk hchars, hroot]
  exact hvalue

/-! ## Reports -/

theorem keysDistinct_fields : ∀ {fields : List (String × Value)}, (fields.map (·.1)).Nodup →
    Node.keysDistinct (fields.map fun f => (.text f.1.toList, f.2)) = true
  | [], _ => rfl
  | f :: fields, h => by
    rw [List.map_cons, List.nodup_cons] at h
    have hother : ∀ g ∈ fields, Node.sameKey (.text f.1.toList) (.text g.1.toList) = false := by
      intro g hg
      have hne : f.1 ≠ g.1 := fun heq => h.1 (heq ▸ List.mem_map_of_mem hg)
      simpa [Node.sameKey, Node.numberKey?, String.toList_inj] using hne
    rw [List.map_cons, Node.keysDistinct, keysDistinct_fields h.2, Bool.and_true, Bool.not_eq_true', List.any_eq_false]
    intro e he
    obtain ⟨g, hg, rfl⟩ := List.mem_map.1 he
    simp [hother g hg]

theorem writable_record {fields : List (String × Value)} (hnodup : (fields.map (·.1)).Nodup)
    (hnames : ∀ n ∈ fields.map (·.1), IsField n.toList) (hvalues : ∀ f ∈ fields, Writable f.2) :
    Writable (.record fields) := by
  refine .map (fun e he => ?_) (keysDistinct_fields hnodup) (fun e he => ?_)
  · obtain ⟨f, hf, rfl⟩ := List.mem_map.1 he
    exact ⟨_, rfl, hnames _ (List.mem_map_of_mem hf)⟩
  · obtain ⟨f, hf, rfl⟩ := List.mem_map.1 he
    exact hvalues f hf

end Yaml

theorem Diagnostic.writable_toValue {d : Diagnostic} (h : Yaml.NoSeparators d.message) : Yaml.Writable d.toValue := by
  have hseverity : Yaml.NoSeparators d.severity.name := by cases d.severity <;> decide
  have hnames : ["line", "severity", "message"].Nodup ∧
      ∀ n ∈ ["line", "severity", "message"], Yaml.IsField n.toList := by decide
  refine Yaml.writable_record hnames.1 hnames.2 ?_
  simp only [List.forall_mem_cons]
  exact ⟨.int _, .text hseverity, .text h, nofun⟩

theorem Report.writable_toValue {r : Report} (hcode : Yaml.NoSeparators r.code)
    (hmessages : ∀ d ∈ r.warnings ++ r.unsupported, Yaml.NoSeparators d.message) : Yaml.Writable r.toValue := by
  have hdialect : Yaml.NoSeparators r.dialect.name := by cases r.dialect <;> decide
  have hlanguage : Yaml.NoSeparators r.language.name := by cases r.language <;> decide
  have hfilename : Yaml.NoSeparators (downloadName r.dialect) := by cases r.dialect <;> decide
  have hnotes : ∀ ds : List Diagnostic, (∀ d ∈ ds, Yaml.NoSeparators d.message) →
      Yaml.Writable (.list (ds.map Diagnostic.toValue)) := by
    intro ds hds
    refine .list fun v hv => ?_
    obtain ⟨d, hd, rfl⟩ := List.mem_map.1 hv
    exact Diagnostic.writable_toValue (hds d hd)
  have hnames :
      ["target_dialect", "source_language", "filename", "converted_code", "warnings", "unsupported_constructs"].Nodup ∧
      ∀ n ∈ ["target_dialect", "source_language", "filename", "converted_code", "warnings", "unsupported_constructs"],
        Yaml.IsField n.toList := by decide
  refine Yaml.writable_record hnames.1 hnames.2 ?_
  simp only [List.forall_mem_cons]
  exact ⟨.text hdialect, .text hlanguage, .text hfilename, .text hcode,
    hnotes _ fun d hd => hmessages d (List.mem_append_left _ hd),
    hnotes _ fun d hd => hmessages d (List.mem_append_right _ hd), nofun⟩

/-- **The YAML document of a report is read back as the report**, if code and messages hold none of the line breaks U+0085,
U+2028 and U+2029: each text is the same text whatever its style, each line number the same number. -/
theorem Report.yaml_keeps_report {r : Report} (hcode : Yaml.NoSeparators r.code)
    (hmessages : ∀ d ∈ r.warnings ++ r.unsupported, Yaml.NoSeparators d.message) :
    Yaml.load r.toYaml = .ok r.toValue :=
  Yaml.load_write (r.writable_toValue hcode hmessages)

/-- Texts that look like a key, a comment, a number, a marker and nothing at all, with quotes, tabs and line feeds. -/
theorem Report.yaml_keeps_report_lookalikes :
    let r : Report :=
      { code := "a: b # c\n\t'd' \"e\" \\\x1b".toList
        dialect := .general
        warnings := [⟨.warning, -7, "12".toList⟩, ⟨.warning, 0, "---".toList⟩]
        unsupported := [⟨.unsupported, 3, "null".toList⟩, ⟨.unsupported, 4, []⟩, ⟨.unsupported, 5, "done:".toList⟩] }
    Yaml.NoSeparators r.code ∧ (∀ d ∈ r.warnings ++ r.unsupported, Yaml.NoSeparators d.message) ∧
    Yaml.load r.toYaml = .ok r.toValue :=
  ⟨by decide, by decide, Report.yaml_keeps_report (by decide) (by decide)⟩

end Scriptwright
