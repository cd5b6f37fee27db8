import Scriptwright.Value.Basic
import Scriptwright.Text.Digit
/-!
# Reading JSON

A reader of RFC 8259 texts.  Members keep the order in which they are written.  A numeral without fraction and exponent
is a whole number; every other numeral keeps its digits.  Each step of the recursion takes at least one character, so
the length of the text bounds the number of steps.
-/
namespace Scriptwright
namespace Json

def isSpace (c : Char) : Bool := c == ' ' || c == '\n' || c == '\r' || c == '\t'

def skipSpace (t : Text) : Text := t.dropWhile isSpace

/-- The character of a single-letter escape. -/
def shortEscape? (c : Char) : Option Char :=
  match c with
  | '"' => some '"'
  | '\\' => some '\\'
  | '/' => some '/'
  | 'b' => some '\x08'
  | 'f' => some '\x0c'
  | 'n' => some '\n'
  | 'r' => some '\r'
  | 't' => some '\t'
  | _ => none

/-- The value of four digits of base sixteen. -/
def unit? (a b c d : Char) : Option Nat := do
  let a ← Text.hexDigit? a
  let b ← Text.hexDigit? b
  let c ← Text.hexDigit? c
  let d ← Text.hexDigit? d
  return Text.valueOf 16 [a, b, c, d]

def isHighUnit (n : Nat) : Bool := 0xD800 ≤ n && n < 0xDC00

def isLowUnit (n : Nat) : Bool := 0xDC00 ≤ n && n < 0xE000

/-- The character of a pair of units. -/
def pairChar (hi lo : Nat) : Char := Char.ofNat (0x10000 + (hi - 0xD800) * 0x400 + (lo - 0xDC00))

/-- The characters up to the closing quote, and what follows it. -/
def readChars : Text → Option (Text × Text)
  | [] => none
  | '"' :: rest => some ([], rest)
  | '\\' :: 'u' :: a :: b :: c :: d :: rest =>
    match unit? a b c d with
    | none => none
    | some n =>
      if isHighUnit n then
        match rest with
        | '\\' :: 'u' :: e :: f :: g :: h :: rest' =>
          match unit? e f g h with
          | none => none
          | some m =>
            if isLowUnit m then (readChars rest').map fun p => (pairChar n m :: p.1, p.2) else none
        | _ => none
      else if isLowUnit n then none
      else (readChars rest).map fun p => (Char.ofNat n :: p.1, p.2)
  | '\\' :: c :: rest =>
    match shortEscape? c with
    | none => none
    | some x => (readChars rest).map fun p => (x :: p.1, p.2)
  | c :: rest =>
    if c.toNat < 0x20 || c = '\\' then none else (readChars rest).map fun p => (c :: p.1, p.2)

/-- Digits at the front of a text, as values, and what follows them. -/
def spanDigits (t : Text) : List Nat × Text :=
  (t.takeWhile Char.isDigit |>.map fun c => c.toNat - 48, t.dropWhile Char.isDigit)

/-- The fraction after a point, if one follows. -/
def readFraction : Text → Option (List Nat × Text)
  | '.' :: rest =>
    match spanDigits rest with
    | ([], _) => none
    | (ds, rest') => some (ds, rest')
  | t => some ([], t)

/-- The exponent, if one follows. -/
def readExponent : Text → Option (Option Int × Text)
  | c :: rest =>
    if c = 'e' || c = 'E' then
      let (sign, body) : Int × Text := match rest with
        | '+' :: r => (1, r)
        | '-' :: r => (-1, r)
        | r => (1, r)
      match spanDigits body with
      | ([], _) => none
      | (ds, rest') => some (some (sign * (Text.valueOf 10 ds : Int)), rest')
    else some (none, c :: rest)
  | [] => some (none, [])

/-- A numeral without its sign. -/
def readNumeral (negative : Bool) (t : Text) : Option (Value × Text) :=
  match spanDigits t with
  | ([], _) => none
  | (0 :: _ :: _, _) => none
  | (whole, rest) =>
    match readFraction rest with
    | none => none
    | some (frac, rest') =>
      match readExponent rest' with
      | none => none
      | some (e, rest'') =>
        if frac.isEmpty && e.isNone then
          let n := Text.valueOf 10 whole
          some (.int (if negative then -(n : Int) else n), rest'')
        else
          some (.real (.decimal ⟨negative, Text.valueOf 10 (whole ++ frac), e.getD 0 - frac.length⟩), rest'')

/-- A word of the grammar. -/
def readWord (w : String) (v : Value) (t : Text) : Option (Value × Text) :=
  if w.toList.isPrefixOf t then some (v, t.drop w.length) else none

mutual

def readValue : Nat → Text → Option (Value × Text)
  | 0, _ => none
  | fuel + 1, t =>
    match t with
    | [] => none
    | '"' :: rest => (readChars rest).map fun p => (.text p.1, p.2)
    | '[' :: rest =>
      match skipSpace rest with
      | ']' :: rest' => some (.list [], rest')
      | t' => (readItems fuel t').map fun p => (.list p.1, p.2)
    | '\x7b' :: rest =>
      match skipSpace rest with
      | '\x7d' :: rest' => some (.map [], rest')
      | t' => (readMembers fuel t').map fun p => (.map p.1, p.2)
    | 'n' :: _ => readWord "null" .null t
    | 't' :: _ => readWord "true" (.bool true) t
    | 'f' :: _ => readWord "false" (.bool false) t
    | '-' :: rest => readNumeral true rest
    | _ => readNumeral false t

/-- Items up to the closing bracket; the text begins at the first of them. -/
def readItems : Nat → Text → Option (List Value × Text)
  | 0, _ => none
  | fuel + 1, t =>
    match readValue fuel t with
    | none => none
    | some (v, rest) =>
      match skipSpace rest with
      | ']' :: rest' => some ([v], rest')
      | ',' :: rest' => (readItems fuel (skipSpace rest')).map fun p => (v :: p.1, p.2)
      | _ => none

/-- Members up to the closing brace; the text begins at the first of them. -/
def readMembers : Nat → Text → Option (List (Value × Value) × Text)
  | 0, _ => none
  | fuel + 1, t =>
    match t with
    | '"' :: rest =>
      match readChars rest with
      | none => none
      | some (k, rest₁) =>
        match skipSpace rest₁ with
        | ':' :: rest₂ =>
          match readValue fuel (skipSpace rest₂) with
          | none => none
          | some (v, rest₃) =>
            match skipSpace rest₃ with
            | '\x7d' :: rest₄ => some ([(.text k, v)], rest₄)
            | ',' :: rest₄ => (readMembers fuel (skipSpace rest₄)).map fun p => ((.text k, v) :: p.1, p.2)
            | _ => none
        | _ => none
    | _ => none

end

/-- The value of a JSON text. -/
def read? (t : Text) : Option Value :=
  match readValue (t.length + 1) (skipSpace t) with
  | some (v, rest) => if (skipSpace rest).isEmpty then some v else none
  | none => none

end Json
end Scriptwright
