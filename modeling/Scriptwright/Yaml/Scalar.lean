import Scriptwright.Value.Basic
import Scriptwright.Text.Digit
/-!
# Plain scalars

What a scalar without quotes stands for, by the core rules of YAML 1.2 with digit groups, binary and octal numbers,
timestamps, the merge key `<<` and the default key `=`: a truth value, null, a number, a moment, and a text whenever no
other rule fits.  `yes` and `off` are texts, `007` is seven.
-/
namespace Scriptwright
namespace Yaml

/-- Why a scalar that has the form of a number or a moment is none. -/
inductive BadScalar where
  | noDigits (base : Nat)
  | noReal (numeral : Text)
  | moment (e : MomentError)
  deriving DecidableEq, Repr

def BadScalar.message : BadScalar → Text
  | .noDigits base => "invalid literal for int() with base ".toList ++ Text.ofNat base ++ ": ''".toList
  | .noReal numeral => "could not convert string to float: '".toList ++ numeral ++ ['\'']
  | .moment e => e.message

/-- The meaning of a plain scalar. -/
inductive Meaning where
  | value (v : Value)
  | mergeKey
  | defaultKey
  | bad (e : BadScalar)

/-! ## Forms -/

def isSign (c : Char) : Bool := c == '-' || c == '+'

/-- The text without a sign in front, and whether the sign is a minus. -/
def dropSign : Text → Bool × Text
  | '-' :: rest => (true, rest)
  | '+' :: rest => (false, rest)
  | t => (false, t)

/-- Non-empty, of the given characters and underscores. -/
def isGroup (p : Char → Bool) (t : Text) : Bool := !t.isEmpty && t.all fun c => p c || c == '_'

def isOctal (c : Char) : Bool := '0' ≤ c && c ≤ '7'

def isBinary (c : Char) : Bool := c == '0' || c == '1'

def isHex (c : Char) : Bool := (Text.hexDigit? c).isSome

/-- The digits of a whole number and their base, when the text without its sign has the form of one. -/
def wholeForm? (t : Text) : Option (Nat × Text) :=
  match t with
  | '0' :: 'b' :: ds => if isGroup isBinary ds then some (2, ds) else none
  | '0' :: 'x' :: ds => if isGroup isHex ds then some (16, ds) else none
  | '0' :: 'o' :: ds => if isGroup isOctal ds then some (8, ds) else none
  | ds => if isGroup Char.isDigit ds then some (10, ds) else none

/-- The value of digits with their groups joined. -/
def groupValue (base : Nat) (ds : Text) : Option Nat :=
  match ds.filterMap Text.hexDigit? with
  | [] => none
  | vs => some (Text.valueOf base vs)

/-- A whole number. -/
def whole? (t : Text) : Option Meaning :=
  match wholeForm? (dropSign t).2 with
  | none => none
  | some (base, ds) =>
    match groupValue base ds with
    | none => some (.bad (.noDigits base))
    | some n => some (.value (.int (if (dropSign t).1 then -(n : Int) else n)))

/-- An exponent at the end of a numeral: none when there is none, `some none` when it is malformed. -/
def exponentPart (signed : Bool) : Text → Option Int
  | [] => some 0
  | c :: rest =>
    if c = 'e' || c = 'E' then
      let (negative, ds) := dropSign rest
      if signed && !(rest.head?.any isSign) then none
      else if ds.isEmpty || !ds.all Char.isDigit then none
      else
        let n : Int := Text.valueOf 10 (ds.filterMap Text.hexDigit?)
        some (if negative then -n else n)
    else none

/-- Digits and underscores at the front of a text, and what follows. -/
def spanGroup (t : Text) : Text × Text :=
  (t.takeWhile fun c => c.isDigit || c == '_', t.dropWhile fun c => c.isDigit || c == '_')

/-- Digits before the point, digits after it and the exponent, when the text without its sign is a real numeral. -/
def realForm? (t : Text) : Option (Text × Text × Int) :=
  match t with
  | '.' :: rest =>
    let (frac, tail) := spanGroup rest
    if frac.isEmpty then none else (exponentPart true tail).map fun e => ([], frac, e)
  | c :: _ =>
    if c.isDigit then
      let (int, tail) := spanGroup t
      match tail with
      | '.' :: rest =>
        let (frac, tail') := spanGroup rest
        (exponentPart false tail').map fun e => (int, frac, e)
      | [] => none
      | _ => (exponentPart false tail).map fun e => (int, [], e)
    else none
  | [] => none

/-- The numeral without underscores, in lower case: what a real numeral without a digit is reported as. -/
def bareNumeral (t : Text) : Text := (t.filter (· != '_')).map Char.toLower

def isInfinity (t : Text) : Bool := t == ".inf".toList || t == ".Inf".toList || t == ".INF".toList

def isUndefined (t : Text) : Bool := t == ".nan".toList || t == ".NaN".toList || t == ".NAN".toList

/-- A real number. -/
def real? (t : Text) : Option Meaning :=
  let (negative, body) := dropSign t
  if isInfinity body then some (.value (.real (.infinite negative)))
  else if isUndefined t then some (.value (.real .undefined))
  else
    match realForm? body with
    | none => none
    | some (int, frac, e) =>
      let fs := frac.filterMap Text.hexDigit?
      match int.filterMap Text.hexDigit? ++ fs with
      | [] => some (.bad (.noReal (bareNumeral body)))
      | ds => some (.value (.real (.decimal ⟨negative, Text.valueOf 10 ds, e - fs.length⟩)))

/-! ## Moments -/

/-- From `least` to `most` digits at the front of a text, as many as there are, and what follows. -/
def takeDigits? (least most : Nat) (t : Text) : Option (Nat × Text) :=
  let ds := (t.take most).takeWhile Char.isDigit
  if least ≤ ds.length then some (Text.valueOf 10 (ds.filterMap Text.hexDigit?), t.drop ds.length) else none

def expect? (c : Char) : Text → Option Text
  | x :: rest => if x = c then some rest else none
  | [] => none

def isSpaceTab (c : Char) : Bool := c == ' ' || c == '\t'

/-- Microseconds of a fraction of a second, rounded by its seventh digit; a million of them is a second. -/
def micros (ds : Text) : Nat :=
  let six := Text.valueOf 10 (((ds ++ "000000".toList).take 6).filterMap Text.hexDigit?)
  match (ds.drop 6).head?.bind Text.hexDigit? with
  | some d => if 4 < d then six + 1 else six
  | none => six

/-- The offset at the end of a moment, in seconds; `some none` where there is none. -/
def offset? (t : Text) : Option (Option Int) :=
  match t.dropWhile isSpaceTab with
  | [] => if t.isEmpty then some none else none
  | ['Z'] => some none
  | c :: rest =>
    if isSign c then do
      let (h, rest) ← takeDigits? 1 2 rest
      let m ← match rest with
        | [] => some 0
        | _ => do
          let rest ← expect? ':' rest
          let (m, rest) ← takeDigits? 2 2 rest
          if rest.isEmpty then some m else none
      let n : Int := h * 3600 + m * 60
      return some (if c = '-' then -n else n)
    else none

/-- A time of day with its fraction and offset. -/
def time? (t : Text) : Option (Nat × Nat × Nat × Text × Option Int) := do
  let (h, t) ← takeDigits? 1 2 t
  let t ← expect? ':' t
  let (m, t) ← takeDigits? 2 2 t
  let t ← expect? ':' t
  let (s, t) ← takeDigits? 2 2 t
  let (frac, t) := match t with
    | '.' :: rest => (rest.takeWhile Char.isDigit, rest.dropWhile Char.isDigit)
    | _ => ([], t)
  let o ← offset? t
  return (h, m, s, frac, o)

/-- A date alone has two digits for month and day; before a time one is enough. -/
def moment? (t : Text) : Option (Except MomentError Moment) := do
  let (y, r) ← takeDigits? 4 4 t
  let r ← expect? '-' r
  let (m, r) ← takeDigits? 1 2 r
  let r ← expect? '-' r
  let (d, r) ← takeDigits? 1 2 r
  match r with
  | [] => if t.length = 10 then some ((Date.make y m d).map .date) else none
  | c :: rest =>
    let body ← if c = 'T' || c = 't' then some rest
      else if isSpaceTab c then some (rest.dropWhile isSpaceTab) else none
    let (h, min, s, frac, o) ← time? body
    some do
      let us := micros frac
      let date ← Date.make y m d
      let time ← Moment.timeOfDay h min s (if us = 1000000 then 0 else us)
      let carry : Int := if us = 1000000 then 1 else 0
      match o with
      | none => if carry = 0 then .ok (.dateTime date time) else Moment.shift date time carry
      | some offset => Moment.shift date time (-(offset + carry))

/-! ## The rules together -/

def words : List (String × Value) :=
  [("true", .bool true), ("True", .bool true), ("TRUE", .bool true),
   ("false", .bool false), ("False", .bool false), ("FALSE", .bool false),
   ("~", .null), ("null", .null), ("Null", .null), ("NULL", .null), ("", .null)]

/-- The meaning of a plain scalar. -/
def meaning (t : Text) : Meaning :=
  match words.find? fun w => w.1.toList == t with
  | some (_, v) => .value v
  | none =>
    if t = "<<".toList then .mergeKey
    else if t = "=".toList then .defaultKey
    else if t.head?.any fun c => c.isDigit || isSign c || c == '.' then
      match (if t.head?.any (· == '.') then none else whole? t).orElse fun _ => real? t with
      | some m => m
      | none =>
        match moment? t with
        | some (.ok m) => .value (.moment m)
        | some (.error e) => .bad (.moment e)
        | none => .value (.text t)
    else .value (.text t)

/-- A plain scalar that stands for the text itself. -/
def meansItself (t : Text) : Bool :=
  match meaning t with
  | .value (.text _) => true
  | _ => false

end Yaml
end Scriptwright
