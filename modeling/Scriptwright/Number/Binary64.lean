import Scriptwright.Text.Basic
/-!
# Numbers of double precision

A number of double precision is `mantissa · 2 ^ exponent` with a mantissa below `2 ^ 53` and an exponent from −1074 to
971.  Rounding a quotient to the nearest such number, a half going to the even mantissa, is done in whole numbers, so
that the result is exact on every machine; so are writing one with a fixed number of places and finding the fewest
digits that read back as it.
-/
namespace Scriptwright
namespace Number

/-- A number of double precision without its sign. -/
structure Binary64 where
  mantissa : Nat
  exponent : Int
  deriving DecidableEq, Repr

/-- `num / den` to the nearest whole number, a half to the even one. -/
def roundDiv (num den : Nat) : Nat :=
  let q := num / den
  let r := num % den
  if 2 * r < den then q
  else if den < 2 * r then q + 1
  else if q % 2 = 0 then q else q + 1

/-- `num / (den · base ^ e)` as a fraction. -/
def scaleDown (base num den : Nat) (e : Int) : Nat × Nat :=
  match e with
  | .ofNat k => (num, den * Nat.pow base k)
  | .negSucc k => (num * Nat.pow base (k + 1), den)

namespace Binary64

/-- The exponent at which `num / den` has a mantissa of 53 binary digits, or the least exponent. -/
def exponentFor (num den : Nat) : Int :=
  let guess : Int := (Nat.log2 num : Int) - (Nat.log2 den : Int) - 52
  let (n, d) := scaleDown 2 num den guess
  let e := if n < d * Nat.pow 2 52 then guess - 1 else guess
  max e (-1074)

/-- The nearest number to `num / den`; none when it is too large. -/
def ofRatio? (num den : Nat) : Option Binary64 :=
  if num = 0 then some ⟨0, -1074⟩
  else
    let e := exponentFor num den
    let (n, d) := scaleDown 2 num den e
    let m := roundDiv n d
    let r : Binary64 := if m = Nat.pow 2 53 then ⟨Nat.pow 2 52, e + 1⟩ else ⟨m, e⟩
    if 971 < r.exponent then none else some r

/-- The nearest number to `num / den`, for quotients far below the greatest number. -/
def ofRatio (num den : Nat) : Binary64 := (ofRatio? num den).getD ⟨0, -1074⟩

/-- The value as a fraction. -/
def fraction (x : Binary64) : Nat × Nat :=
  match x.exponent with
  | .ofNat k => (x.mantissa * Nat.pow 2 k, 1)
  | .negSucc k => (x.mantissa, Nat.pow 2 (k + 1))

/-- The nearest number to `k · x`. -/
def times (k : Nat) (x : Binary64) : Binary64 := ofRatio (k * x.fraction.1) x.fraction.2

/-- Whole part, point and `places` digits, rounded from the exact value. -/
def toFixed (places : Nat) (x : Binary64) : Text :=
  let n := roundDiv (x.fraction.1 * Nat.pow 10 places) x.fraction.2
  let frac := Text.ofNat (n % Nat.pow 10 places)
  Text.ofNat (n / Nat.pow 10 places) ++ ['.'] ++ List.replicate (places - frac.length) '0' ++ frac

/-- The whole part of the value. -/
def floor (x : Binary64) : Nat := x.fraction.1 / x.fraction.2

/-! ## The fewest digits that read back -/

/-- The least `k` from `k₀` on with `den ≤ num · 10 ^ k`. -/
def leadingZeros (num den : Nat) : Nat → Nat → Nat
  | 0, k => k
  | fuel + 1, k => if den ≤ num * Nat.pow 10 k then k else leadingZeros num den fuel (k + 1)

/-- The greatest `k` with `10 ^ k ≤ num / den`. -/
def decimalExponent (num den : Nat) : Int :=
  if den ≤ num then ((Nat.toDigits 10 (num / den)).length : Int) - 1
  else -(leadingZeros num den 400 1 : Int)

/-- Whether `digits · 10 ^ e` rounds to `x`. -/
def readsBack (x : Binary64) (digits : Nat) (e : Int) : Bool :=
  let (n, d) := match e with
    | .ofNat k => (digits * Nat.pow 10 k, 1)
    | .negSucc k => (digits, Nat.pow 10 (k + 1))
  ofRatio? n d == some x

/-- The nearest of the decimals with `count` digits that read back as `x`, as digits and exponent. -/
def withDigits? (x : Binary64) (count : Nat) : Option (Nat × Int) :=
  let (num, den) := x.fraction
  let e := decimalExponent num den - (count : Int) + 1
  let (n, d) := scaleDown 10 num den e
  let near := roundDiv n d
  let far := if near * d ≤ n then near + 1 else near - 1
  if readsBack x near e then some (near, e)
  else if readsBack x far e then some (far, e)
  else none

/-- Digits and exponent of the shortest decimal that reads back as `x`. -/
def shortest (x : Binary64) : Nat × Int :=
  if x.mantissa = 0 then (0, 0)
  else ((List.range 17).findSome? fun k => withDigits? x (k + 1)).getD (0, 0)

end Binary64
end Number
end Scriptwright
