import Scriptwright.Number.Binary64
/-!
# Decimal numerals of real values

A numeral with a point or an exponent is kept as it was written: sign, digits and power of ten.  Shown again, it is the
shortest decimal that reads back as the number of double precision nearest to it, positional from `10 ^ -4` up to below
`10 ^ 16` and with an exponent of at least two digits elsewhere; a whole value keeps `.0`.
-/
namespace Scriptwright
namespace Number

/-- The value `± digits · 10 ^ exponent`. -/
structure Decimal where
  negative : Bool
  digits : Nat
  exponent : Int
  deriving DecidableEq, Repr

/-- A real value: a decimal, an infinity or no number at all. -/
inductive Real where
  | decimal (d : Decimal)
  | infinite (negative : Bool)
  | undefined
  deriving DecidableEq, Repr

namespace Decimal

/-- The nearest number of double precision to the value without its sign; none when it is too large.  The power of ten of
the leading digit decides the values from `10 ^ 310` on and those below `10 ^ -330` without computing them. -/
def nearest? (d : Decimal) : Option Binary64 :=
  let lead : Int := (Nat.toDigits 10 d.digits).length + d.exponent
  if d.digits = 0 || lead < -330 then some ⟨0, -1074⟩
  else if 310 < lead then none
  else
    match d.exponent with
    | .ofNat k => Binary64.ofRatio? (d.digits * Nat.pow 10 k) 1
    | .negSucc k => Binary64.ofRatio? d.digits (Nat.pow 10 (k + 1))

end Decimal

/-- The digits of a whole number with the zeros at its end dropped, and how many there were. -/
def dropZeros : Nat → Nat → Nat → Nat × Nat
  | 0, n, k => (n, k)
  | fuel + 1, n, k => if n ≠ 0 && n % 10 = 0 then dropZeros fuel (n / 10) (k + 1) else (n, k)

/-- The numeral of `digits · 10 ^ exponent`. -/
def layout (digits : Nat) (exponent : Int) : Text :=
  if digits = 0 then "0.0".toList
  else
    let (n, zeros) := dropZeros 400 digits 0
    let ds := Text.ofNat n
    let e : Int := exponent + zeros
    let point : Int := e + ds.length
    if -4 < point && point ≤ 16 then
      if 0 ≤ e then ds ++ List.replicate e.toNat '0' ++ ".0".toList
      else if 0 < point then ds.take point.toNat ++ ['.'] ++ ds.drop point.toNat
      else "0.".toList ++ List.replicate (-point).toNat '0' ++ ds
    else
      let p := point - 1
      let es := Text.ofNat p.natAbs
      let mantissa := match ds with
        | [d] => [d]
        | d :: rest => d :: '.' :: rest
        | [] => []
      mantissa ++ ['e', if p < 0 then '-' else '+'] ++ (if es.length < 2 then '0' :: es else es)

def Real.show : Real → Text
  | .undefined => "nan".toList
  | .infinite negative => (if negative then "-inf" else "inf").toList
  | .decimal d =>
    (if d.negative then ['-'] else []) ++
      match d.nearest? with
      | none => "inf".toList
      | some x => layout x.shortest.1 x.shortest.2

/-- Zero, of either sign. -/
def Real.isZero : Real → Bool
  | .decimal d => d.nearest?.any (·.mantissa == 0)
  | _ => false

end Number
end Scriptwright
