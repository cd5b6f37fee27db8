import Scriptwright.Text.Basic
/-!
# Decimal digits

Each script's ten decimal digits stand in a row, zero first, so a digit's value is its distance from the zero of its row.
-/
namespace Scriptwright
namespace Text

/-- The zeros of the rows of decimal digits. -/
def digitZeros : List Nat :=
  [0x0030, 0x0660, 0x06F0, 0x07C0, 0x0966, 0x09E6, 0x0A66, 0x0AE6, 0x0B66, 0x0BE6, 0x0C66, 0x0CE6, 0x0D66, 0x0DE6,
   0x0E50, 0x0ED0, 0x0F20, 0x1040, 0x1090, 0x17E0, 0x1810, 0x1946, 0x19D0, 0x1A80, 0x1A90, 0x1B50, 0x1BB0,
   0x1C40, 0x1C50, 0xA620, 0xA8D0, 0xA900, 0xA9D0, 0xA9F0, 0xAA50, 0xABF0, 0xFF10, 0x104A0, 0x10D30, 0x11066,
   0x110F0, 0x11136, 0x111D0, 0x112F0, 0x11450, 0x114D0, 0x11650, 0x116C0, 0x11730, 0x118E0, 0x11950, 0x11C50,
   0x11D50, 0x11DA0, 0x16A60, 0x16AC0, 0x16B50, 0x1D7CE, 0x1D7D8, 0x1D7E2, 0x1D7EC, 0x1D7F6, 0x1E140, 0x1E2F0,
   0x1E950, 0x1FBF0]

/-- The value of a decimal digit of any script. -/
def digit? (c : Char) : Option Nat :=
  (digitZeros.find? fun z => z ≤ c.toNat && c.toNat < z + 10).map fun z => c.toNat - z

/-- The value of a digit of base sixteen. -/
def hexDigit? (c : Char) : Option Nat :=
  if '0' ≤ c && c ≤ '9' then some (c.toNat - 48)
  else if 'a' ≤ c && c ≤ 'f' then some (c.toNat - 87)
  else if 'A' ≤ c && c ≤ 'F' then some (c.toNat - 55)
  else none

/-- The value of the digits in the given base, none counting as zero. -/
def valueOf (base : Nat) (ds : List Nat) : Nat := ds.foldl (fun n d => n * base + d) 0

/-- `n` in base sixteen with at least `width` digits, in lower case. -/
def hexLower (width n : Nat) : Text :=
  let ds := Nat.toDigits 16 n
  List.replicate (width - ds.length) '0' ++ ds

/-- `n` in base sixteen with at least `width` digits, in upper case. -/
def hexUpper (width n : Nat) : Text := (hexLower width n).map Char.toUpper

/-- Digits with a single underscore allowed between two of them. -/
def groupedDigits? : Text → Option (List Nat)
  | [] => none
  | [c] => (digit? c).map ([·])
  | c :: '_' :: rest => (digit? c).bind fun d => (groupedDigits? rest).map (d :: ·)
  | c :: rest => (digit? c).bind fun d => (groupedDigits? rest).map (d :: ·)

/-- A whole number with an optional sign, its digits of any script and grouped by single underscores. -/
def int? : Text → Option Int
  | '-' :: rest => (groupedDigits? rest).map fun ds => -(valueOf 10 ds : Int)
  | '+' :: rest => (groupedDigits? rest).map fun ds => (valueOf 10 ds : Int)
  | t => (groupedDigits? t).map fun ds => (valueOf 10 ds : Int)

end Text
end Scriptwright
