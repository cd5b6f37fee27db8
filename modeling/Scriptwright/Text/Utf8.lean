import Scriptwright.Text.Basic
import Scriptwright.Text.Digit
import Scriptwright.Text.Newline
/-!
# UTF-8

Bytes are read one at a time.  Between two characters nothing is pending; inside one, `Pending` tells how many bytes are
still owed, between which bounds the next one has to lie (the bounds of the second byte exclude overlong forms,
surrogates and code points above U+10FFFF), the value so far and the bytes taken.  A fault names the bytes of the broken
character that were read before the offending one, so that a reader can point at them.

`decode` stops at the first fault; `decodeLossy` writes U+FFFD for it and goes on with the offending byte.
-/
namespace Scriptwright
namespace Utf8

/-- Why bytes are not UTF-8. -/
inductive Reason where
  | badStart
  | badContinuation
  | truncated
  deriving DecidableEq, Repr

/-- The bytes `first, first + 1, …` of a broken character. -/
structure Fault where
  first : Nat
  size : Nat
  byte : UInt8
  reason : Reason
  deriving DecidableEq, Repr

def Reason.message : Reason → Text
  | .badStart => "invalid start byte".toList
  | .badContinuation => "invalid continuation byte".toList
  | .truncated => "unexpected end of data".toList

def Fault.message (f : Fault) : Text :=
  "'utf-8' codec can't decode ".toList ++
    (if f.size = 1 then
      "byte 0x".toList ++ Text.hexLower 2 f.byte.toNat ++ " in position ".toList ++ Text.ofNat f.first
    else
      "bytes in position ".toList ++ Text.ofNat f.first ++ "-".toList ++ Text.ofNat (f.first + f.size - 1)) ++
    ": ".toList ++ f.reason.message

/-! ## Writing -/

def encodeChar (c : Char) : List UInt8 :=
  let n := c.toNat
  if n < 0x80 then [n.toUInt8]
  else if n < 0x800 then [(0xC0 + n / 64).toUInt8, (0x80 + n % 64).toUInt8]
  else if n < 0x10000 then [(0xE0 + n / 4096).toUInt8, (0x80 + n / 64 % 64).toUInt8, (0x80 + n % 64).toUInt8]
  else [(0xF0 + n / 262144).toUInt8, (0x80 + n / 4096 % 64).toUInt8, (0x80 + n / 64 % 64).toUInt8,
    (0x80 + n % 64).toUInt8]

def encode (t : Text) : List UInt8 := t.flatMap encodeChar

/-! ## Reading -/

/-- A character of which some bytes are still owed. -/
structure Pending where
  owed : Nat
  least : Nat
  greatest : Nat
  value : Nat
  lead : UInt8
  size : Nat
  deriving DecidableEq, Repr

/-- What a first byte begins. -/
inductive Start where
  | char (c : Char)
  | pending (p : Pending)
  | bad
  deriving DecidableEq, Repr

def start (b : UInt8) : Start :=
  let n := b.toNat
  if n < 0x80 then .char (Char.ofNat n)
  else if n < 0xC2 then .bad
  else if n < 0xE0 then .pending ⟨1, 0x80, 0xBF, n - 0xC0, b, 1⟩
  else if n = 0xE0 then .pending ⟨2, 0xA0, 0xBF, 0, b, 1⟩
  else if n = 0xED then .pending ⟨2, 0x80, 0x9F, 13, b, 1⟩
  else if n < 0xF0 then .pending ⟨2, 0x80, 0xBF, n - 0xE0, b, 1⟩
  else if n = 0xF0 then .pending ⟨3, 0x90, 0xBF, 0, b, 1⟩
  else if n < 0xF4 then .pending ⟨3, 0x80, 0xBF, n - 0xF0, b, 1⟩
  else if n = 0xF4 then .pending ⟨3, 0x80, 0x8F, 4, b, 1⟩
  else .bad

/-- What a byte within its bounds makes of a pending character. -/
def Pending.extend (p : Pending) (b : UInt8) : Start :=
  let v := p.value * 64 + (b.toNat - 0x80)
  if p.owed ≤ 1 then .char (Char.ofNat v)
  else .pending ⟨p.owed - 1, 0x80, 0xBF, v, p.lead, p.size + 1⟩

def Pending.accepts (p : Pending) (b : UInt8) : Bool := p.least ≤ b.toNat && b.toNat ≤ p.greatest

/-- Reads from position `pos` on, with `pending` the character begun before it. -/
def decodeFrom : Option Pending → Nat → List UInt8 → Except Fault Text
  | none, _, [] => .ok []
  | some p, pos, [] => .error ⟨pos - p.size, p.size, p.lead, .truncated⟩
  | none, pos, b :: bs =>
    match start b with
    | .char c => (decodeFrom none (pos + 1) bs).map (c :: ·)
    | .pending p => decodeFrom (some p) (pos + 1) bs
    | .bad => .error ⟨pos, 1, b, .badStart⟩
  | some p, pos, b :: bs =>
    if p.accepts b then
      match p.extend b with
      | .char c => (decodeFrom none (pos + 1) bs).map (c :: ·)
      | .pending p' => decodeFrom (some p') (pos + 1) bs
      | .bad => .error ⟨pos, 1, b, .badStart⟩
    else .error ⟨pos - p.size, p.size, p.lead, .badContinuation⟩

def decode (bs : List UInt8) : Except Fault Text := decodeFrom none 0 bs

/-- The character that stands for what could not be read. -/
def replacement : Char := Char.ofNat 0xFFFD

def lossyFrom : Option Pending → List UInt8 → Text
  | none, [] => []
  | some _, [] => [replacement]
  | none, b :: bs =>
    match start b with
    | .char c => c :: lossyFrom none bs
    | .pending p => lossyFrom (some p) bs
    | .bad => replacement :: lossyFrom none bs
  | some p, b :: bs =>
    if p.accepts b then
      match p.extend b with
      | .char c => c :: lossyFrom none bs
      | .pending p' => lossyFrom (some p') bs
      | .bad => replacement :: lossyFrom none bs
    else
      replacement ::
        match start b with
        | .char c => c :: lossyFrom none bs
        | .pending p' => lossyFrom (some p') bs
        | .bad => replacement :: lossyFrom none bs

def decodeLossy (bs : List UInt8) : Text := lossyFrom none bs

/-! ## Text files -/

/-- The bytes of the byte order mark. -/
def markBytes : List UInt8 := [0xEF, 0xBB, 0xBF]

/-- A text file: its line ends are unified. -/
def readText (bs : List UInt8) : Except Fault Text := (decode bs).map Text.unifyNewlines

/-- A text file that may begin with one byte order mark, which is dropped.  Positions count from after it, and a file that
breaks off inside the mark is empty. -/
def readMarkedText (bs : List UInt8) : Except Fault Text :=
  if markBytes.isPrefixOf bs then readText (bs.drop 3)
  else if bs.length < 3 && bs.isPrefixOf markBytes then .ok []
  else readText bs

end Utf8
end Scriptwright
