import Scriptwright.Yaml.Scalar
/-!
# Scalar styles

A text is written plainly where that reads back as the same text, in single quotes where nothing has to be escaped, and
in double quotes elsewhere; a text with an apostrophe or a line feed is never in single quotes.
-/
namespace Scriptwright
namespace Yaml

/-- The characters that break a line. -/
def isBreak (c : Char) : Bool := c == '\n' || c.toNat == 0x85 || c.toNat == 0x2028 || c.toNat == 0x2029

/-- What may stand around an indicator: a blank of this format or a line break. -/
def isSpacing (c : Char) : Bool := c == '\x00' || c == ' ' || c == '\t' || c == '\r' || isBreak c

/-- What can stand in a document as it is, within double quotes too. -/
def isPlainChar (c : Char) : Bool :=
  let n := c.toNat
  (0x20 ≤ n && n ≤ 0x7E) || (0xA0 ≤ n && n ≤ 0xD7FF) || (0xE000 ≤ n && n ≤ 0xFFFD && n != 0xFEFF) || 0x10000 ≤ n

/-- What has to be escaped in any style. -/
def isSpecial (c : Char) : Bool := !(isPlainChar c || c == '\n' || c.toNat == 0x85)

/-- The characters a plain scalar never begins with. -/
def isIndicator (c : Char) : Bool := "#,[]\x7b\x7d&*!|>'\"%@\x60".toList.contains c

/-- An indicator that is one only before spacing. -/
def isWeakIndicator (c : Char) : Bool := c == '?' || c == ':' || c == '-'

def startsSpacing : Text → Bool
  | [] => true
  | c :: _ => isSpacing c

/-- A colon before spacing, or a number sign after it, where `spaced` tells that spacing stands before the text. -/
def hasInnerIndicator : Bool → Text → Bool
  | _, [] => false
  | spaced, c :: rest =>
    (c == ':' && startsSpacing rest) || (c == '#' && spaced) || hasInnerIndicator (isSpacing c) rest

/-- The text may be written without quotes. -/
def allowsPlain (t : Text) : Bool :=
  match t with
  | [] => false
  | c :: rest =>
    !(t.startsWith "---".toList || t.startsWith "...".toList || isIndicator c ||
      (isWeakIndicator c && startsSpacing rest) || hasInnerIndicator (isSpacing c) rest || t.any isBreak ||
      c == ' ' || t.getLast? == some ' ' || t.any isSpecial) && meansItself t

/-- A space directly before or after a line break. -/
def hasSpaceAtBreak : Text → Bool
  | a :: b :: rest => (isBreak a && b == ' ') || (a == ' ' && isBreak b) || hasSpaceAtBreak (b :: rest)
  | _ => false

/-- The text may be written in single quotes. -/
def allowsSingle (t : Text) : Bool :=
  !(t.contains '\'' || t.contains '\n' || t.any isSpecial || hasSpaceAtBreak t)

/-- Each run of line breaks followed by the indentation of the next line. -/
def indentBreaks (indent : Nat) : Text → Text
  | [] => []
  | [c] => if isBreak c then c :: List.replicate indent ' ' else [c]
  | c :: d :: rest =>
    if isBreak c && !isBreak d then c :: List.replicate indent ' ' ++ indentBreaks indent (d :: rest)
    else c :: indentBreaks indent (d :: rest)

def writeSingle (indent : Nat) (t : Text) : Text := '\'' :: indentBreaks indent t ++ ['\'']

/-- The letter of a short escape. -/
def escapeLetter? (c : Char) : Option Char :=
  if c = '\x00' then some '0'
  else if c = '\x07' then some 'a'
  else if c = '\x08' then some 'b'
  else if c = '\t' then some 't'
  else if c = '\n' then some 'n'
  else if c = '\x0b' then some 'v'
  else if c = '\x0c' then some 'f'
  else if c = '\r' then some 'r'
  else if c = '\x1b' then some 'e'
  else if c = '"' then some '"'
  else if c = '\\' then some '\\'
  else if c.toNat = 0x85 then some 'N'
  else if c.toNat = 0x2028 then some 'L'
  else if c.toNat = 0x2029 then some 'P'
  else none

/-- One character within double quotes. -/
def escapeChar (c : Char) : Text :=
  match escapeLetter? c with
  | some l => ['\\', l]
  | none =>
    if isPlainChar c then [c]
    else if c.toNat ≤ 0xFF then '\\' :: 'x' :: Text.hexUpper 2 c.toNat
    else if c.toNat ≤ 0xFFFF then '\\' :: 'u' :: Text.hexUpper 4 c.toNat
    else '\\' :: 'U' :: Text.hexUpper 8 c.toNat

def writeDouble (t : Text) : Text := '"' :: t.flatMap escapeChar ++ ['"']

/-- The text in the style that suits it; `indent` is the indentation of its further lines. -/
def writeText (indent : Nat) (t : Text) : Text :=
  if allowsPlain t then t
  else if allowsSingle t then writeSingle indent t
  else writeDouble t

end Yaml
end Scriptwright
