import Scriptwright.Value.Basic
import Scriptwright.Text.Digit
import Scriptwright.Text.Printable
/-!
# Values in messages

A message shows a value either plainly or quoted.  They differ for texts and moments only: plainly a text is itself,
quoted it stands in single quotes, or in double quotes if it has a single quote and no double one; the quote used, the
backslash and the characters without a printed form are escaped.  Inside a list or a mapping everything is quoted.  A
whole number of more than `maxDigits` digits cannot be shown, nor anything that holds one.
-/
namespace Scriptwright
namespace Value

/-- The escape of one character between the quotes `q`. -/
def escapeChar (q : Char) (c : Char) : Text :=
  if c = q || c = '\\' then ['\\', c]
  else if c = '\n' then ['\\', 'n']
  else if c = '\r' then ['\\', 'r']
  else if c = '\t' then ['\\', 't']
  else if Text.isPrintable c then [c]
  else if c.toNat < 0x100 then '\\' :: 'x' :: Text.hexLower 2 c.toNat
  else if c.toNat < 0x10000 then '\\' :: 'u' :: Text.hexLower 4 c.toNat
  else '\\' :: 'U' :: Text.hexLower 8 c.toNat

/-- The text between quotes. -/
def quoteText (t : Text) : Text :=
  let q := if t.contains '\'' && !t.contains '"' then '"' else '\''
  q :: t.flatMap (escapeChar q) ++ [q]

mutual

/-- The value quoted. -/
def quote : Value → Text
  | .null => "None".toList
  | .bool b => (if b then "True" else "False").toList
  | .int n => Text.ofInt n
  | .real r => r.show
  | .moment m => m.constructor
  | .text t => quoteText t
  | .list items => '[' :: quoteItems items ++ [']']
  | .map entries => '\x7b' :: quoteEntries entries ++ ['\x7d']

def quoteItems : List Value → Text
  | [] => []
  | [v] => quote v
  | v :: vs => quote v ++ ", ".toList ++ quoteItems vs

/-- A key quoted; a list that serves as a key is shown in parentheses, with a comma after a single item. -/
def quoteKey : Value → Text
  | .list [v] => '(' :: quote v ++ ",)".toList
  | .list items => '(' :: quoteItems items ++ [')']
  | v => quote v

def quoteEntries : List (Value × Value) → Text
  | [] => []
  | [(k, v)] => quoteKey k ++ ": ".toList ++ quote v
  | (k, v) :: es => quoteKey k ++ ": ".toList ++ quote v ++ ", ".toList ++ quoteEntries es

end

/-- The most digits that a whole number is shown with, unless another limit is set. -/
def maxDigits : Nat := 4300

/-- The whole number has no more digits than the limit; a limit of zero is none. -/
def fitsDigits (limit : Nat) (n : Int) : Bool := limit = 0 || (Text.ofNat n.natAbs).length ≤ limit

/-- What is said of a whole number that has more. -/
def digitsMessage (limit : Nat) : Text :=
  "Exceeds the limit (".toList ++ Text.ofNat limit ++
    " digits) for integer string conversion; use sys.set_int_max_str_digits() to increase the limit".toList

mutual

/-- Every whole number in the value can be shown.  The depth of the value does not matter: the limit that a stack sets to
it, at about a thousand levels, is left out. -/
def isShowable : Value → Bool
  | .int n => fitsDigits maxDigits n
  | .list items => areShowable items
  | .map entries => entriesShowable entries
  | _ => true

def areShowable : List Value → Bool
  | [] => true
  | v :: vs => isShowable v && areShowable vs

def entriesShowable : List (Value × Value) → Bool
  | [] => true
  | (k, v) :: es => isShowable k && isShowable v && entriesShowable es

end

/-- The value plainly. -/
def plain : Value → Text
  | .text t => t
  | .moment m => m.plain
  | v => quote v

/-- A key plainly. -/
def plainKey : Value → Text
  | .list items => quoteKey (.list items)
  | v => plain v

end Value
end Scriptwright
