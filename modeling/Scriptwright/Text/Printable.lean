import Scriptwright.Text.Basic
import Scriptwright.Text.Ranges
import Scriptwright.Text.Printable.Table
/-!
# Printable characters

The characters that a quoted text shows as they are.  The space is the only separator among them.
-/
namespace Scriptwright
namespace Text

def isPrintable (c : Char) : Bool :=
  if c.toNat < 0x80 then 0x20 ≤ c.toNat && c.toNat < 0x7F else !covers unprintableRanges c.toNat

end Text
end Scriptwright
