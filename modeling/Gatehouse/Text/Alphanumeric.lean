import Gatehouse.Text.Quoted
import Gatehouse.Text.Table.Alphanumeric

/-!
# Letters and numbers

The characters that a user name may hold, in any script.
-/

namespace Gatehouse.Text

/-- A letter or a number of any script. -/
def isAlphanumeric (c : Char) : Bool := inRuns Table.alphanumericRanges c.toNat

end Gatehouse.Text
