import Guardrail.Text.Property.Alphabetic
import Guardrail.Text.Property.Numeric

/-!
# Letters and numbers

A character is alphanumeric if it is alphabetic or numeric.
-/

namespace Guardrail.Text

/-- Whether a character is a letter or a number of some script. -/
def isAlphanumeric (c : Char) : Bool := isAlphabetic c || isNumeric c

end Guardrail.Text
