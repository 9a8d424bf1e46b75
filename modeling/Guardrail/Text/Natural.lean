/-!
# Natural numbers in text

A natural number is read from ASCII decimal digits, of which leading ones may be zero, after at most
one plus sign. Nothing else may stand beside them, and the number must fit a given width.
-/

namespace Guardrail.Text

/-- The number written by ASCII digits, if there is one and nothing else. -/
def natOfDigits? (cs : List Char) : Option Nat :=
  if cs.isEmpty ∨ !cs.all Char.isDigit then none
  else some (cs.foldl (fun n c => n * 10 + (c.toNat - '0'.toNat)) 0)

/-- The number below `2 ^ bits` that a text stands for. -/
def nat? (bits : Nat) (cs : List Char) : Option Nat :=
  let digits := match cs with
    | '+' :: rest => rest
    | cs => cs
  (natOfDigits? digits).bind fun n => if n < Nat.pow 2 bits then some n else none

end Guardrail.Text
