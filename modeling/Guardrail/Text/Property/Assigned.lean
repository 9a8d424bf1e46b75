import Guardrail.Text.Property.Format
import Guardrail.Text.Property.Letter
import Guardrail.Text.Property.Mark
import Guardrail.Text.Property.Numeric
import Guardrail.Text.Property.Punctuation
import Guardrail.Text.Property.Symbol

/-!
# Assigned characters

Every assigned character has one of the general categories. Unicode 17 is the version of the tables;
the characters that it was the first to assign are listed here, so that the sets of Unicode 16 can
be had too.
-/

namespace Guardrail.Text

/-- Characters of the categories `L`, `M`, `N`, `P` and `S`, which have a form. -/
def shapedSet : CharSet := .unions [letterSet, markSet, numericSet, punctuationSet, symbolSet]

/-- Assigned characters. -/
def assignedSet : CharSet :=
  .unions [shapedSet, separatorSet, controlSet, formatSet, privateUseSet]

/-- Characters that Unicode 17 was the first to assign. -/
def addedIn17Set : CharSet := [
  (0x88F, 0x88F), (0xC5C, 0xC5C), (0xCDC, 0xCDC), (0x1ACF, 0x1ADD), (0x1AE0, 0x1AEB),
  (0x20C1, 0x20C1), (0x2B96, 0x2B96), (0xA7CE, 0xA7CF), (0xA7D2, 0xA7D2), (0xA7D4, 0xA7D4),
  (0xA7F1, 0xA7F1), (0xFBC3, 0xFBD2), (0xFD90, 0xFD91), (0xFDC8, 0xFDCE), (0x10940, 0x10959),
  (0x10EC5, 0x10EC7), (0x10ED0, 0x10ED8), (0x10EFA, 0x10EFB), (0x11B60, 0x11B67),
  (0x11DB0, 0x11DDB), (0x11DE0, 0x11DE9), (0x16EA0, 0x16EB8), (0x16EBB, 0x16ED3),
  (0x16FF2, 0x16FF6), (0x187F8, 0x187FF), (0x18D09, 0x18D1E), (0x18D80, 0x18DF2),
  (0x1CCFA, 0x1CCFC), (0x1CEBA, 0x1CED0), (0x1CEE0, 0x1CEF0), (0x1E6C0, 0x1E6DE),
  (0x1E6E0, 0x1E6F5), (0x1E6FE, 0x1E6FF), (0x1F6D8, 0x1F6D8), (0x1F777, 0x1F77A),
  (0x1F8D0, 0x1F8D8), (0x1FA54, 0x1FA57), (0x1FA8A, 0x1FA8A), (0x1FA8E, 0x1FA8E),
  (0x1FAC8, 0x1FAC8), (0x1FACD, 0x1FACD), (0x1FAEA, 0x1FAEA), (0x1FAEF, 0x1FAEF),
  (0x1FBFA, 0x1FBFA), (0x2B73A, 0x2B73F), (0x2CEA2, 0x2CEAD), (0x323B0, 0x33479)]

/-- The characters of a set that Unicode 16 assigned. -/
def CharSet.asOf16 (set : CharSet) : CharSet := set.diff addedIn17Set

end Guardrail.Text
