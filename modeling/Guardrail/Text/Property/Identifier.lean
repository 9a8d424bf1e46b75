import Guardrail.Text.Property.Assigned
import Guardrail.Text.Property.Layout

/-!
# Identifiers

The characters that identifiers start with and continue with, and those of the syntax of patterns.
The tables are those of Unicode 16.
-/

namespace Guardrail.Text

/-- Characters with the property `Pattern_Syntax`. -/
def patternSyntaxSet : CharSet := [
  (0x21, 0x2F), (0x3A, 0x40), (0x5B, 0x5E), (0x60, 0x60), (0x7B, 0x7E), (0xA1, 0xA7), (0xA9, 0xA9),
  (0xAB, 0xAC), (0xAE, 0xAE), (0xB0, 0xB1), (0xB6, 0xB6), (0xBB, 0xBB), (0xBF, 0xBF), (0xD7, 0xD7),
  (0xF7, 0xF7), (0x2010, 0x2027), (0x2030, 0x203E), (0x2041, 0x2053), (0x2055, 0x205E),
  (0x2190, 0x245F), (0x2500, 0x2775), (0x2794, 0x2BFF), (0x2E00, 0x2E7F), (0x3001, 0x3003),
  (0x3008, 0x3020), (0x3030, 0x3030), (0xFD3E, 0xFD3F), (0xFE45, 0xFE46)]

/-- Characters with the property `Pattern_White_Space`. -/
def patternBlankSet : CharSet :=
  [(0x9, 0xD), (0x20, 0x20), (0x85, 0x85), (0x200E, 0x200F), (0x2028, 0x2029)]

/-- Characters with the property `Other_ID_Start`. -/
def otherIdStartSet : CharSet :=
  [(0x1885, 0x1886), (0x2118, 0x2118), (0x212E, 0x212E), (0x309B, 0x309C)]

/-- Characters with the property `Other_ID_Continue`. -/
def otherIdContinueSet : CharSet := [
  (0xB7, 0xB7), (0x387, 0x387), (0x1369, 0x1371), (0x19DA, 0x19DA), (0x200C, 0x200D),
  (0x30FB, 0x30FB), (0xFF65, 0xFF65)]

/-- Characters with the property `ID_Start`. -/
def idStartSet : CharSet :=
  ((CharSet.unions [letterSet, letterNumberSet, otherIdStartSet]).diff
    (patternSyntaxSet.union patternBlankSet)).asOf16

/-- Characters with the property `ID_Continue`. -/
def idContinueSet : CharSet :=
  (CharSet.unions [idStartSet, nonspacingMarkSet, spacingMarkSet, decimalSet, connectorSet,
    otherIdContinueSet]).asOf16

/-- Characters that leave the set of those that continue identifiers under normalization. -/
def unstableContinueSet : CharSet := [
  (0x37A, 0x37A), (0x309B, 0x309C), (0xFC5E, 0xFC63), (0xFDFA, 0xFDFB), (0xFE70, 0xFE70),
  (0xFE72, 0xFE72), (0xFE74, 0xFE74), (0xFE76, 0xFE76), (0xFE78, 0xFE78), (0xFE7A, 0xFE7A),
  (0xFE7C, 0xFE7C), (0xFE7E, 0xFE7E)]

/-- Characters that leave the set of those that start identifiers under normalization. -/
def unstableStartSet : CharSet := [
  (0x37A, 0x37A), (0xE33, 0xE33), (0xEB3, 0xEB3), (0x309B, 0x309C), (0xFC5E, 0xFC63),
  (0xFDFA, 0xFDFB), (0xFE70, 0xFE70), (0xFE72, 0xFE72), (0xFE74, 0xFE74), (0xFE76, 0xFE76),
  (0xFE78, 0xFE78), (0xFE7A, 0xFE7A), (0xFE7C, 0xFE7C), (0xFE7E, 0xFE7E), (0xFF9E, 0xFF9F)]

/-- Characters with the property `XID_Start`. -/
def xidStartSet : CharSet := idStartSet.diff unstableStartSet

/-- Characters with the property `XID_Continue`. -/
def xidContinueSet : CharSet := idContinueSet.diff unstableContinueSet

end Guardrail.Text
