import Guardrail.Text.Property.Case
import Guardrail.Text.Property.Prose
import Guardrail.Text.Property.WordBreak

/-!
# Sentences

The classes of characters that decide where a sentence ends (`Sentence_Break`), by their names in
lower case and without underscores, as of Unicode 16.
-/

namespace Guardrail.Text

/-- Characters that extend the character before them. -/
def sentenceExtendSet : CharSet :=
  .unions [graphemeExtendSet.asOf16, spacingMarkSet.asOf16, joinerSet]

/-- Numbers. -/
def sentenceNumericSet : CharSet :=
  .unions [decimalSet.asOf16, [(0x66B, 0x66C)], thamOneSet, numberMarkSet]

/-- Formats, which do not end a sentence. -/
def sentenceFormatSet : CharSet :=
  formatSet.asOf16.diff (.unions [[(0x200C, 0x200D)], sentenceExtendSet, sentenceNumericSet])

/-- Letters of Georgian that have case and are used without it. -/
def uncasedGeorgianSet : CharSet := [(0x10D0, 0x10FA), (0x10FD, 0x10FF)]

/-- The capitals of those letters. -/
def georgianCapitalSet : CharSet := [(0x1C90, 0x1CBA), (0x1CBD, 0x1CBF)]

/-- Lower-case letters of Unicode 16. -/
def sentenceLowerSet : CharSet :=
  (lowercaseSet.asOf16.union [(0x295, 0x295)]).diff
    (graphemeExtendSet.asOf16.union uncasedGeorgianSet)

/-- Upper-case letters of Unicode 16. -/
def sentenceUpperSet : CharSet :=
  (uppercaseSet.asOf16.union titlecaseLetterSet).diff georgianCapitalSet

/-- Letters without case. -/
def sentenceLetterSet : CharSet :=
  (alphabeticSet.asOf16.union [(0x5F3, 0x5F3)]).diff
    (.unions [sentenceLowerSet, sentenceUpperSet, sentenceExtendSet])

/-- Full stops, which may also end an abbreviation. -/
def stopSet : CharSet := [(0x2E, 0x2E), (0x2024, 0x2024), (0xFE52, 0xFE52), (0xFF0E, 0xFF0E)]

/-- Marks that end a sentence and nothing else. -/
def sentenceEndSet : CharSet := sentenceTerminalSet.diff stopSet

/-- Quotation marks that are neither opening nor closing by their category. -/
def quoteOrnamentSet : CharSet := [
  (0x22, 0x22), (0x27, 0x27), (0x275B, 0x2760), (0x2E00, 0x2E01), (0x2E06, 0x2E08),
  (0x2E0B, 0x2E0B), (0x1F676, 0x1F678)]

/-- Brackets and quotation marks. -/
def sentenceCloseSet : CharSet :=
  (CharSet.unions [openingSet.asOf16, closingSet.asOf16, initialQuoteSet, finalQuoteSet,
    quoteOrnamentSet]).diff (stopSet.union sentenceEndSet)

/-- Marks after which a sentence goes on. -/
def clauseMarkSet : CharSet := [
  (0x2C, 0x2D), (0x3A, 0x3B), (0x37E, 0x37E), (0x55D, 0x55D), (0x60C, 0x60D), (0x7F8, 0x7F8),
  (0x1802, 0x1802), (0x1808, 0x1808), (0x2013, 0x2014), (0x3001, 0x3001), (0xFE10, 0xFE11),
  (0xFE13, 0xFE14), (0xFE31, 0xFE32), (0xFE50, 0xFE51), (0xFE54, 0xFE55), (0xFE58, 0xFE58),
  (0xFE63, 0xFE63), (0xFF0C, 0xFF0D), (0xFF1A, 0xFF1B), (0xFF64, 0xFF64)]

/-- Spaces. -/
def sentenceSpaceSet : CharSet := [
  (0x9, 0x9), (0xB, 0xC), (0x20, 0x20), (0xA0, 0xA0), (0x1680, 0x1680), (0x2000, 0x200A),
  (0x202F, 0x202F), (0x205F, 0x205F), (0x3000, 0x3000)]

/-- The class of a name. -/
def sentenceBreak? : String → Option CharSet
  | "aterm" | "at" => some stopSet
  | "close" | "cl" => some sentenceCloseSet
  | "cr" => some (.single '\x0d')
  | "extend" | "ex" => some sentenceExtendSet
  | "format" | "fo" => some sentenceFormatSet
  | "lf" => some (.single '\n')
  | "lower" | "lo" => some sentenceLowerSet
  | "numeric" | "nu" => some sentenceNumericSet
  | "oletter" | "le" => some sentenceLetterSet
  | "scontinue" | "sc" => some clauseMarkSet
  | "sep" | "se" => some [(0x85, 0x85), (0x2028, 0x2029)]
  | "sp" => some sentenceSpaceSet
  | "sterm" | "st" => some sentenceEndSet
  | "upper" | "up" => some sentenceUpperSet
  | _ => none

end Guardrail.Text
