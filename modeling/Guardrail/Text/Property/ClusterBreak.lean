import Guardrail.Text.Property.Emoji
import Guardrail.Text.Property.Layout
import Guardrail.Text.Property.Modifier

/-!
# Clusters of characters

The classes of characters that decide where a cluster of characters ends, which a reader takes for
one (`Grapheme_Cluster_Break`), by their names in lower case and without underscores, as of Unicode
16.
-/

namespace Guardrail.Text

/-- Characters that extend the cluster before them. -/
def clusterExtendSet : CharSet := graphemeExtendSet.asOf16.union emojiModifierSet

/-- The joiner of zero width. -/
def joinerSet : CharSet := [(0x200D, 0x200D)]

/-- Controls, formats, separators of lines and ignorable characters that are not assigned, which
stand alone. -/
def clusterControlSet : CharSet :=
  (CharSet.unions [lineSeparatorSet, paragraphSeparatorSet, controlSet, formatSet.asOf16,
    ignorableSet.diff assignedSet.asOf16]).diff
    (.unions [[(0xA, 0xA), (0xD, 0xD), (0x200C, 0x200D)], prependedSet, graphemeExtendSet.asOf16])

/-- Spacing marks that do not extend a cluster. -/
def detachedMarkSet : CharSet := [
  (0x102B, 0x102C), (0x1038, 0x1038), (0x1062, 0x1064), (0x1067, 0x106D), (0x1083, 0x1083),
  (0x1087, 0x108C), (0x108F, 0x108F), (0x109A, 0x109C), (0x1A61, 0x1A61), (0x1A63, 0x1A64),
  (0xAA7B, 0xAA7B), (0xAA7D, 0xAA7D), (0x11720, 0x11721)]

/-- Spacing marks that extend a cluster. -/
def clusterSpacingSet : CharSet :=
  (spacingMarkSet.asOf16.union [(0xE33, 0xE33), (0xEB3, 0xEB3)]).diff
    (detachedMarkSet.union graphemeExtendSet.asOf16)

/-- Letters that belong to the cluster after them. -/
def leadingLetterSet : CharSet := [
  (0xD4E, 0xD4E), (0x111C2, 0x111C3), (0x113D1, 0x113D1), (0x1193F, 0x1193F), (0x11941, 0x11941),
  (0x11A3A, 0x11A3A), (0x11A84, 0x11A89), (0x11D46, 0x11D46), (0x11F02, 0x11F02)]

/-- Hangul letters that start a syllable. -/
def leadingJamoSet : CharSet := [(0x1100, 0x115F), (0xA960, 0xA97C)]

/-- Vowels that are written after another letter of a syllable. -/
def vowelJamoSet : CharSet :=
  [(0x1160, 0x11A7), (0xD7B0, 0xD7C6), (0x16D63, 0x16D63), (0x16D67, 0x16D6A)]

/-- Hangul letters that end a syllable. -/
def trailingJamoSet : CharSet := [(0x11A8, 0x11FF), (0xD7CB, 0xD7FB)]

/-- Hangul syllables without a last letter. -/
def openSyllableSet : CharSet := .ofSteps [(0xAC00, 0xD788, 28)]

/-- Hangul syllables with a last letter. -/
def closedSyllableSet : CharSet := CharSet.diff [(0xAC00, 0xD7A3)] openSyllableSet

/-- The class of a name. -/
def clusterBreak? : String → Option CharSet
  | "control" | "cn" => some clusterControlSet
  | "cr" => some (.single '\x0d')
  | "extend" | "ex" => some clusterExtendSet
  | "l" => some leadingJamoSet
  | "lf" => some (.single '\n')
  | "lv" => some openSyllableSet
  | "lvt" => some closedSyllableSet
  | "prepend" | "pp" => some (prependedSet.union leadingLetterSet)
  | "regionalindicator" | "ri" => some regionalIndicatorSet
  | "spacingmark" | "sm" => some clusterSpacingSet
  | "t" => some trailingJamoSet
  | "v" => some vowelJamoSet
  | "zwj" => some joinerSet
  | _ => none

end Guardrail.Text
