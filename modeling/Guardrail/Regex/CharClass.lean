import Guardrail.Text.Blank
import Guardrail.Text.Property.Alphabetic
import Guardrail.Text.Property.CaseChange
import Guardrail.Text.Property.Layout

/-!
# Classes of characters that have a sign or a name in patterns

Digits, blanks and characters of words, of Unicode 16 or of ASCII, and the classes of ASCII that
bracketed names stand for.
-/

namespace Guardrail.CharClass

open Text

/-- Blanks. -/
def blankSet : CharSet := [
  (0x9, 0xD), (0x20, 0x20), (0x85, 0x85), (0xA0, 0xA0), (0x1680, 0x1680), (0x2000, 0x200A),
  (0x2028, 0x2029), (0x202F, 0x202F), (0x205F, 0x205F), (0x3000, 0x3000)]

/-- The set of blanks holds the blank characters. -/
theorem contains_blankSet (c : Char) : blankSet.contains c = isBlank c := by
  unfold blankSet CharSet.contains CharSet.has isBlank
  rw [Bool.eq_iff_iff]
  simp only [List.any_cons, List.any_nil, Bool.or_eq_true, Bool.and_eq_true, decide_eq_true_eq,
    beq_iff_eq, Bool.false_eq_true, or_false]
  omega

/-- The characters that may stand in a word: letters, marks, decimal digits, connectors and
joiners. -/
def wordSet : CharSet :=
  (CharSet.unions [alphabeticSet, markSet, decimalSet, connectorSet, joinControlSet]).asOf16

/-- The characters of ASCII that may stand in a word. -/
def asciiWordSet : CharSet := [(0x30, 0x39), (0x41, 0x5A), (0x5F, 0x5F), (0x61, 0x7A)]

/-- Whether a character may stand in a word. Within ASCII the two classes agree, which is answered
without the tables. -/
def isWord (unicode : Bool) (c : Char) : Bool :=
  if c.toNat < 128 then c.isAlphanum || c == '_' else unicode && wordSet.contains c

/-- Decimal digits of any script, or of ASCII. -/
def digits (unicode : Bool) : CharSet := if unicode then decimalSet.asOf16 else [(0x30, 0x39)]

/-- Blanks of Unicode or of ASCII. -/
def spaces (unicode : Bool) : CharSet := if unicode then blankSet else [(0x9, 0xD), (0x20, 0x20)]

/-- Characters of words, of Unicode or of ASCII. -/
def words (unicode : Bool) : CharSet := if unicode then wordSet else asciiWordSet

/-- The classes of ASCII characters that bracketed names stand for. -/
def posix? : String → Option CharSet
  | "alnum" => some [(0x30, 0x39), (0x41, 0x5A), (0x61, 0x7A)]
  | "alpha" => some [(0x41, 0x5A), (0x61, 0x7A)]
  | "ascii" => some [(0x0, 0x7F)]
  | "blank" => some [(0x9, 0x9), (0x20, 0x20)]
  | "cntrl" => some [(0x0, 0x1F), (0x7F, 0x7F)]
  | "digit" => some [(0x30, 0x39)]
  | "graph" => some [(0x21, 0x7E)]
  | "lower" => some [(0x61, 0x7A)]
  | "print" => some [(0x20, 0x7E)]
  | "punct" => some [(0x21, 0x2F), (0x3A, 0x40), (0x5B, 0x60), (0x7B, 0x7E)]
  | "space" => some [(0x9, 0xD), (0x20, 0x20)]
  | "upper" => some [(0x41, 0x5A)]
  | "word" => some asciiWordSet
  | "xdigit" => some [(0x30, 0x39), (0x41, 0x46), (0x61, 0x66)]
  | _ => none

end Guardrail.CharClass
