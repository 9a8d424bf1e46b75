import Guardrail.Text.Property.Assigned

/-!
# Characters shown as themselves

A quoted text shows a character as itself unless it is a control, a format or separator character,
unassigned or private (general categories `Cc`, `Cf`, `Cs`, `Co`, `Cn`, `Zl`, `Zp`, `Zs` except the
plain space), extends the character before it (`Grapheme_Extend`), or fills the place of a Hangul
letter. The halfwidth sound marks of Katakana extend the character before them but are letters, and
are shown.
-/

namespace Guardrail.Text

/-- The fillers of Hangul, which have no form of their own. -/
def fillerSet : CharSet := [(0x115F, 0x1160), (0x3164, 0x3164), (0xFFA0, 0xFFA0)]

/-- Characters that are not shown as themselves although they have a form. -/
def attachedSet : CharSet := (graphemeExtendSet.diff modifierLetterSet).union fillerSet

/-- Characters shown as themselves. -/
def graphicSet : CharSet := shapedSet.diff attachedSet

/-- Whether a character has a visible form of its own. -/
def isGraphic (c : Char) : Bool :=
  if c.toNat < 128 then 32 ≤ c.toNat && c.toNat < 127 else graphicSet.contains c

end Guardrail.Text
