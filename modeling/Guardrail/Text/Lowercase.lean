import Guardrail.Text.Property.Case

/-!
# Lower case

The lower-case form of a text. Every character goes to its own lower-case form, except that a
capital sigma that ends a word becomes the final small sigma.
-/

namespace Guardrail.Text

/-- The lower-case form of a character that stands alone. One character has a form of two. -/
def lowerChar (c : Char) : List Char :=
  if c.toNat < 128 then [c.toLower]
  else if c.toNat = 0x130 then ['i', Char.ofNat 0x307]
  else [Char.ofNat (lowercaseRuns.apply c.toNat)]

/-- Whether a text starts with a cased character, case-ignorable ones before it apart. -/
def startsCased (cs : List Char) : Bool :=
  match cs.dropWhile isCaseIgnorable with
  | [] => false
  | c :: _ => isCased c

/-- The lower-case form of the rest of a text, given the characters before it in reverse. -/
def lowerAfter (before : List Char) : List Char → List Char
  | [] => []
  | c :: rest =>
    let lowered :=
      if c.toNat = 0x3A3 then
        [Char.ofNat (if startsCased before && !startsCased rest then 0x3C2 else 0x3C3)]
      else lowerChar c
    lowered ++ lowerAfter (c :: before) rest

/-- The lower-case form of a text. -/
def toLowercase (s : String) : String := String.ofList (lowerAfter [] s.toList)

end Guardrail.Text
