import Guardrail.Text.CharSet

/-!
# Sets of characters as sequences of bytes

A range of characters is the union of finitely many products of ranges of bytes, since a byte of
UTF-8 after the first takes on all its values before the byte in front of it moves on.
-/

namespace Guardrail.Text

/-- The bytes of the UTF-8 form of a code point. -/
def utf8Bytes (n : Nat) : List Nat :=
  if n < 0x80 then [n]
  else if n < 0x800 then [0xC0 + n / 0x40, 0x80 + n % 0x40]
  else if n < 0x10000 then [0xE0 + n / 0x1000, 0x80 + n / 0x40 % 0x40, 0x80 + n % 0x40]
  else
    [0xF0 + n / 0x40000, 0x80 + n / 0x1000 % 0x40, 0x80 + n / 0x40 % 0x40, 0x80 + n % 0x40]

/-- Inclusive ranges of bytes, one after another. -/
abbrev ByteSequence := List (Nat × Nat)

/-- The place after which a range must be cut because the number of bytes changes. -/
def lengthCut? (first last : Nat) : Option Nat :=
  [0x7F, 0x7FF, 0xFFFF].find? fun n => first ≤ n && n < last

/-- The place after which a range must be cut because it covers only part of what follows a byte, if
`block` characters can follow one. -/
def blockCut? (first last block : Nat) : Option Nat :=
  if first / block = last / block then none
  else if first % block ≠ 0 then some (first / block * block + (block - 1))
  else if last % block ≠ block - 1 then some (last / block * block - 1)
  else none

/-- The place after which a range must be cut. -/
def cut? (first last : Nat) : Option Nat :=
  (lengthCut? first last).or
    (if last ≤ 0x7F then none else [0x40, 0x1000, 0x40000].findSome? (blockCut? first last))

/-- The products of ranges of bytes that a range of characters is the union of, in order. -/
def sequences (first last : Nat) : List ByteSequence :=
  match cut? first last with
  | none => [(utf8Bytes first).zip (utf8Bytes last)]
  | some n =>
    if _ : first ≤ n ∧ n < last then sequences first n ++ sequences (n + 1) last
    else [(utf8Bytes first).zip (utf8Bytes last)]
termination_by last - first

/-- The products of ranges of bytes that a set is the union of, in order. -/
def CharSet.sequences (set : CharSet) : List ByteSequence :=
  (set.diff surrogates).flatMap fun r => Text.sequences r.1 r.2

end Guardrail.Text
