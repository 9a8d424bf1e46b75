import Guardrail.Regex.Basic
import Guardrail.Regex.Property
import Guardrail.Regex.Syntax

/-!
# Escapes in patterns

What a backslash and the characters after it stand for: a character, a set of characters, or an
assertion about a place.
-/

namespace Guardrail.Regex

open Text

/-- What an escape stands for. -/
inductive Primitive
  | literal (c : Char)
  /-- A literal given by two hexadecimal digits, which without `u` stands for a byte. -/
  | byte (c : Char)
  | class (set : CharSet)
  | look (l : Look)

/-! ## Sets under the flags -/

/-- Without `u`, a class must not hold what is beyond ASCII, which would be bytes of no
character. -/
def checkAscii (flags : Flags) (set : CharSet) : Except Fault CharSet :=
  if flags.unicode || set.all (·.2 < 128) then .ok set else .error .notText

/-- A set closed under case variants, if case is ignored. -/
def withVariants (flags : Flags) (set : CharSet) : CharSet :=
  if !flags.ignoreCase then set
  else if flags.unicode then set.caseClosure
  else set.asciiCaseClosure

/-- A named or bracketed class: case variants join before the class is negated. -/
def finishClass (flags : Flags) (negated : Bool) (set : CharSet) : Except Fault CharSet :=
  checkAscii flags ((withVariants flags set).complIf negated)

/-! ## Characters by number -/

/-- Whether a character has a meaning of its own in patterns. -/
def isMeta (c : Char) : Bool := "\\.+*?()|[]\x7b\x7d^$#&-~".toList.contains c

/-- Whether a character may be escaped without need: any in ASCII but letters, digits and angle
brackets. -/
def isEscapable (c : Char) : Bool :=
  isMeta c || (c.toNat < 128 && !c.isAlphanum && c != '<' && c != '>')

/-- The value of a hexadecimal digit. -/
def hexValue? (c : Char) : Option Nat :=
  if c.isDigit then some (c.toNat - 48)
  else if 'a' ≤ c ∧ c ≤ 'f' then some (c.toNat - 87)
  else if 'A' ≤ c ∧ c ≤ 'F' then some (c.toNat - 55)
  else none

/-- The character of a code point given by hexadecimal digits. -/
def hexChar? (digits : List Char) : Option Char :=
  if digits.isEmpty then none
  else
    (digits.mapM hexValue?).bind fun ds =>
      let n := ds.foldl (fun n d => n * 16 + d) 0
      if n < 0xD800 ∨ (0xDFFF < n ∧ n < 0x110000) then some (Char.ofNat n) else none

/-- Exactly `n` characters, blanks in between skipped as `x` says. -/
def takeChars (verbose : Bool) : Nat → List Char → Option (List Char × List Char)
  | 0, cs => some ([], cs)
  | _ + 1, [] => none
  | n + 1, c :: rest =>
    (takeChars verbose n (skip verbose rest)).map fun (ds, after) => (c :: ds, after)

/-- The characters before the first closing brace, blanks skipped as `x` says, and what follows it;
`fuel` bounds their number. -/
def takeBraced (verbose : Bool) : Nat → List Char → Option (List Char × List Char)
  | 0, _ => none
  | fuel + 1, cs =>
    match skip verbose cs with
    | [] => none
    | '\x7d' :: rest => some ([], rest)
    | c :: rest => (takeBraced verbose fuel rest).map fun (ds, after) => (c :: ds, after)

/-- The literal of hexadecimal digits that have been read, if any have. -/
def ofHex (read : Char → Primitive) :
    Option (List Char × List Char) → Except Fault (Primitive × List Char)
  | none => .error .badEscape
  | some (ds, after) =>
    match hexChar? ds with
    | some c => .ok (read c, after)
    | none => .error .badEscape

/-- A literal in hexadecimal, after its letter. -/
def hexEscape (verbose : Bool) (digits : Nat) (cs : List Char) :
    Except Fault (Primitive × List Char) :=
  match skip verbose cs with
  | '\x7b' :: rest => ofHex .literal (takeBraced verbose (rest.length + 1) rest)
  | cs => ofHex (if digits = 2 then .byte else .literal) (takeChars verbose digits cs)

/-! ## Classes and assertions -/

/-- The class of a property, given its name and what follows it. -/
def ofProperty (flags : Flags) (negated : Bool) (name after : List Char) :
    Except Fault (Primitive × List Char) :=
  if !flags.unicode then .error .notText
  else
    match CharClass.property? name with
    | some (inverse, set) => do
      return (.class (← finishClass flags (negated != inverse) set), after)
    | none => .error .unknownProperty

/-- A class given by a property, after its letter. -/
def propertyEscape (flags : Flags) (negated : Bool) (cs : List Char) :
    Except Fault (Primitive × List Char) :=
  match skip flags.verbose cs with
  | [] => .error .badEscape
  | '\x7b' :: rest =>
    match takeBraced flags.verbose (rest.length + 1) rest with
    | none => .error .badEscape
    | some (name, after) => ofProperty flags negated name after
  | c :: rest =>
    if c = '\\' then .error .unknownProperty else ofProperty flags negated [c] rest

/-- A class given by a letter, which has no case variants of its own. -/
def letterClass (flags : Flags) (negated : Bool) (set : CharSet) (rest : List Char) :
    Except Fault (Primitive × List Char) := do
  return (.class (← checkAscii flags (set.complIf negated)), rest)

/-- The letters and hyphens at the front, blanks after each skipped as `x` says. -/
def takeName (verbose : Bool) : Nat → List Char → List Char × List Char
  | 0, cs => ([], cs)
  | fuel + 1, cs =>
    match cs with
    | [] => ([], [])
    | c :: rest =>
      if c.isAlpha || c == '-' then
        let (name, after) := takeName verbose fuel (skip verbose rest)
        (c :: name, after)
      else ([], c :: rest)

/-- The side of a boundary of a word that a name means. -/
def namedEdge? : String → Option WordEdge
  | "start" => some .start
  | "end" => some .stop
  | "start-half" => some .startHalf
  | "end-half" => some .stopHalf
  | _ => none

/-- One side of a boundary of a word, given by a name that a brace must close. -/
def closeEdge (flags : Flags) (name : List Char) : List Char → Except Fault (Primitive × List Char)
  | '\x7d' :: after =>
    match namedEdge? (String.ofList name) with
    | some edge => .ok (.look (.word flags.unicode edge), after)
    | none => .error .badEscape
  | _ => .error .badEscape

/-- The boundary of a word, or one side of it if a name in braces says so. What starts with anything
else than a letter or a hyphen is no name. -/
def wordBoundary (flags : Flags) (cs : List Char) : Except Fault (Primitive × List Char) :=
  match cs with
  | '\x7b' :: rest =>
    match skip flags.verbose rest with
    | [] => .error .badRepetition
    | rest =>
      match takeName flags.verbose rest.length rest with
      | ([], _) => .ok (.look (.word flags.unicode .boundary), cs)
      | (name, after) => closeEdge flags name after
  | cs => .ok (.look (.word flags.unicode .boundary), cs)

/-- What follows a backslash. -/
def readEscape (flags : Flags) : List Char → Except Fault (Primitive × List Char)
  | [] => .error .badEscape
  | c :: rest =>
    if c.isDigit then .error .backreference
    else if isEscapable c then .ok (.literal c, rest)
    else
      match c with
      | 'x' => hexEscape flags.verbose 2 rest
      | 'u' => hexEscape flags.verbose 4 rest
      | 'U' => hexEscape flags.verbose 8 rest
      | 'p' => propertyEscape flags false rest
      | 'P' => propertyEscape flags true rest
      | 'd' => letterClass flags false (CharClass.digits flags.unicode) rest
      | 'D' => letterClass flags true (CharClass.digits flags.unicode) rest
      | 's' => letterClass flags false (CharClass.spaces flags.unicode) rest
      | 'S' => letterClass flags true (CharClass.spaces flags.unicode) rest
      | 'w' => letterClass flags false (CharClass.words flags.unicode) rest
      | 'W' => letterClass flags true (CharClass.words flags.unicode) rest
      | 'a' => .ok (.literal '\x07', rest)
      | 'f' => .ok (.literal '\x0c', rest)
      | 't' => .ok (.literal '\t', rest)
      | 'n' => .ok (.literal '\n', rest)
      | 'r' => .ok (.literal '\x0d', rest)
      | 'v' => .ok (.literal '\x0b', rest)
      | 'A' => .ok (.look .textStart, rest)
      | 'z' => .ok (.look .textEnd, rest)
      | 'b' => wordBoundary flags rest
      | 'B' => .ok (.look (.word flags.unicode .noBoundary), rest)
      | '<' => .ok (.look (.word flags.unicode .start), rest)
      | '>' => .ok (.look (.word flags.unicode .stop), rest)
      | _ => .error .badEscape

/-- What an escape outside brackets stands for. A character beyond ASCII is itself even without
`u`, but has no case variants then. -/
def ofPrimitive (flags : Flags) : Primitive → Except Fault Regex
  | .literal c => .ok (.one (withVariants flags (.single c)))
  | .byte c =>
    if !flags.unicode && 128 ≤ c.toNat then .error .notText
    else .ok (.one (withVariants flags (.single c)))
  | .class set => .ok (.one set)
  | .look l => .ok (.look l)

end Guardrail.Regex
