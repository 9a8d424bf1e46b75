import Guardrail.Text.Blank

/-!
# The syntax of patterns: faults, flags, blanks

Why a pattern is refused, the flags that change how the rest of a pattern is read, and the blanks
and comments that one of them allows.

Flags: `i` ignores case, `m` lets `^` and `$` match at lines, `s` lets the dot match a line feed,
`R` lets lines end in carriage returns too, `u` (on at first) reads classes as Unicode's, `x`
ignores blanks and comments in the pattern, `U` swaps greedy and lazy repetition, which makes no
difference to whether a text matches.
-/

namespace Guardrail.Regex

/-- Why a pattern is refused. -/
inductive Fault
  | unclosedGroup
  | unopenedGroup
  | nothingToRepeat
  | badRepetition
  | badEscape
  | badClass
  | badFlags
  | badName
  | lookaround
  | backreference
  | unknownProperty
  | notText
  | tooDeep
  | tooLarge
deriving DecidableEq

/-- The greatest number of bytes that an automaton may take. -/
def maxFootprint : Nat := 10485760

/-- The wording of a fault. -/
def Fault.message : Fault → String
  | .unclosedGroup => "regex parse error: unclosed group"
  | .unopenedGroup => "regex parse error: unopened group"
  | .nothingToRepeat => "regex parse error: repetition operator missing expression"
  | .badRepetition => "regex parse error: invalid repetition"
  | .badEscape => "regex parse error: invalid escape"
  | .badClass => "regex parse error: invalid character class"
  | .badFlags => "regex parse error: invalid flags"
  | .badName => "regex parse error: invalid group name"
  | .lookaround => "regex parse error: look-around is not supported"
  | .backreference => "regex parse error: backreferences are not supported"
  | .unknownProperty => "regex parse error: Unicode property not found"
  | .notText => "regex parse error: pattern can match invalid text"
  | .tooDeep => "regex parse error: exceeded the nesting limit"
  | .tooLarge => "Compiled regex exceeds size limit of " ++ toString maxFootprint ++ " bytes."

/-- Flags in force at a place of a pattern. -/
structure Flags where
  ignoreCase : Bool
  multiLine : Bool
  dotNewline : Bool
  crlf : Bool
  unicode : Bool
  verbose : Bool
  swapGreed : Bool

/-- The flags at the start of a pattern. -/
def Flags.initial : Flags := ⟨false, false, false, false, true, false, false⟩

/-- With the flag `x`, a pattern less the blanks and comments at its front. -/
def skip (verbose : Bool) : List Char → List Char
  | [] => []
  | c :: rest =>
    if !verbose then c :: rest
    else if Text.isBlank c then skip verbose rest
    else if c = '#' then comment rest
    else c :: rest
where
  /-- What follows a comment. -/
  comment : List Char → List Char
    | [] => []
    | c :: rest => if c = '\n' then skip verbose rest else comment rest

end Guardrail.Regex
