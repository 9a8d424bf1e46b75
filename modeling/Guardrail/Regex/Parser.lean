import Guardrail.Regex.Bracket
import Guardrail.Text.Alphanumeric

/-!
# Reading patterns

Regular expressions: literals and escapes, classes in brackets, assertions, alternation, repetition,
groups with or without names, and flags for a group or for the rest of one.

No construct may be nested more than 250 deep.
-/

namespace Guardrail.Regex

open Text

/-- A part of a pattern that has been read. -/
structure Part where
  regex : Regex
  /-- How deep constructs are nested in it. -/
  depth : Nat
  /-- Whether a repetition may follow: not after a change of flags. -/
  repeatable : Bool

/-- The greatest depth of nesting. -/
def maxDepth : Nat := 250

/-- A part that holds no other. -/
def leaf (r : Regex) : Part := ⟨r, 0, true⟩

/-- The sequence of parts, given in reverse. A sequence of one is that one. -/
def sequence : List Part → Part
  | [] => leaf .empty
  | [p] => p
  | parts =>
    { regex := parts.reverse.foldr (fun p r => .cat p.regex r) .empty
      depth := parts.foldl (fun d p => max d p.depth) 0 + 1
      repeatable := true }

/-- The choice between parts, given in reverse. A choice of one is that one. -/
def choice : List Part → Part
  | [] => leaf .empty
  | [p] => p
  | p :: parts =>
    { regex := parts.foldl (fun r q => .alt q.regex r) p.regex
      depth := parts.foldl (fun d q => max d q.depth) p.depth + 1
      repeatable := true }

/-! ## Repetition -/

/-- A number of repetitions. Blanks may stand around it. -/
def readCount (verbose : Bool) (cs : List Char) : Option (Nat × List Char) :=
  let cs := cs.dropWhile Text.isBlank
  let rec digits : Nat → List Char → List Char × List Char
    | 0, cs => ([], cs)
    | fuel + 1, cs =>
      match cs with
      | c :: rest =>
        if c.isDigit then
          let (ds, after) := digits fuel (skip verbose rest)
          (c :: ds, after)
        else ([], c :: rest)
      | [] => ([], [])
  let (ds, after) := digits cs.length cs
  let n := ds.foldl (fun n c => n * 10 + (c.toNat - 48)) 0
  if ds.isEmpty ∨ Nat.pow 2 32 ≤ n then none else some (n, after.dropWhile Text.isBlank)

/-- The greatest number of a counted repetition, after its comma. -/
def readGreatest (verbose : Bool) (min : Nat) (cs : List Char) :
    Except Fault ((Nat × Option Nat) × List Char) :=
  match readCount verbose cs with
  | some (max, '\x7d' :: rest) =>
    if max < min then .error .badRepetition else .ok ((min, some max), rest)
  | _ => .error .badRepetition

/-- The bounds of a counted repetition, after the least number. -/
def finishBounds (verbose : Bool) (min : Nat) :
    List Char → Except Fault ((Nat × Option Nat) × List Char)
  | '\x7d' :: rest => .ok ((min, some min), rest)
  | ',' :: rest =>
    match skip verbose rest with
    | '\x7d' :: rest => .ok ((min, none), rest)
    | rest => readGreatest verbose min rest
  | _ => .error .badRepetition

/-- The bounds of a counted repetition, after its brace. -/
def readBounds (verbose : Bool) (cs : List Char) :
    Except Fault ((Nat × Option Nat) × List Char) :=
  match readCount verbose (skip verbose cs) with
  | none => .error .badRepetition
  | some (min, rest) => finishBounds verbose min rest

/-- The last part repeated. -/
def repeatLast (parts : List Part) (bounds : Nat × Option Nat) (greedy : Bool) :
    Except Fault (List Part) :=
  match parts with
  | [] => .error .nothingToRepeat
  | p :: parts =>
    if !p.repeatable then .error .nothingToRepeat
    else .ok (⟨.loop p.regex bounds.1 bounds.2 greedy, p.depth + 1, true⟩ :: parts)

/-- Whether a question mark does not make an operator lazy, and what follows it. -/
def readGreed : List Char → Bool × List Char
  | '?' :: rest => (false, rest)
  | rest => (true, rest)

/-! ## Groups -/

/-- The flag of a letter, set or cleared. -/
def setFlag (on : Bool) (flags : Flags) : Char → Option Flags
  | 'i' => some { flags with ignoreCase := on }
  | 'm' => some { flags with multiLine := on }
  | 's' => some { flags with dotNewline := on }
  | 'R' => some { flags with crlf := on }
  | 'u' => some { flags with unicode := on }
  | 'x' => some { flags with verbose := on }
  | 'U' => some { flags with swapGreed := on }
  | _ => none

/-- Flags up to a colon or a closing parenthesis. No letter may come twice, and nothing but letters
may follow a hyphen, of which there may be one. -/
def readFlags (flags : Flags) (seen : List Char) : List Char → Except Fault (Flags × List Char)
  | [] => .error .badFlags
  | c :: rest =>
    if c = ':' ∨ c = ')' then
      if seen.head? = some '-' then .error .badFlags else .ok (flags, c :: rest)
    else if seen.contains c then .error .badFlags
    else if c = '-' then readFlags flags (c :: seen) rest
    else
      match setFlag (!seen.contains '-') flags c with
      | some flags => readFlags flags (c :: seen) rest
      | none => .error .badFlags

/-- Whether a character may stand in the name of a group. -/
def isNameChar (first : Bool) (c : Char) : Bool :=
  c == '_' || (first && Text.isAlphabetic c) ||
    (!first && (c == '.' || c == '[' || c == ']' || Text.isAlphanumeric c))

/-- The name of a group, up to its angle bracket. -/
def readName (cs : List Char) : Option (List Char × List Char) :=
  let name := cs.takeWhile (· != '>')
  match name, cs.dropWhile (· != '>') with
  | c :: rest, '>' :: after =>
    if isNameChar true c && rest.all (isNameChar false) then some (c :: rest, after) else none
  | _, _ => none

/-- A group that is being read. -/
structure OpenGroup where
  /-- The flags before the group. -/
  outer : Flags
  /-- The number of the group, if it has one. -/
  number : Option Nat
  /-- The branches that are complete, in reverse. -/
  branches : List Part
  /-- The parts of the branch that is being read, in reverse. -/
  parts : List Part

/-- What has been read of a group. -/
def OpenGroup.settle (g : OpenGroup) : Part := choice (sequence g.parts :: g.branches)

/-- The place of reading: the flags, the open groups, the innermost first, the number of groups with
a number so far, and their names. -/
structure Place where
  flags : Flags
  group : OpenGroup
  outer : List OpenGroup
  count : Nat
  names : List (List Char)

/-- The place before a pattern. -/
def Place.start : Place := ⟨.initial, ⟨.initial, none, [], []⟩, [], 0, []⟩

/-- A part joins the innermost group. -/
def Place.push (p : Place) (part : Part) : Place :=
  { p with group := { p.group with parts := part :: p.group.parts } }

/-- A group without a number begins. -/
def Place.enter (p : Place) (flags : Flags) : Place :=
  { p with flags, group := ⟨p.flags, none, [], []⟩, outer := p.group :: p.outer }

/-- A group with a number begins. -/
def Place.enterNumbered (p : Place) : Place :=
  let n := p.count + 1
  { p with group := ⟨p.flags, some n, [], []⟩, outer := p.group :: p.outer, count := n }

/-- Opens a group with a name. -/
def openNamed (p : Place) (cs : List Char) : Except Fault (Place × List Char) :=
  match readName cs with
  | none => .error .badName
  | some (name, after) =>
    if p.names.contains name then .error .badName
    else .ok ({ p.enterNumbered with names := name :: p.names }, after)

/-- Changes the flags, or opens a group with flags of its own. -/
def openFlagged (p : Place) : Flags × List Char → Except Fault (Place × List Char)
  | (flags, ')' :: after) => .ok ({ p with flags }.push ⟨.empty, 0, false⟩, after)
  | (flags, rest) => .ok (p.enter flags, rest.drop 1)

/-- Opens a group, after its parenthesis and a question mark. -/
def openSpecial (p : Place) : List Char → Except Fault (Place × List Char)
  | '=' :: _ | '!' :: _ | '<' :: '=' :: _ | '<' :: '!' :: _ => .error .lookaround
  | 'P' :: '<' :: rest => openNamed p rest
  | '<' :: rest => openNamed p rest
  | ')' :: _ => .error .nothingToRepeat
  | rest => do openFlagged p (← readFlags p.flags [] rest)

/-- Opens a group, after its parenthesis. -/
def openGroup (p : Place) (cs : List Char) : Except Fault (Place × List Char) :=
  match skip p.flags.verbose cs with
  | '?' :: rest => openSpecial p rest
  | rest => .ok (p.enterNumbered, rest)

/-- Closes the innermost group. -/
def closeGroup (p : Place) : Except Fault Place :=
  match p.outer with
  | [] => .error .unopenedGroup
  | g :: outer =>
    let inner := p.group.settle
    let part : Part := ⟨.group p.group.number inner.regex, inner.depth + 1, true⟩
    .ok ({ p with flags := p.group.outer, group := g, outer }.push part)

/-! ## Patterns -/

/-- The dot. -/
def dot (flags : Flags) : Except Fault Regex :=
  if !flags.unicode then .error .notText
  else if flags.dotNewline then .ok (.one (CharSet.compl []))
  else if flags.crlf then .ok (.one (CharSet.compl [(0xA, 0xA), (0xD, 0xD)]))
  else .ok (.one (CharSet.compl [(0xA, 0xA)]))

/-- The start of the text or of a line. -/
def startLook (flags : Flags) : Look :=
  if !flags.multiLine then .textStart else if flags.crlf then .lineStartCRLF else .lineStart

/-- The end of the text or of a line. -/
def endLook (flags : Flags) : Look :=
  if !flags.multiLine then .textEnd else if flags.crlf then .lineEndCRLF else .lineEnd

/-- The last part is repeated. A question mark right after the operator makes it lazy. -/
def again (p : Place) (bounds : Nat × Option Nat) (rest : List Char) :
    Except Fault (Place × List Char) := do
  let (greedy, rest) := readGreed rest
  let parts ← repeatLast p.group.parts bounds (greedy != p.flags.swapGreed)
  return ({ p with group := { p.group with parts } }, rest)

/-- The last part is repeated as often as the bounds after a brace say. -/
def againCounted (p : Place) (cs : List Char) : Except Fault (Place × List Char) :=
  match p.group.parts with
  | [] => .error .nothingToRepeat
  | part :: _ =>
    if !part.repeatable then .error .nothingToRepeat
    else do
      let (bounds, rest) ← readBounds p.flags.verbose cs
      again p bounds (skip p.flags.verbose rest)

/-- A class joins the innermost group, after its bracket. -/
def pushClass (p : Place) (cs : List Char) : Except Fault (Place × List Char) := do
  let (k, rest) ← openClass p.flags cs
  let (read, rest) ← readClass p.flags (rest.length + 1) [k] rest
  return (p.push ⟨.one read.set, read.depth, true⟩, rest)

/-- What an escape stands for joins the innermost group, after its backslash. -/
def pushEscape (p : Place) (cs : List Char) : Except Fault (Place × List Char) := do
  let (primitive, rest) ← readEscape p.flags cs
  return (p.push (leaf (← ofPrimitive p.flags primitive)), rest)

/-- Reads a construct that starts with a character. -/
def readPart (p : Place) (c : Char) (rest : List Char) : Except Fault (Place × List Char) :=
  match c with
  | '(' => openGroup p rest
  | ')' => do return (← closeGroup p, rest)
  | '|' =>
    let g := { p.group with branches := sequence p.group.parts :: p.group.branches, parts := [] }
    .ok ({ p with group := g }, rest)
  | '[' => pushClass p rest
  | '?' => again p (0, some 1) rest
  | '*' => again p (0, none) rest
  | '+' => again p (1, none) rest
  | '\x7b' => againCounted p rest
  | '\\' => pushEscape p rest
  | '.' => do return (p.push (leaf (← dot p.flags)), rest)
  | '^' => .ok (p.push (leaf (.look (startLook p.flags))), rest)
  | '$' => .ok (p.push (leaf (.look (endLook p.flags))), rest)
  | c => do return (p.push (leaf (← ofPrimitive p.flags (.literal c))), rest)

/-- Reads the rest of a pattern. -/
def readParts : Nat → Place → List Char → Except Fault Part
  | 0, _, _ => .error .tooDeep
  | fuel + 1, p, cs =>
    match skip p.flags.verbose cs with
    | [] => if p.outer.isEmpty then .ok p.group.settle else .error .unclosedGroup
    | c :: rest => do
      let (p, rest) ← readPart p c rest
      readParts fuel p rest

/-- Reads a pattern, however deep its constructs are nested. -/
def read (pattern : String) : Except Fault Part :=
  readParts (pattern.toList.length + 1) .start pattern.toList

/-- The expression that a pattern stands for. -/
def parse (pattern : String) : Except Fault Regex := do
  let part ← read pattern
  if maxDepth < part.depth then .error .tooDeep else .ok part.regex

end Guardrail.Regex
