import Guardrail.Regex.Escape

/-!
# Classes in brackets

Sets of characters written as lists of characters, ranges and escapes between brackets, with nested
classes and with operations between lists: intersection, difference and symmetric difference.
-/

namespace Guardrail.Regex

open Text

/-- An operation on two classes. -/
inductive ClassOp
  | inter
  | diff
  | symmDiff

/-- The result of an operation. -/
def ClassOp.apply : ClassOp → CharSet → CharSet → CharSet
  | .inter => .inter
  | .diff => .diff
  | .symmDiff => .symmDiff

/-- A set that has been read, and how deep constructs are nested in what it was read from. -/
structure ReadSet where
  set : CharSet
  depth : Nat

/-- A class in brackets that is being read. -/
structure OpenClass where
  negated : Bool
  /-- The operation that waits for its second class, and its first class. -/
  pending : Option (ClassOp × ReadSet)
  /-- The union of the items since. -/
  items : CharSet
  /-- The number of the items. -/
  count : Nat
  /-- How deep constructs are nested in the items. -/
  itemDepth : Nat

/-- A class of which nothing has been read. -/
def OpenClass.start (negated : Bool) : OpenClass := ⟨negated, none, [], 0, 0⟩

/-- An item joins a class. -/
def OpenClass.add (k : OpenClass) (item : ReadSet) : OpenClass :=
  { k with
    items := k.items.union item.set
    count := k.count + 1
    itemDepth := max k.itemDepth item.depth }

/-- A list of items, which is a construct of its own if there are two or more. -/
def OpenClass.list (k : OpenClass) : ReadSet :=
  ⟨k.items, if 2 ≤ k.count then k.itemDepth + 1 else k.itemDepth⟩

/-- The class of what has been read, operations done. Case variants join before an operation. -/
def OpenClass.settle (flags : Flags) (k : OpenClass) : ReadSet :=
  match k.pending with
  | none => k.list
  | some (op, first) =>
    ⟨op.apply (withVariants flags first.set) (withVariants flags k.list.set),
      max first.depth k.list.depth + 1⟩

/-- An operation begins: what has been read is its first class. -/
def OpenClass.operate (flags : Flags) (op : ClassOp) (k : OpenClass) : OpenClass :=
  { OpenClass.start k.negated with pending := some (op, k.settle flags) }

/-- The class ends. -/
def OpenClass.close (flags : Flags) (k : OpenClass) : Except Fault ReadSet := do
  let inner := k.settle flags
  return ⟨← finishClass flags k.negated inner.set, inner.depth + 1⟩

/-- The hyphens at the front of a class, each of which stands for itself. -/
def leadingHyphens (verbose : Bool) : Nat → List Char → Nat × List Char
  | 0, cs => (0, cs)
  | fuel + 1, cs =>
    match cs with
    | '-' :: rest =>
      let (n, after) := leadingHyphens verbose fuel (skip verbose rest)
      (n + 1, after)
    | cs => (0, cs)

/-- Opens a class, after its bracket and its caret. A closing bracket that comes first stands for
itself. -/
def openItems (flags : Flags) (negated : Bool) (cs : List Char) :
    Except Fault (OpenClass × List Char) :=
  let (hyphens, cs) := leadingHyphens flags.verbose cs.length cs
  let start := OpenClass.start negated
  if 0 < hyphens then
    if cs.isEmpty then .error .badClass
    else .ok ({ start with items := .single '-', count := hyphens }, cs)
  else
    match cs with
    | [] => .error .badClass
    | ']' :: rest =>
      match skip flags.verbose rest with
      | [] => .error .badClass
      | rest => .ok (start.add ⟨.single ']', 0⟩, rest)
    | cs => .ok (start, cs)

/-- Opens a class, after its bracket. -/
def openClass (flags : Flags) (cs : List Char) : Except Fault (OpenClass × List Char) :=
  match skip flags.verbose cs with
  | '^' :: rest => openItems flags true (skip flags.verbose rest)
  | cs => openItems flags false cs

/-- A named class, after its opening bracket and its caret: whether it is negated, and its set. -/
def namedSet? (negated : Bool) (cs : List Char) : Option ((Bool × CharSet) × List Char) :=
  let name := cs.takeWhile (· != ':')
  match cs.dropWhile (· != ':') with
  | ':' :: ']' :: after =>
    (CharClass.posix? (String.ofList name)).map fun set => ((negated, set), after)
  | _ => none

/-- A named class, after its opening bracket. -/
def namedClass? : List Char → Option ((Bool × CharSet) × List Char)
  | ':' :: '^' :: rest => namedSet? true rest
  | ':' :: rest => namedSet? false rest
  | _ => none

/-- One character or escape of a class. -/
def classPrimitive (flags : Flags) : List Char → Except Fault (Primitive × List Char)
  | [] => .error .badClass
  | '\\' :: rest => readEscape flags rest
  | c :: rest => .ok (.literal c, rest)

/-- The literal that an end of a range must be. Without `u` it must be one of ASCII. -/
def literal? (flags : Flags) : Primitive → Except Fault Char
  | .literal c | .byte c =>
    if !flags.unicode && 128 ≤ c.toNat then .error .notText else .ok c
  | _ => .error .badClass

/-- The character after a hyphen that decides whether the hyphen makes a range. With the flag `x`
blanks are passed over, and the sign that starts a comment, but not the text of the comment. -/
def peek (verbose : Bool) (cs : List Char) : Option Char :=
  if !verbose then cs.head?
  else
    match cs.dropWhile isBlank with
    | '#' :: rest => (rest.dropWhile isBlank).head?
    | rest => rest.head?

/-- The item that is a character or an escape. -/
def soleItem (flags : Flags) (rest : List Char) : Primitive → Except Fault (CharSet × List Char)
  | .class set => .ok (set, rest)
  | .look _ => .error .badClass
  | p => do return (.single (← literal? flags p), rest)

/-- The range between two parts of an item, the last of which has just been read. -/
def rangeBetween (flags : Flags) (first : Primitive) :
    Primitive × List Char → Except Fault (CharSet × List Char)
  | (last, after) => do
    let lo ← literal? flags first
    let hi ← literal? flags last
    if hi < lo then .error .badClass else .ok ([(lo.toNat, hi.toNat)], after)

/-- The rest of an item whose first part has been read: a hyphen makes it a range. -/
def finishItem (flags : Flags) : Primitive × List Char → Except Fault (CharSet × List Char)
  | (first, rest) =>
    match skip flags.verbose rest with
    | [] => .error .badClass
    | '-' :: rest =>
      if peek flags.verbose rest = some ']' ∨ peek flags.verbose rest = some '-' then
        soleItem flags ('-' :: rest) first
      else do rangeBetween flags first (← classPrimitive flags (skip flags.verbose rest))
    | rest => soleItem flags rest first

/-- An item of a class: a range, a character or an escape. -/
def classItem (flags : Flags) (cs : List Char) : Except Fault (CharSet × List Char) := do
  finishItem flags (← classPrimitive flags cs)

/-- An operation, and what follows its sign. -/
def classOp? : List Char → Option (ClassOp × List Char)
  | '&' :: '&' :: rest => some (.inter, rest)
  | '-' :: '-' :: rest => some (.diff, rest)
  | '~' :: '~' :: rest => some (.symmDiff, rest)
  | _ => none

/-- A class with one more item, or after the sign of an operation. -/
def readItem (flags : Flags) (k : OpenClass) (cs : List Char) :
    Except Fault (OpenClass × List Char) :=
  match classOp? cs with
  | some (op, rest) => .ok (k.operate flags op, rest)
  | none => do
    let (set, after) ← classItem flags cs
    return (k.add ⟨set, 0⟩, after)

/-- What is open after a bracket within a class: the class with a named one, or one more class. -/
def readInner (flags : Flags) (k : OpenClass) (cs : List Char) :
    Except Fault (List OpenClass × List Char) :=
  match namedClass? cs with
  | some ((negated, set), after) => do
    return ([k.add ⟨← finishClass flags negated set, 0⟩], after)
  | none => do
    let (inner, after) ← openClass flags cs
    return ([inner, k], after)

/-- Reads the rest of a class; `stack` holds the open classes, the innermost first. -/
def readClass (flags : Flags) : Nat → List OpenClass → List Char →
    Except Fault (ReadSet × List Char)
  | 0, _, _ => .error .badClass
  | _, [], _ => .error .badClass
  | fuel + 1, k :: outer, cs =>
    match skip flags.verbose cs with
    | [] => .error .badClass
    | '[' :: rest => do
      let (opened, after) ← readInner flags k rest
      readClass flags fuel (opened ++ outer) after
    | ']' :: rest => do
      let closed ← k.close flags
      match outer with
      | [] => return (closed, rest)
      | j :: outer => readClass flags fuel (j.add closed :: outer) rest
    | cs => do
      let (k, after) ← readItem flags k cs
      readClass flags fuel (k :: outer) after

end Guardrail.Regex
