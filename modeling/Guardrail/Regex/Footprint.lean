import Guardrail.Regex.Blueprint
import Guardrail.Regex.Steps

/-!
# How automata are built from blueprints

The steps of building the two automata of a blueprint: one that reads a text forwards, and one that
reads it backwards. Both read bytes.
-/

namespace Guardrail.Regex

open Text

/-- Which way an automaton reads. -/
inductive Direction
  | forwards
  | backwards
deriving DecidableEq

/-! ## Sets and literals -/

/-- A set. One of ASCII needs a single state with its ways out, and one to go to. -/
def setSteps (d : Direction) (s : CharSet) : Steps :=
  if s.all (·.2 < 128) then .states 2 (s.length * rangeBytes)
  else
    match d with
    | .forwards => .forwards (.ofSequences s.sequences)
    | .backwards => .backwards s.sequences

/-- The bytes of a literal, in the order in which they are read. -/
def literalBytes (d : Direction) (cs : List Char) : List Nat :=
  let bytes := cs.flatMap fun c => utf8Bytes c.toNat
  if d = .forwards then bytes else bytes.reverse

/-! ## Choices between literals -/

/-- The ways out of a state of a tree of literals, each a byte and what is left of the literals that
go on with it. They come in runs, the last one first: between two runs a literal ends. -/
abbrev Runs := List (List (Nat × List (List Nat)))

/-- What is left of a literal joins the ways out of a state: its first byte joins the last run, and
a literal that ends here ends the run, unless one has ended here before and none goes on. -/
def Runs.add (runs : Runs) : List Nat → Runs
  | [] =>
    match runs with
    | [[], []] => runs
    | _ => [] :: runs
  | b :: rest =>
    match runs with
    | [] => [[(b, [rest])]]
    | run :: older =>
      if run.any (·.1 == b) then
        (run.map fun way => if way.1 = b then (b, way.2 ++ [rest]) else way) :: older
      else (run ++ [(b, [rest])]) :: older

/-- The states of a tree of literals; `depth` bounds their length. A run is a state, the runs of a
place are tried one after another, and a literal with no longer one beside it ends in a state that
all share. -/
def treeSteps : Nat → List (List Nat) → Steps
  | 0, _ => .states 0 0
  | depth + 1, words =>
    let runs := words.foldl Runs.add [[]]
    let used := runs.filter (!·.isEmpty)
    if used.isEmpty then .states 0 0
    else
      let next := used.flatMap fun run => run.map fun way => treeSteps depth way.2
      let ranges := used.map fun run => if run.length = 1 then 0 else run.length * rangeBytes
      let forks := (used.length + (runs.length - 1)) * forkBytes
      .concat (next ++ [.states (used.length + 1) (ranges.sum + forks)])

/-- The literal that a blueprint is. -/
def Blueprint.literal? : Blueprint → Option (List Char)
  | .literal cs => some cs
  | _ => none

/-! ## Blueprints -/

/-- A repetition of what is built by `a`, which matches the empty text unless `nonempty`. -/
def loopSteps (a : Steps) (nonempty : Bool) (min : Nat) : Option Nat → Steps
  | none =>
    let again := Steps.states 1 (2 * forkBytes)
    if min = 0 then
      if nonempty then .append again a else .concat [a, again, again, .states 1 0]
    else .append (.replicate min a) again
  | some max =>
    let skippable := Steps.append (.states 1 (2 * forkBytes)) a
    if min = 0 ∧ max = 1 then .append skippable (.states 1 0)
    else if min = max then .replicate min a
    else
      let required := if min = 0 then .states 1 0 else .replicate min a
      .concat [required, .states 1 0, .replicate (max - min) skippable]

/-- What is built for a blueprint, given what is for each of its branches. A choice between literals
is a tree of them; the state that leads to the branches of another choice comes after the second. -/
def settleSteps (d : Direction) (p : Blueprint) : List Steps → Steps
  | [steps] => steps
  | steps =>
    match p.branches.mapM Blueprint.literal? with
    | some words =>
      let words := words.map (literalBytes d)
      .append (.states 1 0) (treeSteps ((words.map List.length).foldl Nat.max 0 + 1) words)
    | none =>
      .concat (steps.take 2 ++ .states 2 (steps.length * forkBytes) :: steps.drop 2)

/-- What is built for the branches of a blueprint. -/
def branchSteps (d : Direction) : Blueprint → List Steps
  | .empty => [.states 1 0]
  | .literal cs => [.states (literalBytes d cs).length 0]
  | .set s => [setSteps d s]
  | .look _ => [.states 1 0]
  | .capture _ a =>
    let inner := settleSteps d a (branchSteps d a)
    match d with
    | .forwards => [.concat [.states 1 0, inner, .states 1 0]]
    | .backwards => [inner]
  | .loop a min max _ =>
    [loopSteps (settleSteps d a (branchSteps d a)) (a.minLength.any (0 < ·)) min max]
  | .seq a b =>
    let first := settleSteps d a (branchSteps d a)
    let second := settleSteps d b (branchSteps d b)
    match d with
    | .forwards => [.append first second]
    | .backwards => [.append second first]
  | .choice a b => branchSteps d a ++ branchSteps d b

/-- What is built for a blueprint. -/
def steps (d : Direction) (p : Blueprint) : Steps := settleSteps d p (branchSteps d p)

/-- An automaton. It starts with a loop that skips any bytes, unless matches start at the end of the
text where it starts to read; forwards it keeps the ends of the match; and it has a state in which
it accepts. -/
def automaton (d : Direction) (p : Blueprint) : Steps :=
  match d with
  | .forwards => .concat [entry p.startsText, .states 1 0, steps d p, .states 2 0]
  | .backwards => .concat [entry p.stopsText, steps d p, .states 1 0]
where
  /-- The states at the start. -/
  entry (anchored : Bool) : Steps :=
    if anchored then .states 1 0 else .states 3 (2 * forkBytes + rangeBytes)

end Guardrail.Regex
