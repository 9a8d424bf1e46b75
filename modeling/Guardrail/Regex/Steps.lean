import Guardrail.Regex.SlotCache
import Guardrail.Text.Utf8

/-!
# The steps of building an automaton

An automaton over bytes is built state by state, and each state takes a number of bytes. States are
numbered in the order in which they are built. For a set of characters, states are shared that are
the same, as far as a cache of them remembers; since the cache goes by the numbers of states, the
size of a set depends on the number of states before it.
-/

namespace Guardrail.Regex

open Text

/-- The bytes of a state, its ways out apart. -/
def stateBytes : Nat := 32

/-- The bytes of a way out that reads one of several ranges of bytes. -/
def rangeBytes : Nat := 8

/-- The bytes of a way out that reads nothing, of a state with several of them. -/
def forkBytes : Nat := 4

/-- How many states have been built, and how many bytes they take. -/
structure Tally where
  states : Nat
  bytes : Nat

/-- More states have been built, with ways out that take a number of bytes. -/
def Tally.grow (t : Tally) (n extra : Nat) : Tally :=
  ⟨t.states + n, t.bytes + n * stateBytes + extra⟩

/-! ## Shared states -/

/-- What has been built, and the states that are remembered. -/
structure Sharing where
  tally : Tally
  cache : SlotCache

/-- The number of the state that a key describes: one that is remembered, or a new one whose ways
out take a number of bytes. -/
def Sharing.state (s : Sharing) (key : List Nat) (extra : Nat) : Nat × Sharing :=
  match s.cache.get? key with
  | some n => (n, s)
  | none => (s.tally.states, ⟨s.tally.grow 1 extra, s.cache.insert key s.tally.states⟩)

/-! ## Sets read forwards -/

/-- Sequences of ranges of bytes as a tree: a range with what may follow it, beside the other ranges
at the same place. -/
inductive ByteTree
  | done
  | range (first last : Nat) (next others : ByteTree)

/-- A sequence joins a tree at its front. -/
def ByteTree.insert : ByteSequence → ByteTree → ByteTree
  | [], tree => tree
  | (a, b) :: rest, .range c d next others =>
    if a = c ∧ b = d then .range c d (next.insert rest) others
    else .range a b (ByteTree.done.insert rest) (.range c d next others)
  | (a, b) :: rest, .done => .range a b (ByteTree.done.insert rest) .done

/-- The tree of sequences in order. -/
def ByteTree.ofSequences (seqs : List ByteSequence) : ByteTree := seqs.foldr .insert .done

/-- A state that reads ranges of bytes is described by the ranges and the states after them. -/
def Sharing.branch (s : Sharing) (ways : List (List Nat)) : Nat × Sharing :=
  s.state ways.flatten (ways.length * rangeBytes)

/-- The ways out of the state for a tree, the states after them built first. A sequence that ends
leads to the state `stop`. -/
def ByteTree.ways (stop : Nat) : ByteTree → Sharing → List (List Nat) × Sharing
  | .done, s => ([], s)
  | .range first last next others, s =>
    let (after, s) :=
      match next with
      | .done => (stop, s)
      | .range .. =>
        let (ways, s) := next.ways stop s
        s.branch ways
    let (ways, s) := others.ways stop s
    ([first, last, after] :: ways, s)

/-- The number of states that are remembered forwards. -/
def forwardSlots : Nat := 10000

/-- The states of a set that is read forwards: the one in which it has been read, and those of its
tree, of which the same ones are shared. -/
def Tally.forwards (t : Tally) (tree : ByteTree) : Tally :=
  let (ways, s) := tree.ways t.states ⟨t.grow 1 0, .empty forwardSlots⟩
  (s.branch ways).2.tally

/-! ## Sets read backwards -/

/-- The number of states that are remembered backwards. -/
def backwardSlots : Nat := 1000

/-- The states of a sequence that is read from its end. Each leads to the one for the byte
before. -/
def Sharing.sequence (stop : Nat) (s : Sharing) (seq : ByteSequence) : Sharing :=
  (seq.foldl (fun (p : Nat × Sharing) (r : Nat × Nat) => p.2.state [p.1, r.1, r.2] 0) (stop, s)).2

/-- The states of a set that is read backwards: one that leads to all sequences, the one in which
the set has been read, and those of the sequences, which share their beginnings. -/
def Tally.backwards (t : Tally) (seqs : List ByteSequence) : Tally :=
  let s : Sharing := ⟨t.grow 2 (seqs.length * forkBytes), .empty backwardSlots⟩
  (seqs.foldl (Sharing.sequence (t.states + 1)) s).tally

/-! ## Steps -/

/-- Steps of building an automaton. -/
inductive Steps
  /-- States whose number and size is known. -/
  | states (n extra : Nat)
  | forwards (tree : ByteTree)
  | backwards (seqs : List ByteSequence)
  | andThen (a b : Steps)
  | times (n : Nat) (a : Steps)

namespace Steps

/-- One after another. States of known size are put together. -/
def append : Steps → Steps → Steps
  | .states n x, .states m y => .states (n + m) (x + y)
  | a, b => .andThen a b

/-- All of a list, in order. -/
def concat (steps : List Steps) : Steps := steps.foldr append (.states 0 0)

/-- A number of times. -/
def replicate (n : Nat) : Steps → Steps
  | .states m x => .states (n * m) (n * x)
  | a => .times n a

/-- What has been built, if it keeps within a limit. -/
def within (limit : Nat) (t : Tally) : Option Tally := if t.bytes ≤ limit then some t else none

/-- A step is taken a number of times, as long as it can be. -/
def iterate (step : Tally → Option Tally) : Nat → Tally → Option Tally
  | 0, t => some t
  | n + 1, t =>
    match step t with
    | none => none
    | some t => iterate step n t

/-- What has been built after the steps, if it keeps within a limit. -/
def run (limit : Nat) : Steps → Tally → Option Tally
  | .states n extra, t => within limit (t.grow n extra)
  | .forwards tree, t => within limit (t.forwards tree)
  | .backwards seqs, t => within limit (t.backwards seqs)
  | .andThen a b, t => (a.run limit t).bind (b.run limit)
  | .times n a, t => iterate (a.run limit) n t

end Steps
end Guardrail.Regex
