import Guardrail.Regex.CharClass

/-!
# Regular expressions

Regular expressions over characters, with assertions about the place between two characters, and the
question whether one matches somewhere in a text. They are what the patterns of `RegexMatch` stand
for.

* `Matches`: the meaning, as a relation between the ends of the matched part.
* `ends`: all the places where matches that start at given places can end. It goes from a set of
  places to a set of places, never from one place at a time.
-/

namespace Guardrail

/-- What is asserted about a place next to words, by what stands before and after it. -/
inductive WordEdge
  /-- A word character stands on one side only. -/
  | boundary
  /-- Word characters stand on both sides or on none. -/
  | noBoundary
  | start
  | stop
  /-- No word character stands before. -/
  | startHalf
  /-- No word character stands after. -/
  | stopHalf
deriving DecidableEq

/-- Whether a place is as asserted, given whether word characters stand before and after it. -/
def WordEdge.holds (before after : Bool) : WordEdge → Bool
  | .boundary => before != after
  | .noBoundary => before == after
  | .start => !before && after
  | .stop => before && !after
  | .startHalf => !before
  | .stopHalf => !after

/-- An assertion about a place in a text. -/
inductive Look
  | textStart
  | textEnd
  | lineStart
  | lineEnd
  /-- Lines may end in a carriage return, a line feed or both. -/
  | lineStartCRLF
  | lineEndCRLF
  /-- Words are those of Unicode or those of ASCII. -/
  | word (unicode : Bool) (edge : WordEdge)
deriving DecidableEq

/-- A regular expression. -/
inductive Regex
  /-- The empty text. -/
  | empty
  /-- A character of a set. -/
  | one (set : Text.CharSet)
  | look (assertion : Look)
  | cat (a b : Regex)
  | alt (a b : Regex)
  /-- At least `min` times, and at most `max` times if there is a maximum. Whether more or fewer
  times are tried first makes no difference to whether a text matches. -/
  | loop (a : Regex) (min : Nat) (max : Option Nat) (greedy : Bool)
  /-- A part between parentheses, with its number if what it matches is kept. -/
  | group (number : Option Nat) (a : Regex)
deriving DecidableEq

/-- Whether an assertion holds at a place of a text. -/
def Look.holds (text : Array Char) (i : Nat) : Look → Bool
  | .textStart => i == 0
  | .textEnd => i == text.size
  | .lineStart => i == 0 || text[i - 1]? == some '\n'
  | .lineEnd => i == text.size || text[i]? == some '\n'
  | .lineStartCRLF =>
    i == 0 || text[i - 1]? == some '\n' ||
      (text[i - 1]? == some '\x0d' && text[i]? != some '\n')
  | .lineEndCRLF =>
    i == text.size || text[i]? == some '\x0d' ||
      (text[i]? == some '\n' && (i == 0 || text[i - 1]? != some '\x0d'))
  | .word unicode edge =>
    edge.holds (i != 0 && text[i - 1]?.any (CharClass.isWord unicode))
      (text[i]?.any (CharClass.isWord unicode))

namespace Regex

/-! ## Meaning -/

mutual

/-- The part of the text from `i` to `j` matches. -/
inductive Matches (text : Array Char) : Regex → Nat → Nat → Prop
  | empty (i : Nat) : Matches text .empty i i
  | one {set : Text.CharSet} {i : Nat} {c : Char} :
    text[i]? = some c → set.contains c = true → Matches text (.one set) i (i + 1)
  | look {l : Look} {i : Nat} : l.holds text i = true → Matches text (.look l) i i
  | cat {a b : Regex} {i j k : Nat} :
    Matches text a i j → Matches text b j k → Matches text (.cat a b) i k
  | altLeft {a b : Regex} {i j : Nat} : Matches text a i j → Matches text (.alt a b) i j
  | altRight {a b : Regex} {i j : Nat} : Matches text b i j → Matches text (.alt a b) i j
  | loop {a : Regex} {min : Nat} {max : Option Nat} {greedy : Bool} {n i j : Nat} :
    Repeats text a n i j → min ≤ n → (∀ m, max = some m → n ≤ m) →
      Matches text (.loop a min max greedy) i j
  | group {number : Option Nat} {a : Regex} {i j : Nat} :
    Matches text a i j → Matches text (.group number a) i j

/-- The part of the text from `i` to `j` is made of `n` parts that match. -/
inductive Repeats (text : Array Char) : Regex → Nat → Nat → Nat → Prop
  | zero {a : Regex} (i : Nat) : Repeats text a 0 i i
  | succ {a : Regex} {n i j k : Nat} :
    Matches text a i j → Repeats text a n j k → Repeats text a (n + 1) i k

end

/-! ## Sets of places

A set of places is a list of them in increasing order. -/

/-- The union of two sets. -/
def unite : List Nat → List Nat → List Nat
  | [], ys => ys
  | x :: xs, ys => merge x (unite xs) ys
where
  /-- A place joins a set, with others that come after it and join it by `rest`. -/
  merge (x : Nat) (rest : List Nat → List Nat) : List Nat → List Nat
    | [] => x :: rest []
    | y :: ys =>
      if x < y then x :: rest (y :: ys) else if x = y then x :: rest ys else y :: merge x rest ys

/-- The places of one set that are not in another. -/
def minus : List Nat → List Nat → List Nat
  | [], _ => []
  | x :: xs, ys => skipTo x (minus xs) ys
where
  /-- A place stays unless it is in a set, with others that come after it and stay by `rest`. -/
  skipTo (x : Nat) (rest : List Nat → List Nat) : List Nat → List Nat
    | [] => x :: rest []
    | y :: ys => if x < y then x :: rest (y :: ys) else if x = y then rest ys else skipTo x rest ys

theorem mem_unite {z : Nat} (xs ys : List Nat) : z ∈ unite xs ys ↔ z ∈ xs ∨ z ∈ ys := by
  induction xs generalizing ys with
  | nil => simp [unite]
  | cons x xs ih =>
    unfold unite
    induction ys with
    | nil => simp [unite.merge, ih]
    | cons y ys ihy =>
      unfold unite.merge
      split
      · simp [ih, or_assoc]
      · split
        · next h =>
          subst h
          simp [ih]
          grind
        · simp only [List.mem_cons, ihy]
          grind

/-! ## Search -/

/-- The places reached by exactly `n` steps. Once a step changes nothing, no other step does. -/
def iterate (step : List Nat → List Nat) : Nat → List Nat → List Nat
  | 0, places => places
  | n + 1, places =>
    let next := step places
    if next = places then places else iterate step n next

/-- The places reached by at most `n` steps from the newest of those seen. -/
def closure (step : List Nat → List Nat) : Nat → List Nat → List Nat → List Nat
  | 0, seen, _ => seen
  | n + 1, seen, newest =>
    let next := minus (step newest) seen
    if next.isEmpty then seen else closure step n (unite seen next) next

/-- The places where a match that starts at one of a set of places can end. A text has one place
more than it has characters, so that many steps reach all that any number of steps reaches. -/
def ends (text : Array Char) : Regex → List Nat → List Nat
  | .empty, places => places
  | .one set, places =>
    places.filterMap fun i => if text[i]?.any set.contains then some (i + 1) else none
  | .look l, places => places.filter fun i => l.holds text i
  | .cat a b, places => ends text b (ends text a places)
  | .alt a b, places => unite (ends text a places) (ends text b places)
  | .group _ a, places => ends text a places
  | .loop a min max _, places =>
    let start := iterate (ends text a) min places
    closure (ends text a) (max.elim (text.size + 1) (· - min)) start start

/-- Whether some part of a text matches. -/
def isMatch (r : Regex) (s : String) : Bool :=
  let text := s.toList.toArray
  !(r.ends text (List.range (text.size + 1))).isEmpty

end Regex
end Guardrail
