import Guardrail.Regex.Basic

/-!
# Blueprints of expressions

A blueprint is what an automaton is built from: an expression less what makes no difference to it,
in a simplified form. Characters in a row are one literal; a sequence holds no sequence and a choice
no choice; what is repeated no time is gone, and what is repeated once is not repeated; a choice
between characters or between sets is a set; and what all branches of a choice begin with stands
before the choice.
-/

namespace Guardrail.Regex

open Text

/-- What an automaton is built from. -/
inductive Blueprint
  | empty
  | literal (cs : List Char)
  /-- A character of a set of none, or of more than one. -/
  | set (s : CharSet)
  | look (assertion : Look)
  | capture (number : Nat) (a : Blueprint)
  | loop (a : Blueprint) (min : Nat) (max : Option Nat) (greedy : Bool)
  /-- A factor before the rest of a sequence. -/
  | seq (a b : Blueprint)
  /-- A branch beside the rest of a choice. -/
  | choice (a b : Blueprint)
deriving DecidableEq

namespace Blueprint

/-! ## Lengths -/

/-- The least number of bytes that match, if anything can. -/
def minLength : Blueprint → Option Nat
  | .empty => some 0
  | .literal cs => some (cs.map (·.utf8Size)).sum
  | .set s => (s.head?).map fun r => (Char.ofNat r.1).utf8Size
  | .look _ => some 0
  | .capture _ a => a.minLength
  | .loop a min _ _ => a.minLength.map (· * min)
  | .seq a b => a.minLength.bind fun m => b.minLength.map (m + ·)
  | .choice a b => a.minLength.bind fun m => b.minLength.map (Nat.min m ·)

/-- The greatest number of bytes that match, if anything can and there is one. -/
def maxLength : Blueprint → Option Nat
  | .empty => some 0
  | .literal cs => some (cs.map (·.utf8Size)).sum
  | .set s => (s.getLast?).map fun r => (Char.ofNat r.2).utf8Size
  | .look _ => some 0
  | .capture _ a => a.maxLength
  | .loop a _ max _ => max.bind fun n => a.maxLength.map (· * n)
  | .seq a b => a.maxLength.bind fun m => b.maxLength.map (m + ·)
  | .choice a b => a.maxLength.bind fun m => b.maxLength.map (Nat.max m ·)

/-! ## Parts -/

/-- The factors of a sequence. What is not a sequence is its own factor. -/
def factors : Blueprint → List Blueprint
  | .empty => []
  | .seq a b => a :: b.factors
  | p => [p]

/-- The branches of a choice. What is not a choice is its own branch. -/
def branches : Blueprint → List Blueprint
  | .choice a b => a :: b.branches
  | p => [p]

/-- The sequence of factors. -/
def ofFactors : List Blueprint → Blueprint
  | [] => .empty
  | [p] => p
  | p :: ps => .seq p (ofFactors ps)

/-- The choice between branches. -/
def ofBranches : List Blueprint → Blueprint
  | [] => .set []
  | [p] => p
  | p :: ps => .choice p (ofBranches ps)

/-- The number of parts, of whatever kind. -/
def size : Blueprint → Nat
  | .capture _ a => a.size + 1
  | .loop a _ _ _ => a.size + 1
  | .seq a b => a.size + b.size + 1
  | .choice a b => a.size + b.size + 1
  | _ => 1

/-! ## Simplification -/

/-- A character of a set. -/
def ofSet (s : CharSet) : Blueprint :=
  match s.diff .surrogates with
  | [(first, last)] =>
    if first = last then .literal [Char.ofNat first] else .set [(first, last)]
  | s => .set s

/-- A factor before others; two literals in a row are one. -/
def prepend : Blueprint → List Blueprint → List Blueprint
  | .literal cs, .literal ds :: rest => .literal (cs ++ ds) :: rest
  | p, rest => p :: rest

/-- A sequence. -/
def concat (ps : List Blueprint) : Blueprint :=
  ofFactors ((ps.flatMap factors).foldr prepend [])

/-- A repetition. More than one repetition of what matches the empty text alone is as good as
one. -/
def repeated (a : Blueprint) (min : Nat) (max : Option Nat) (greedy : Bool) : Blueprint :=
  let (min, max) :=
    if a.maxLength = some 0 then (Nat.min min 1, some (max.elim 1 (Nat.min · 1))) else (min, max)
  if min = 0 ∧ max = some 0 then .empty
  else if min = 1 ∧ max = some 1 then a
  else .loop a min max greedy

/-- The set of the character that a literal of one is. -/
def singleton? : Blueprint → Option CharSet
  | .literal [c] => some (.single c)
  | _ => none

/-- The set that a blueprint is. -/
def set? : Blueprint → Option CharSet
  | .set s => some s
  | _ => none

/-- The factors of a sequence of more than one. -/
def sequence? : Blueprint → Option (List Blueprint)
  | .seq a b => some (a :: b.factors)
  | _ => none

/-- The longest list that two lists begin with. -/
def commonPart (ps qs : List Blueprint) : List Blueprint :=
  ((ps.zip qs).takeWhile fun (p, q) => p = q).map (·.1)

/-- The factors that all the branches of a choice begin with. -/
def sharedFactors (ps : List Blueprint) : List Blueprint :=
  match ps.mapM sequence? with
  | some (first :: rest) => rest.foldl commonPart first
  | _ => []

/-- A choice. Shared factors leave fewer parts to choose from, whose number bounds how often that
happens. -/
def choose (fuel : Nat) (ps : List Blueprint) : Blueprint :=
  match ps.flatMap branches with
  | [] => .set []
  | [p] => p
  | ps =>
    match (ps.mapM singleton?).or (ps.mapM set?) with
    | some sets => ofSet (.unions sets)
    | none =>
      match fuel, sharedFactors ps with
      | fuel + 1, p :: shared =>
        let rests := ps.map fun q => concat (q.factors.drop (shared.length + 1))
        concat (p :: shared ++ [choose fuel rests])
      | _, _ => ofBranches ps

/-- A choice. -/
def chosen (ps : List Blueprint) : Blueprint := choose (ps.foldl (fun n p => n + p.size) 0) ps

/-- The branches of an expression, each simplified. -/
def branchesOf : Regex → List Blueprint
  | .empty => [.empty]
  | .one s => [ofSet s]
  | .look l => [.look l]
  | .cat a b => [concat [chosen (branchesOf a), chosen (branchesOf b)]]
  | .alt a b => branchesOf a ++ branchesOf b
  | .loop a min max greedy => [repeated (chosen (branchesOf a)) min max greedy]
  | .group none a => [chosen (branchesOf a)]
  | .group (some n) a => [.capture n (chosen (branchesOf a))]

/-- The blueprint of an expression. -/
def ofRegex (r : Regex) : Blueprint := chosen (branchesOf r)

/-! ## Anchors -/

/-- Whether a match can only start where the text does. -/
def startsText : Blueprint → Bool
  | .look l => l = .textStart
  | .capture _ a => a.startsText
  | .loop a min _ _ => 0 < min && a.startsText
  | .seq a b => a.startsText || (a.maxLength == some 0 && b.startsText)
  | .choice a b => a.startsText && b.startsText
  | _ => false

/-- Whether a match can only end where the text does. -/
def stopsText : Blueprint → Bool
  | .look l => l = .textEnd
  | .capture _ a => a.stopsText
  | .loop a min _ _ => 0 < min && a.stopsText
  | .seq a b => b.stopsText || (b.maxLength == some 0 && a.stopsText)
  | .choice a b => a.stopsText && b.stopsText
  | _ => false

end Blueprint
end Guardrail.Regex
