import Guardrail.Regex.Footprint
import Guardrail.Regex.Parser

/-!
# The limit on the size of patterns

A pattern is refused if an automaton for it would take too many bytes, whether it reads forwards or
backwards.

* `compile_eq_ok_iff`: a pattern is accepted if it can be read and is small enough.
-/

namespace Guardrail.Regex

/-- Whether an automaton keeps within the limit. -/
def Blueprint.fits (p : Blueprint) (d : Direction) : Bool :=
  ((automaton d p).run maxFootprint ⟨0, 0⟩).isSome

/-- Whether the automata of an expression keep within the limit. -/
def fits (r : Regex) : Bool :=
  let p := Blueprint.ofRegex r
  p.fits .forwards && p.fits .backwards

/-- The expression that a pattern stands for, if its automata keep within the limit. -/
def compile (pattern : String) : Except Fault Regex := do
  let r ← parse pattern
  if r.fits then .ok r else .error .tooLarge

theorem compile_eq_ok_iff {pattern : String} {r : Regex} :
    compile pattern = .ok r ↔ parse pattern = .ok r ∧ r.fits = true := by
  unfold compile
  cases parse pattern with
  | error fault => simp [bind, Except.bind]
  | ok s =>
    simp only [bind, Except.bind]
    constructor
    · intro h
      split at h
      · next hf =>
        cases h
        exact ⟨rfl, hf⟩
      · cases h
    · intro ⟨h, hf⟩
      cases h
      exact if_pos hf

end Guardrail.Regex
