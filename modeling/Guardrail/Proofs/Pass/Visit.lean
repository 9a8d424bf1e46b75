import Guardrail.Proofs.Path.Frame
import Guardrail.Proofs.Pass.Unit

/-!
# A visit of a unit

All that a visit does to the state of a pass: it adds the records of the validators, the correction
that they ask for, if any, and puts what is left of the unit in its place, or leaves the unit for
removal.

Results:
* `visitUnit_cases`: a visit that does not abort finds nothing, or does all that.
-/

namespace Guardrail.Pass

variable {metadata : Metadata} {vs : List BoundValidator} {s s' : State} {unit : Path}
  {found v : Json} {d : Disposition}

/-! ## Carrying out a disposition -/

theorem apply_keep {value : Json} :
    s.apply unit found (.keep value) =
      if value == found then s
      else { s.put unit value with annotated := unit.set value s.annotated } := rfl

theorem logs_apply : (s.apply unit found d).logs = s.logs := by
  cases d with
  | keep value =>
    rw [apply_keep]
    split <;> rfl
  | block policy c =>
    cases policy <;> cases hfix : c.fix? <;>
      simp [State.apply, State.mark, State.put, State.drop, hfix]

theorem corrections_apply :
    (s.apply unit found d).corrections = s.corrections ++ d.correction?.toList := by
  cases d with
  | keep value =>
    rw [apply_keep]
    split <;> simp [Disposition.correction?, State.put]
  | block policy c =>
    cases policy <;> cases hfix : c.fix? <;>
      simp [State.apply, Disposition.correction?, State.mark, State.put, State.drop, hfix]

theorem reasks_apply : (s.apply unit found d).reasks = s.reasks ++ d.reask?.toList := by
  cases d with
  | keep value =>
    rw [apply_keep]
    split <;> simp [Disposition.reask?, State.put]
  | block policy c =>
    cases policy <;> cases hfix : c.fix? <;>
      simp [State.apply, Disposition.reask?, State.mark, State.put, State.drop, hfix]

/-- What is left of a unit takes its place. A value equal to the one found need not be put there. -/
theorem apply_of_left_eq_some (hfound : unit.get? s.validated = some found)
    (h : d.left found = some v) :
    (s.apply unit found d).validated = unit.set v s.validated ∧
      (s.apply unit found d).removals = s.removals := by
  cases d with
  | keep value =>
    simp only [Disposition.left, Option.some.injEq] at h
    rw [apply_keep]
    by_cases heq : (value == found) = true
    · rw [if_pos heq] at h ⊢
      rw [← h, Path.set_eq_self hfound]
      exact ⟨rfl, rfl⟩
    · rw [if_neg heq] at h ⊢
      rw [← h]
      exact ⟨rfl, rfl⟩
  | block policy c =>
    cases policy <;> simp only [Disposition.left, Option.some.injEq, reduceCtorEq] at h <;>
      simp [State.apply, State.mark, State.put, h]

/-- A unit of which nothing is left stays where it is until the entry is through. -/
theorem apply_of_left_eq_none (h : d.left found = none) :
    (s.apply unit found d).validated = s.validated ∧
      (s.apply unit found d).removals = s.removals ++ [unit] := by
  cases d with
  | keep value => simp [Disposition.left] at h
  | block policy c =>
    cases policy <;> simp only [Disposition.left, reduceCtorEq] at h <;>
      simp [State.apply, State.mark, State.drop, h]

/-! ## The visit -/

/-- The state after a visit of a unit at which `found` stood, with the records of the visit. -/
structure Visited (metadata : Metadata) (vs : List BoundValidator) (s : State) (unit : Path)
    (found : Json) (records : List LogEntry) (s' : State) : Prop where
  records_eq : List.Forall₂ (Records metadata unit.render) vs records
  first_eq : ∀ first ∈ records.head?, first.before = found
  logs_eq : s'.logs = s.logs ++ records
  corrections_eq : s'.corrections = s.corrections ++ (correction? records).toList
  reasks_eq : s'.reasks =
    s.reasks ++ (if asksAgain records then correction? records else none).toList
  put_eq : ∀ v, settle metadata found vs found = some v →
    s'.validated = unit.set v s.validated ∧ s'.removals = s.removals
  drop_eq : settle metadata found vs found = none →
    s'.validated = s.validated ∧ s'.removals = s.removals ++ [unit]

/-- A visit that does not abort the pass runs the validators on what it finds, and carries out what
becomes of the unit. -/
theorem visitUnit_eq_ok (hfound : unit.get? s.validated = some found)
    (h : visitUnit metadata vs s unit = .ok s') :
    ∃ run, UnitRun.ofUnit unit.render metadata vs found = .ok run ∧
      s' = State.apply { s with logs := s.logs ++ run.logs } unit found
        (run.disposition unit.render found) := by
  unfold visitUnit at h
  rw [hfound] at h
  cases hrun : UnitRun.ofUnit unit.render metadata vs found with
  | error abort => simp [hrun] at h
  | ok run =>
    simp only [hrun, Except.ok.injEq] at h
    exact ⟨run, rfl, h.symm⟩

/-- All that a visit of a unit can do, unless it aborts the pass. -/
theorem visitUnit_cases (h : visitUnit metadata vs s unit = .ok s') :
    (unit.get? s.validated = none ∧ s' = s) ∨
      ∃ found records, unit.get? s.validated = some found ∧
        Visited metadata vs s unit found records s' := by
  cases hfound : unit.get? s.validated with
  | none =>
    unfold visitUnit at h
    simp only [hfound, Except.ok.injEq] at h
    exact .inl ⟨rfl, h.symm⟩
  | some found =>
    obtain ⟨run, hrun, rfl⟩ := visitUnit_eq_ok hfound h
    obtain ⟨hall, hfirst⟩ := forall₂_records_of_ofUnit hrun
    refine .inr ⟨found, run.logs, rfl, hall, hfirst, logs_apply, ?_, ?_, ?_, ?_⟩
    · rw [corrections_apply, correction_of_ofUnit hrun]
    · rw [reasks_apply, reask_of_ofUnit hrun]
    · intro v hv
      exact apply_of_left_eq_some hfound ((left_of_ofUnit hrun).trans hv)
    · intro hv
      exact apply_of_left_eq_none ((left_of_ofUnit hrun).trans hv)

end Guardrail.Pass
