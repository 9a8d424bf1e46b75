import Guardrail.Proofs.Json.Equality
import Guardrail.Proofs.Pass.Annotated
import Guardrail.Proofs.Pass.Audit

/-!
# What a pass leaves alone in the annotated document

The annotated document starts as the parsed value, and all that is done to it is to put values at
units. A place that is neither on the way to a path of an entry nor below one is apart from all
units, so what stands there stays, whatever is fixed, removed or marked elsewhere. A pass with
nothing to correct does the same to both documents, and nothing at all if no fix was made.

Results:
* `get?_annotated_of_apart`: a place apart from the paths of all entries keeps its value.
* `annotated_eq_validated`: without corrections both documents are the same.
* `annotated_eq_self`: without failures of fixing validators either, they are the parsed value.
* `annotated_law`: these together.
-/

namespace Guardrail.Pass

variable {metadata : Metadata} {unit : String} {vs : List BoundValidator} {run run' : UnitRun}
  {found value : Json} {map : ValidatorMap} {pass : Pass} {q : Path}

/-! ## Places apart from all units -/

/-- A place apart from the paths of all entries keeps its value. -/
theorem get?_annotated_of_apart (hv : value.WellFormed)
    (h : Pass.run value map metadata = .ok pass)
    (hq : ∀ e ∈ map.entries, ∀ u, Path.StandsFor e.1 u → Path.Apart q u) :
    q.get? pass.annotated = q.get? value := by
  rw [(annotated_eq_setAll hv h).1]
  apply Path.get?_setAll_of_apart
  intro w hw
  obtain ⟨visit, hvisit, hput⟩ := List.mem_filterMap.1 hw
  obtain ⟨x, -, rfl⟩ := Option.map_eq_some_iff.1 hput
  obtain ⟨mid, rest, hsplit, -, hunit⟩ := mem_visits hvisit
  have hentry : visit.entry ∈ map.processingOrder := by
    rw [hsplit]
    simp
  have hstands := Path.standsFor_of_mem_resolve hunit
  exact hq visit.entry (List.mem_mergeSort.1 hentry) visit.unit hstands

/-! ## Passes with nothing to correct -/

/-- As long as nothing has to be corrected, both documents are treated alike. -/
theorem cumulative_alike : Cumulative metadata value fun _ s s' =>
    s.corrections <+: s'.corrections ∧
      (s'.corrections = s.corrections → s.removals = [] → s.annotated = s.validated →
        s'.removals = [] ∧ s'.annotated = s'.validated) := by
  apply cumulative_of_uncorrected
  · intro s hr hsame
    exact ⟨hr, hsame⟩
  · intro here later s s₁ s' hhere hlater hr hsame
    obtain ⟨hr₁, hsame₁⟩ := hhere hr hsame
    exact hlater hr₁ hsame₁
  · intro here s s' hhere hr hsame
    obtain ⟨hr', hsame'⟩ := hhere hr hsame
    refine ⟨rfl, ?_⟩
    unfold State.flush
    rw [hr']
    exact hsame'
  · intro visit found run s _ _ hr hsame
    rw [apply_keep]
    split
    · exact ⟨hr, hsame⟩
    · refine ⟨hr, ?_⟩
      show visit.unit.set run.value s.annotated = visit.unit.set run.value s.validated
      rw [hsame]

/-- Only failures of fixing validators change the value of a run. -/
theorem value_of_unfixed (h : vs.foldlM (UnitRun.step unit metadata) run = .ok run')
    (hfix : ∀ l ∈ run'.logs, l.policy = .fix → l.verdict = .pass) : run'.value = run.value := by
  induction vs generalizing run with
  | nil => cases h; rfl
  | cons v vs ih =>
    obtain ⟨run₁, hstep, hrest⟩ := foldlM_cons_eq_ok h
    rw [ih hrest]
    have hrecord : run.record metadata unit v ∈ run'.logs := by
      obtain ⟨records, hlogs, -⟩ := forall₂_records_of_foldlM hrest
      rw [hlogs, UnitRun.logs_of_step hstep]
      simp
    obtain ⟨-, rfl⟩ | ⟨failure, hcheck, ⟨-, hpolicy, -⟩ | ⟨-, -, rfl⟩ | ⟨-, -, rfl⟩ |
      ⟨-, -, rfl⟩⟩ := UnitRun.step_cases hstep
    · rfl
    · have hpass : v.validator.check run.value metadata = .pass := hfix _ hrecord hpolicy
      rw [hpass] at hcheck
      cases hcheck
    · rfl
    · rfl
    · rfl

/-- As long as nothing has to be corrected and no fixing validator fails, the annotated document
stays as it is. -/
theorem cumulative_unfixed : Cumulative metadata value fun _ s s' =>
    s.corrections <+: s'.corrections ∧
      (s'.corrections = s.corrections → s.logs <+: s'.logs ∧
        ((∀ l ∈ s'.logs, l.policy = .fix → l.verdict = .pass) → s'.annotated = s.annotated)) := by
  apply cumulative_of_uncorrected
  · intro s
    exact ⟨List.prefix_refl _, fun _ => rfl⟩
  · rintro here later s s₁ s' ⟨hlogs, hhere⟩ ⟨hlogs', hlater⟩
    refine ⟨hlogs.trans hlogs', ?_⟩
    intro hfix
    rw [hlater hfix]
    exact hhere fun l hl => hfix l (hlogs'.subset hl)
  · intro here s s' hhere
    exact hhere
  · intro visit found run s _ hrun
    have hlogs : (State.apply { s with logs := s.logs ++ run.logs } visit.unit found
        (.keep run.value)).logs = s.logs ++ run.logs := logs_apply
    refine ⟨⟨_, hlogs.symm⟩, ?_⟩
    intro hfix
    have hvalue : run.value = found := by
      apply value_of_unfixed hrun
      intro l hl
      exact hfix l (by rw [hlogs]; exact List.mem_append_right _ hl)
    have hsame : (run.value == found) = true := by
      rw [hvalue]
      exact Json.beq_self found
    rw [apply_keep, if_pos hsame]

/-- Without corrections both documents are the same. -/
theorem annotated_eq_validated (hv : value.WellFormed)
    (h : Pass.run value map metadata = .ok pass) (hnone : pass.corrections = []) :
    pass.annotated = pass.validated.getD .null := by
  obtain ⟨s, ⟨-, halike⟩, rfl⟩ := cumulative_alike.run hv h
  obtain ⟨-, hsame⟩ := halike hnone rfl rfl
  show s.annotated = _
  rw [hsame]
  cases s.validated <;> rfl

/-- Without corrections and failures of fixing validators the value stays as it is. -/
theorem annotated_eq_self (hv : value.WellFormed)
    (h : Pass.run value map metadata = .ok pass) (hnone : pass.corrections = [])
    (hfix : ∀ l ∈ pass.logs, l.policy = .fix → l.verdict = .pass) : pass.annotated = value := by
  obtain ⟨s, ⟨-, hunfixed⟩, rfl⟩ := cumulative_unfixed.run hv h
  obtain ⟨-, hsame⟩ := hunfixed hnone
  exact hsame hfix

/-- A place that is neither on the way to a path that an entry stands for nor below one has the same
value in the annotated document as in the parsed one, whatever the pass does elsewhere. If there is
nothing to correct, the annotated document is what the pass leaves of the value, and the value
itself if no fixing validator failed either. -/
theorem annotated_law (hv : value.WellFormed) (h : Pass.run value map metadata = .ok pass) :
    (∀ q : Path, (∀ e ∈ map.entries, ∀ u, Path.StandsFor e.1 u → ¬ q <+: u ∧ ¬ u <+: q) →
      q.get? pass.annotated = q.get? value) ∧
    (pass.corrections = [] →
      pass.annotated = pass.validated.getD .null ∧
        ((∀ l ∈ pass.logs, l.policy = .fix → l.verdict = .pass) → pass.annotated = value)) := by
  constructor
  · intro q hq
    exact get?_annotated_of_apart hv h hq
  · intro hnone
    refine ⟨annotated_eq_validated hv h hnone, ?_⟩
    intro hfix
    exact annotated_eq_self hv h hnone hfix

/-- The item behind one that is removed keeps its index, and a list in which every item is allowed
stays as it is. -/
theorem annotated_law_of_list :
    let value := Json.arr [.str "x", .str "y"]
    let strict : ValidatorMap := ⟨[([.index 0], [⟨.choices [.str "y"], .filter⟩])]⟩
    let mild : ValidatorMap := ⟨[([.wildcard], [⟨.choices [.str "x", .str "y"], .fix⟩])]⟩
    value.WellFormed ∧
      (∃ pass, Pass.run value strict [] = .ok pass ∧ pass.validated = some (.arr [.str "y"]) ∧
        Path.get? [.index 1] pass.annotated = some (.str "y")) ∧
      ∃ pass, Pass.run value mild [] = .ok pass ∧ pass.corrections = [] ∧
        pass.annotated = value := by
  intro value strict mild
  have hv : value.WellFormed := ⟨trivial, trivial, trivial⟩
  have hstrict : ∃ pass, Pass.run value strict [] = .ok pass ∧
      pass.validated = some (.arr [.str "y"]) := by
    unfold Pass.run ValidatorMap.processingOrder
    rw [List.mergeSort_singleton]
    exact ⟨_, rfl, rfl⟩
  have hmild : ∃ pass, Pass.run value mild [] = .ok pass ∧ pass.corrections = [] ∧
      pass.logs.all (·.verdict.isPass) = true := by
    unfold Pass.run ValidatorMap.processingOrder
    rw [List.mergeSort_singleton]
    exact ⟨_, rfl, rfl, rfl⟩
  obtain ⟨pass, hpass, hvalidated⟩ := hstrict
  obtain ⟨pass', hpass', hnone, hlogs⟩ := hmild
  refine ⟨hv, ⟨pass, hpass, hvalidated, ?_⟩, pass', hpass', hnone, ?_⟩
  · rw [(annotated_law hv hpass).1]
    · rfl
    · intro e he u hu
      obtain rfl := List.mem_singleton.1 he
      obtain ⟨t, u', ht, hu', rfl⟩ := List.forall₂_cons_left_iff.1 hu.2
      obtain rfl := List.forall₂_nil_left_iff.1 hu'
      obtain rfl := Segment.reaches_iff.1 ht (by decide)
      exact ⟨by decide, by decide⟩
  · refine ((annotated_law hv hpass').2 hnone).2 fun l hl _ => ?_
    have hl' := List.all_eq_true.1 hlogs l hl
    cases hverdict : l.verdict with
    | pass => rfl
    | fail failure =>
      rw [hverdict] at hl'
      cases hl'

end Guardrail.Pass
