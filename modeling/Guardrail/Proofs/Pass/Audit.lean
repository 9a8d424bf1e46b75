import Guardrail.Proofs.Pass.Visits

/-!
# What the log of a pass says

The log of a pass falls into groups, one for each unit on which validators ran, and everything that
the pass reports can be read off the groups: what has to be corrected, what is asked for again, and
so whether anything was blocked.

Results:
* `Visited.adds`, `cumulative_adds`: the group that a visit adds, and that groups add up.
* `run_adds`: the groups of a whole pass.
* `validated_of_corrections_eq_nil`: without fixes, a pass with nothing to correct leaves the value
  as it is.
* `any_isBlockingFailure_logs`: a pass has something to correct exactly if its log holds a blocking
  failure.
-/

namespace Guardrail.Pass

/-! ## The records of visits -/

/-- The records of a visit: one for each validator, in order of attachment, and the first is about
the value that stands at the unit. -/
def Visit.Recorded (metadata : Metadata) (value : Json) (visit : Visit)
    (records : List LogEntry) : Prop :=
  List.Forall₂ (Records metadata visit.unit.render) visit.entry.2 records ∧
    ∀ first ∈ records.head?,
      visit.unit.get? (visit.document metadata value) = some first.before

/-- The later state has the records of some more units, and what is to be corrected there. -/
structure Adds (s : State) (groups : List (List LogEntry)) (s' : State) : Prop where
  logs_eq : s'.logs = s.logs ++ groups.flatten
  corrections_eq : s'.corrections = s.corrections ++ groups.filterMap correction?
  reasks_eq : s'.reasks = s.reasks ++ (groups.filter asksAgain).filterMap correction?

variable {metadata : Metadata} {vs : List BoundValidator} {s s₁ s' : State} {unit : Path}
  {found value : Json} {records : List LogEntry} {groups more : List (List LogEntry)}
  {map : ValidatorMap} {pass : Pass}

theorem Adds.refl (s : State) : Adds s [] s := by
  constructor <;> simp

theorem Adds.trans (h : Adds s groups s₁) (h' : Adds s₁ more s') : Adds s (groups ++ more) s' := by
  constructor
  · rw [h'.logs_eq, h.logs_eq, List.flatten_append, List.append_assoc]
  · rw [h'.corrections_eq, h.corrections_eq, List.filterMap_append, List.append_assoc]
  · rw [h'.reasks_eq, h.reasks_eq, List.filter_append, List.filterMap_append, List.append_assoc]

theorem Visited.adds (h : Visited metadata vs s unit found records s') : Adds s [records] s' := by
  constructor
  · rw [h.logs_eq, List.flatten_singleton]
  · rw [h.corrections_eq]
    cases hcorr : correction? records <;> simp [hcorr]
  · rw [h.reasks_eq]
    cases hasks : asksAgain records <;> cases hcorr : correction? records <;>
      simp [hasks, hcorr]

/-- The visits leave their records, one group each. -/
theorem cumulative_adds : Cumulative metadata value fun visits s s' =>
    ∃ groups, List.Forall₂ (Visit.Recorded metadata value) visits groups ∧ Adds s groups s' where
  refl s := ⟨[], .nil, Adds.refl s⟩
  trans := by
    rintro here later s s₁ s' ⟨groups, hall, hadds⟩ ⟨more, hmore, hadds'⟩
    exact ⟨groups ++ more, List.rel_append hall hmore, hadds.trans hadds'⟩
  flush := by
    -- the removals at the end of an entry report nothing
    rintro here s s' ⟨groups, hall, hadds⟩
    exact ⟨groups, hall, ⟨hadds.logs_eq, hadds.corrections_eq, hadds.reasks_eq⟩⟩
  visit := by
    intro visit found s s' hdocument hfound h
    obtain ⟨hnone, -⟩ | ⟨found', records, hfound', hvisited⟩ := visitUnit_cases h
    · rw [hfound] at hnone
      cases hnone
    · have hfirst : ∀ first ∈ records.head?,
          visit.unit.get? (visit.document metadata value) = some first.before := by
        intro first hf
        rw [hdocument, ← hfound, hfound', hvisited.first_eq first hf]
      exact ⟨[records], .cons ⟨hvisited.records_eq, hfirst⟩ .nil, hvisited.adds⟩

/-! ## The pass -/

/-- A pass leaves the records of all its visits and reports what they say. -/
theorem run_adds (hv : value.WellFormed) (h : Pass.run value map metadata = .ok pass) :
    ∃ groups, List.Forall₂ (Visit.Recorded metadata value)
        (visits metadata value [] map.processingOrder) groups ∧
      pass.logs = groups.flatten ∧
      pass.corrections = groups.filterMap correction? ∧
      pass.reasks = (groups.filter asksAgain).filterMap correction? := by
  obtain ⟨s, ⟨groups, hall, hadds⟩, rfl⟩ := cumulative_adds.run hv h
  exact ⟨groups, hall, by simpa [State.initial] using hadds.logs_eq,
    by simpa [State.initial] using hadds.corrections_eq,
    by simpa [State.initial] using hadds.reasks_eq⟩

theorem correction?_isSome (records : List LogEntry) :
    (correction? records).isSome = records.any (·.isBlockingFailure) := by
  unfold correction? blocking?
  rw [← List.isSome_find?]
  cases hl : records.find? (·.isBlockingFailure) with
  | none => cases records.head? <;> rfl
  | some l =>
    cases records with
    | nil => cases hl
    | cons first rest => rfl

theorem isEmpty_filterMap_correction? (groups : List (List LogEntry)) :
    (groups.filterMap correction?).isEmpty = !groups.flatten.any (·.isBlockingFailure) := by
  induction groups with
  | nil => rfl
  | cons records groups ih =>
    have hhead := correction?_isSome records
    rw [List.flatten_cons, List.any_append, ← hhead]
    cases hc : correction? records with
    | none => rw [List.filterMap_cons_none hc, ih]; simp
    | some c => rw [List.filterMap_cons_some hc]; simp

/-- A pass has something to correct exactly if its log holds a blocking failure. -/
theorem any_isBlockingFailure_logs (hv : value.WellFormed)
    (h : Pass.run value map metadata = .ok pass) :
    pass.logs.any (·.isBlockingFailure) = !pass.corrections.isEmpty := by
  obtain ⟨groups, -, hlogs, hcorrections, -⟩ := run_adds hv h
  rw [hlogs, hcorrections, isEmpty_filterMap_correction?, Bool.not_not]

/-- What is asked for again is part of what has to be corrected, in the same order. -/
theorem reasks_sublist_corrections (hv : value.WellFormed)
    (h : Pass.run value map metadata = .ok pass) : pass.reasks.Sublist pass.corrections := by
  obtain ⟨groups, -, -, hcorrections, hreasks⟩ := run_adds hv h
  rw [hcorrections, hreasks]
  exact List.filter_sublist.filterMap correction?

/-! ## Passes with nothing to correct -/

/-- As long as nothing is fixed and nothing has to be corrected, the document stays as it is. -/
theorem cumulative_unchanged : Cumulative metadata value fun visits s s' =>
    s.corrections <+: s'.corrections ∧
      (s'.corrections = s.corrections →
        (∀ visit ∈ visits, ∀ v ∈ visit.entry.2, v.policy ≠ .fix) → s.removals = [] →
          s'.validated = s.validated ∧ s'.removals = []) := by
  apply cumulative_of_uncorrected
  · intro s _ hr
    exact ⟨rfl, hr⟩
  · intro here later s s₁ s' hhere hlater hfix hr
    obtain ⟨hfix, hfix'⟩ := List.forall_mem_append.1 hfix
    obtain ⟨hval, hrem⟩ := hhere hfix hr
    obtain ⟨hval', hrem'⟩ := hlater hfix' hrem
    exact ⟨hval'.trans hval, hrem'⟩
  · intro here s s' hhere hfix hr
    obtain ⟨hval, hrem⟩ := hhere hfix hr
    refine ⟨?_, rfl⟩
    rw [State.flush, hrem]
    exact hval
  · intro visit found run s hfound hrun hfix hr
    have hvalue : run.value = found := value_of_foldlM (hfix visit List.mem_cons_self) hrun
    have hleft : (Disposition.keep run.value).left found = some found := by
      simp [Disposition.left, hvalue]
    obtain ⟨hval, hrem⟩ := apply_of_left_eq_some
      (s := { s with logs := s.logs ++ run.logs }) hfound hleft
    exact ⟨hval.trans (Path.set_eq_self hfound), hrem.trans hr⟩

/-- Without fixes, a pass with nothing to correct leaves the value as it is; null counts as
nothing. -/
theorem validated_of_corrections_eq_nil (hv : value.WellFormed)
    (hfix : ∀ e ∈ map.entries, ∀ v ∈ e.2, v.policy ≠ .fix)
    (h : Pass.run value map metadata = .ok pass) (hnone : pass.corrections = []) :
    pass.validated = if value.isNull then none else some value := by
  obtain ⟨s, ⟨-, hunchanged⟩, rfl⟩ := cumulative_unchanged.run hv h
  have hvisits : ∀ visit ∈ visits metadata value [] map.processingOrder,
      ∀ v ∈ visit.entry.2, v.policy ≠ .fix := fun visit hvisit =>
    hfix _ (List.mem_mergeSort.1 (length_unit_of_mem_visits hvisit).1)
  obtain ⟨hval, -⟩ := hunchanged hnone hvisits rfl
  simp only [hval, State.initial]

end Guardrail.Pass
