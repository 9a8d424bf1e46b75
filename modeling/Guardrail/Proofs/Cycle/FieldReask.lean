import Guardrail.Proofs.Cycle.Run
import Guardrail.Proofs.Pass.Annotated

/-!
# Asking again for some fields

When some fields of an answer have to be corrected, the prompt of the next round shows these fields
and the part of the schema that describes them. The answer to it takes the place of the first one as
a whole: the outcome of a call is the validated value of its last round, and nothing of an earlier
round is merged into it.

Results:
* `outcome_of_corrected`: the outcome of a run that is over after one correction.
* `outcome_of_field_reask`: if fields were asked for, it is the second answer alone.
-/

namespace Guardrail.Cycle

variable {σ : Type} {c : Cycle σ} {mode : Mode} {call : Call} {s s₁ s₂ : σ} {first second : Json}
  {pass₁ pass₂ : Pass}

/-! ## The outcome of one correction -/

/-- Where every validator asks again and nothing else, the outcome of such a run is the second
answer alone, as it is. -/
theorem outcome_of_corrected (hcall : call.rounds = []) (hexception : call.exception = none)
    (hshape : c.requirements.schema.shape = .object)
    (hpolicies : ∀ e ∈ c.requirements.validators.entries, ∀ v ∈ e.2, v.policy = .reask)
    (hbudget : 1 ≤ call.retries)
    (hfirst : c.Checks mode call.inputs.args call.inputs.inputs 0 s first pass₁ s₁)
    (hblocked : pass₁.corrections ≠ [])
    (hsecond :
      c.Checks mode call.inputs.args (c.again call.inputs.inputs pass₁) 1 s₁ second pass₂ s₂)
    (hpassed : pass₂.corrections = []) :
    ∃ outcome, (c.run mode call s).outcome = .ok outcome ∧ outcome.passed = true ∧
      outcome.validated = some second := by
  obtain ⟨_, response, hvalue, hstatus, herror, hnothing, hrounds⟩ :=
    run_of_corrected hcall hbudget hfirst hblocked hsecond hpassed
  have hlast : (c.run mode call s).call.last? =
      some ⟨1, c.again call.inputs.inputs pass₁, Requirements.afterPass response second pass₂⟩ := by
    unfold Call.last?
    rw [hrounds]
    rfl
  have hv : second.WellFormed := Extraction.wellFormed_of_extract? hvalue
  have hnull : second.isNull = false := by
    have hadmits := Extraction.admits_of_extract? hvalue
    rw [hshape] at hadmits
    cases second <;> first | rfl | cases hadmits
  have hfix : ∀ e ∈ c.requirements.validators.entries, ∀ v ∈ e.2, v.policy ≠ .fix := by
    intro e he v hv hp
    rw [hpolicies e he v hv] at hp
    cases hp
  have hvalidated : pass₂.validated = some second := by
    rw [Pass.validated_of_corrections_eq_nil hv hfix hsecond.checked hpassed, hnull]
    rfl
  refine ⟨.ofCall (c.run mode call s).call, ?_, ?_, ?_⟩
  · unfold Ended.outcome
    rw [herror]
  · simp only [Outcome.ofCall, hlast, hnothing, hexception, Option.map_some, Round.status, hstatus]
    rfl
  · simp only [Outcome.ofCall, Call.validated, hlast, Option.bind_some]
    exact hvalidated

/-- If the units that an answer has to correct are asked for again, and the second answer holds
these units, and passes, but nothing else, the outcome is the second answer alone: what else the
first answer held is gone. -/
theorem outcome_of_field_reask (hcall : call.rounds = []) (hexception : call.exception = none)
    (hshape : c.requirements.schema.shape = .object)
    (hpolicies : ∀ e ∈ c.requirements.validators.entries, ∀ v ∈ e.2, v.policy = .reask)
    (hbudget : 1 ≤ call.retries)
    (hfirst : c.Checks mode call.inputs.args call.inputs.inputs 0 s first pass₁ s₁)
    (hblocked : pass₁.corrections ≠ [])
    (hsecond :
      c.Checks mode call.inputs.args (c.again call.inputs.inputs pass₁) 1 s₁ second pass₂ s₂)
    (hpassed : pass₂.corrections = [])
    (hunits : let units :=
        Pass.blockedUnits call.inputs.inputs.metadata first c.requirements.validators
      (∀ u ∈ units, (u.get? second).isSome) ∧
        ∀ p : Path, (p.get? second).isSome → ∃ u ∈ units, p <+: u ∨ u <+: p) :
    ∃ outcome, (c.run mode call s).outcome = .ok outcome ∧ outcome.passed = true ∧
      outcome.validated = some second ∧
      (∀ u ∈ Pass.blockedUnits call.inputs.inputs.metadata first c.requirements.validators,
        (outcome.validated.bind u.get?).isSome) ∧
      ∀ p : Path, (p.get? first).isSome →
        (∀ u ∈ Pass.blockedUnits call.inputs.inputs.metadata first c.requirements.validators,
          Path.Apart p u) →
        outcome.validated.bind p.get? = none := by
  obtain ⟨outcome, hrun, hpass, hvalidated⟩ :=
    outcome_of_corrected hcall hexception hshape hpolicies hbudget hfirst hblocked hsecond hpassed
  refine ⟨outcome, hrun, hpass, hvalidated, ?_, ?_⟩
  · intro u hu
    rw [hvalidated]
    exact hunits.1 u hu
  · intro p _ hapart
    rw [hvalidated, Option.bind_some]
    cases hp : p.get? second with
    | none => rfl
    | some v =>
      obtain ⟨u, hu, hleads | hleads⟩ := hunits.2 p (by rw [hp]; rfl)
      · exact absurd hleads (hapart u hu).1
      · exact absurd hleads (hapart u hu).2

/-! ## A hat without a size -/

theorem blockedUnits_hat :
    Pass.blockedUnits [] hat hatCycle.requirements.validators = [[.key "color"]] := by
  unfold Pass.blockedUnits
  rw [processingOrder_hatCycle]
  rfl

theorem policies_hatCycle :
    ∀ e ∈ hatCycle.requirements.validators.entries, ∀ v ∈ e.2, v.policy = .reask := by
  intro e he v hv
  obtain rfl := List.mem_singleton.1 he
  obtain rfl := List.mem_singleton.1 hv
  rfl

/-- The red hat has a color and nothing else. -/
theorem units_redHat {p : Path} (h : (p.get? redHat).isSome) :
    p <+: [.key "color"] ∨ [.key "color"] <+: p := by
  cases p with
  | nil => exact .inl List.nil_prefix
  | cons s p =>
    refine .inr ?_
    cases s with
    | key k =>
      by_cases hk : "color" = k
      · subst hk
        exact ⟨p, rfl⟩
      · simp [Path.get?, redHat, Segment.child?, Dict.find?, hk] at h
    | index i => cases h
    | wildcard => cases h

/-- The outcome is the red hat, of unknown size. -/
theorem outcome_of_field_reask_hat :
    hatCall.rounds = [] ∧ hatCall.exception = none ∧
      hatCycle.requirements.schema.shape = .object ∧
      (∀ e ∈ hatCycle.requirements.validators.entries, ∀ v ∈ e.2, v.policy = .reask) ∧
      1 ≤ hatCall.retries ∧
      ∃ outcome, (hatCycle.run .blocking hatCall hatReplies).outcome = .ok outcome ∧
        outcome.passed = true ∧ outcome.validated = some redHat ∧
        outcome.validated.bind (Path.get? [.key "size"]) = none := by
  obtain ⟨pass₁, hblocked, hfirst⟩ := checks_hat
  obtain ⟨pass₂, hpassed, hsecond⟩ := checks_redHat pass₁
  have hcolor : Pass.blockedUnits hatCall.inputs.inputs.metadata hat
      hatCycle.requirements.validators = [[.key "color"]] := blockedUnits_hat
  obtain ⟨outcome, hrun, hpass, hvalidated, -, hgone⟩ :=
    outcome_of_field_reask rfl rfl rfl policies_hatCycle retries_hatCall hfirst hblocked hsecond
      hpassed (by
        rw [hcolor]
        refine ⟨fun u hu => ?_, fun p hp => ⟨_, List.mem_singleton_self _, units_redHat hp⟩⟩
        rw [List.mem_singleton.1 hu]
        rfl)
  rw [hcolor] at hgone
  refine ⟨rfl, rfl, rfl, policies_hatCycle, retries_hatCall, outcome, hrun, hpass, hvalidated, ?_⟩
  refine hgone [.key "size"] rfl fun u hu => ?_
  rw [List.mem_singleton.1 hu]
  exact Path.apart_of_length_eq rfl (by decide)

/-- The size of the hat, with which nothing was wrong, is lost. -/
theorem size_lost_of_field_reask :
    Pass.blockedUnits [] hat hatCycle.requirements.validators = [[.key "color"]] ∧
      (∃ pass₁ pass₂ s₁ s₂,
        hatCycle.Checks .blocking hatCall.inputs.args hatCall.inputs.inputs 0 hatReplies hat pass₁
            s₁ ∧
          hatCycle.Checks .blocking hatCall.inputs.args (hatCycle.again hatCall.inputs.inputs pass₁)
            1 s₁ redHat pass₂ s₂ ∧ pass₂.corrections = []) ∧
      Path.get? [.key "size"] hat = some (.str "L") ∧ Path.Apart [.key "size"] [.key "color"] ∧
      ∃ outcome, (hatCycle.run .blocking hatCall hatReplies).outcome = .ok outcome ∧
        outcome.passed = true ∧ outcome.validated = some redHat ∧
        Path.get? [.key "size"] redHat = none := by
  obtain ⟨pass₁, hblocked, hfirst⟩ := checks_hat
  obtain ⟨pass₂, hpassed, hsecond⟩ := checks_redHat pass₁
  exact ⟨blockedUnits_hat, ⟨pass₁, pass₂, _, _, hfirst, hsecond, hpassed⟩, rfl,
    Path.apart_of_length_eq rfl (by decide),
    (outcome_of_corrected rfl rfl rfl policies_hatCycle retries_hatCall hfirst hblocked hsecond
      hpassed).imp fun _ h => ⟨h.1, h.2.1, h.2.2, rfl⟩⟩

end Guardrail.Cycle
