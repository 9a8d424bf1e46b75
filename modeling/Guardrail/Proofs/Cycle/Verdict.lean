import Guardrail.Cycle.Run
import Guardrail.Cycle.Stream
import Guardrail.Proofs.Json.Parsed
import Guardrail.Proofs.Pass.Audit

/-!
# Whether a response passed

Several places say whether a response passed: the status of its outputs, which looks at the log and
at what is asked for again, the test that ends a cycle, the outcome of a chunk and the outcome of a
call. They all say the same, and the log alone decides it.

Results:
* `status_of_checked`, `status_of_aborted`: the status that an evaluation gives its outputs.
* `agrees_of_checked`: all that is said about a checked response agrees.
* `logs_determine_verdict`: what a pass reports, and every verdict on it, follows from its log.
-/

namespace Guardrail

variable {r : Requirements} {response : Response} {metadata : Metadata} {outputs : Outputs}
  {annotated value : Json} {corrections : List Correction} {e : ValidationError}

/-! ## The status of an evaluation -/

namespace Requirements

/-- The outputs of a response in which a value was found and checked. -/
def afterPass (response : Response) (value : Json) (pass : Pass) : Outputs :=
  { received response with
    parsed := some value
    validated := pass.validated
    reasks := pass.reasks
    logs := pass.logs }

theorem evaluate_of_unreadable
    (h : Extraction.extract? r.schema.shape response.text = none) :
    r.evaluate response metadata =
      .checked { received response with reasks := [unreadable response.text] }
        (unreadable response.text).marker [unreadable response.text] := by
  unfold evaluate
  rw [h]

theorem evaluate_of_run_ok {pass : Pass}
    (h : Extraction.extract? r.schema.shape response.text = some value)
    (hrun : Pass.run value r.validators metadata = .ok pass) :
    r.evaluate response metadata =
      .checked (afterPass response value pass) pass.annotated pass.corrections := by
  unfold evaluate
  simp only [h, hrun]
  rfl

theorem evaluate_of_run_error {abort : Pass.Abort}
    (h : Extraction.extract? r.schema.shape response.text = some value)
    (hrun : Pass.run value r.validators metadata = .error abort) :
    r.evaluate response metadata =
      .aborted
        { received response with
          parsed := some value
          logs := abort.logs
          error := some abort.error.text }
        abort.error := by
  unfold evaluate
  simp only [h, hrun]

/-- A checked response is unreadable, or the value found in it went through a pass. -/
theorem checked_cases
    (h : r.evaluate response metadata = .checked outputs annotated corrections) :
    (outputs = { received response with reasks := [unreadable response.text] } ∧
      corrections = [unreadable response.text]) ∨
    ∃ value pass, Extraction.extract? r.schema.shape response.text = some value ∧
      Pass.run value r.validators metadata = .ok pass ∧
      outputs = afterPass response value pass ∧ corrections = pass.corrections := by
  cases hvalue : Extraction.extract? r.schema.shape response.text with
  | none =>
    rw [evaluate_of_unreadable hvalue] at h
    cases h
    exact .inl ⟨rfl, rfl⟩
  | some value =>
    cases hrun : Pass.run value r.validators metadata with
    | ok pass =>
      rw [evaluate_of_run_ok hvalue hrun] at h
      cases h
      exact .inr ⟨value, pass, rfl, hrun, rfl, rfl⟩
    | error abort =>
      rw [evaluate_of_run_error hvalue hrun] at h
      cases h

/-- A checked response is on record, and so is its text. -/
theorem received_of_checked
    (h : r.evaluate response metadata = .checked outputs annotated corrections) :
    outputs.response = some response ∧ outputs.raw = some response.text := by
  obtain ⟨rfl, -⟩ | ⟨value, pass, -, -, rfl, -⟩ := checked_cases h
  · exact ⟨rfl, rfl⟩
  · exact ⟨rfl, rfl⟩

theorem status_afterPass {pass : Pass} (hv : value.WellFormed)
    (hrun : Pass.run value r.validators metadata = .ok pass) :
    (afterPass response value pass).status = if pass.corrections.isEmpty then .pass else .fail := by
  have hany := Pass.any_isBlockingFailure_logs hv hrun
  have hsub := Pass.reasks_sublist_corrections hv hrun
  simp only [Outputs.status, afterPass, received, Outputs.empty, hany]
  cases hc : pass.corrections with
  | nil =>
    rw [hc, List.sublist_nil] at hsub
    simp [hsub]
  | cons c cs => simp

/-- A checked response failed if there is something to correct, and passed otherwise. -/
theorem status_of_checked
    (h : r.evaluate response metadata = .checked outputs annotated corrections) :
    outputs.status = if corrections.isEmpty then .pass else .fail := by
  obtain ⟨rfl, rfl⟩ | ⟨value, pass, hvalue, hrun, rfl, rfl⟩ := checked_cases h
  · rfl
  · exact status_afterPass (Extraction.wellFormed_of_extract? hvalue) hrun

/-- An aborted evaluation ends its round with an error. -/
theorem status_of_aborted (h : r.evaluate response metadata = .aborted outputs e) :
    outputs.status = .error := by
  cases hvalue : Extraction.extract? r.schema.shape response.text with
  | none =>
    rw [evaluate_of_unreadable hvalue] at h
    cases h
  | some value =>
    cases hrun : Pass.run value r.validators metadata with
    | ok pass =>
      rw [evaluate_of_run_ok hvalue hrun] at h
      cases h
    | error abort =>
      rw [evaluate_of_run_error hvalue hrun] at h
      cases h
      rfl

end Requirements

/-! ## Everything that tells whether a response passed -/

theorem Call.push_eq_ok {c pushed : Call} {round : Round} (h : c.push round = .ok pushed) :
    c.rounds.length < c.maxRounds ∧ round.index = c.rounds.length ∧
      pushed = { c with rounds := c.rounds ++ [round] } := by
  unfold push at h
  split at h
  · cases h
  · split at h
    · cases h
    · next hroom hindex =>
      exact ⟨Nat.lt_of_not_le hroom, Decidable.not_not.1 hindex, (Except.ok.inj h).symm⟩

/-- Whatever tells whether a response passed tells the same: it passed if there is nothing to
correct. -/
structure Agrees (r : Requirements) (response : Response) (metadata : Metadata) (outputs : Outputs)
    (corrections : List Correction) : Prop where
  pass_iff : outputs.status = .pass ↔ corrections = []
  fail_iff : outputs.status = .fail ↔ corrections ≠ []
  /-- A cycle that could ask again ends with a round exactly if the response passed. -/
  done_iff : ∀ {σ : Type} (c : Cycle σ) (call pushed : Call) (inputs : Inputs) (index : Nat),
    c.requirements = r → c.target.isSome → index < inputs.retries →
      inputs.metadata = metadata → call.push ⟨index, inputs, outputs⟩ = .ok pushed →
      ((∃ ended, c.record call inputs index response = .done ended) ↔ corrections = [])
  /-- The outcome of a call that ends with the round. -/
  outcome_passed : ∀ (call pushed : Call) (inputs : Inputs) (index : Nat),
    call.exception = none → call.push ⟨index, inputs, outputs⟩ = .ok pushed →
      ((Outcome.ofCall pushed).passed = true ↔ corrections = [])
  /-- The outcome of the chunk that makes up the response. -/
  chunk_passed : ∀ (st : OutcomeStream) (chunk : String) (call : Call),
    st.requirements = r → st.inputs.metadata = metadata →
      Response.ofText (st.text ++ chunk) = response →
      ∃ outcome, (st.take chunk call).1 = .ok outcome ∧
        (outcome.passed = true ↔ corrections = [])

/-- All that is said about a checked response agrees. -/
theorem agrees_of_checked
    (h : r.evaluate response metadata = .checked outputs annotated corrections) :
    Agrees r response metadata outputs corrections := by
  have hstatus := Requirements.status_of_checked h
  refine ⟨?_, ?_, ?_, ?_, ?_⟩
  · rw [hstatus]
    cases corrections <;> simp
  · rw [hstatus]
    cases corrections <;> simp
  · rintro σ c call pushed inputs index rfl htarget hbudget rfl hpush
    unfold Cycle.record
    simp only [h, hpush]
    cases htgt : c.target with
    | none => simp [htgt] at htarget
    | some t => cases corrections <;> simp [Nat.not_le.2 hbudget]
  · intro call pushed inputs index hexc hpush
    obtain ⟨-, -, rfl⟩ := Call.push_eq_ok hpush
    simp only [Outcome.ofCall, hexc, Call.last?, List.getLast?_append, List.getLast?_singleton,
      Option.some_or, Option.map_some, Round.status, hstatus]
    cases corrections <;> simp
  · rintro st chunk call rfl rfl rfl
    refine ⟨OutcomeStream.partialOutcome call.id outputs corrections, ?_, ?_⟩
    · unfold OutcomeStream.take OutcomeStream.evaluate
      simp only [h]
    · simp [OutcomeStream.partialOutcome]

/-! ## The log decides -/

/-- What a pass reports follows from the records of its visits, and so does every verdict on a
response in which the value was found. -/
theorem logs_determine_verdict {map : ValidatorMap} {pass : Pass} (hv : value.WellFormed)
    (h : Pass.run value map metadata = .ok pass) :
    (∃ groups, List.Forall₂ (Pass.Visit.Recorded metadata value)
        (Pass.visits metadata value [] map.processingOrder) groups ∧
      pass.logs = groups.flatten ∧
      pass.corrections = groups.filterMap Pass.correction? ∧
      pass.reasks = (groups.filter Pass.asksAgain).filterMap Pass.correction?) ∧
    ∀ (schema : Schema) (response : Response),
      Extraction.extract? schema.shape response.text = some value →
      ∃ outputs,
        Requirements.evaluate ⟨schema, map⟩ response metadata =
          .checked outputs pass.annotated pass.corrections ∧
        outputs.logs = pass.logs ∧ outputs.reasks = pass.reasks ∧
        Agrees ⟨schema, map⟩ response metadata outputs pass.corrections := by
  refine ⟨Pass.run_adds hv h, fun schema response hvalue => ?_⟩
  have heq := Requirements.evaluate_of_run_ok (r := ⟨schema, map⟩) hvalue h
  exact ⟨_, heq, rfl, rfl, agrees_of_checked heq⟩

/-- A text that is removed fails its round, although nothing is asked for again. -/
theorem logs_determine_verdict_filtered :
    let text := "no"
    let schema : Schema := ⟨.string, .null, none⟩
    let map : ValidatorMap := ⟨[([], [⟨.choices [.str "yes"], .filter⟩])]⟩
    (Json.str text).WellFormed ∧ ∃ pass, Pass.run (.str text) map [] = .ok pass ∧
      pass.reasks = [] ∧ ∃ outputs,
        Requirements.evaluate ⟨schema, map⟩ (.ofText text) [] =
          .checked outputs pass.annotated pass.corrections ∧
        outputs.status = .fail := by
  intro text schema map
  have hsort : map.processingOrder = map.entries := List.mergeSort_singleton _
  have hrun : ∃ pass, Pass.run (.str text) map [] = .ok pass ∧ pass.reasks = [] ∧
      pass.corrections ≠ [] := by
    unfold Pass.run
    rw [hsort]
    exact ⟨_, rfl, rfl, List.cons_ne_nil _ _⟩
  obtain ⟨pass, hpass, hreasks, hcorrections⟩ := hrun
  have hv : (Json.str text).WellFormed := trivial
  obtain ⟨-, hverdict⟩ := logs_determine_verdict hv hpass
  obtain ⟨outputs, heq, -, -, hagrees⟩ := hverdict schema (.ofText text) rfl
  exact ⟨hv, pass, hpass, hreasks, outputs, heq, hagrees.fail_iff.2 hcorrections⟩

end Guardrail
