import Guardrail.Proofs.Cycle.Rounds

/-!
# How a run fails

The rounds of a run that may ask its target fail in two ways only: a validator aborts, or the target
does. Nothing in the configuration can stop a run after its first round, since a round that asks for
a correction is given a prompt and there is a target to ask; and its rounds are always the next ones
and within the budget, so that none of them is refused.

Results:
* `isFailure_of_response`, `leaves_round`: how one round fails.
* `leaves_rounds`, `leaves_run`: how a run fails, and what it leaves as the exception of the call.
-/

namespace Guardrail

/-- Whether the error is a failure of a validator or of the target. -/
def Error.isFailure : Error → Bool
  | .validation _ | .generation _ => true
  | _ => false

theorem Error.isConfig_of_isFailure {e : Error} (h : e.isFailure = true) : e.isConfig = false := by
  cases e <;> first | rfl | cases h

theorem Error.isFatal_of_isFailure {e : Error} (h : e.isFailure = true) : e.isFatal = false := by
  cases e <;> first | rfl | cases h

namespace Cycle

variable {σ : Type} {c : Cycle σ} {mode : Mode} {call call' : Call} {args : List Json}
  {inputs next : Inputs} {index : Nat} {s s' : σ} {e : Error} {response : Response}

/-! ## Rounds that may ask -/

/-- Answers of the target need not be awaited where the run blocks. -/
def MayAsk (c : Cycle σ) (mode : Mode) : Prop :=
  ∀ t, c.target = some t → ¬ (mode = .blocking ∧ t.mode = .async)

/-- A round is given its response, or there is a target, and something to ask it. -/
def Answerable (c : Cycle σ) (inputs : Inputs) (index : Nat) : Prop :=
  given inputs index = true ∨
    c.target.isSome ∧ (inputs.prompt.isSome ∨ inputs.hasMessages = true)

theorem request_of_answerable (h : inputs.prompt.isSome ∨ inputs.hasMessages = true)
    (args : List Json) (index : Nat) : ∃ r, c.request args inputs index = .ok r := by
  have hask : ¬ (inputs.prompt.isNone && !inputs.hasMessages) = true := by
    rcases h with hprompt | hmessages
    · simp [Option.isSome_iff_ne_none.1 hprompt]
    · simp [hmessages]
  exact ⟨_, if_neg hask⟩

/-- Where a round may ask, only the target can fail it. -/
theorem isFailure_of_response (hmay : c.MayAsk mode) (hanswerable : c.Answerable inputs index)
    (h : (c.response mode args inputs index s).1 = .error e) : e.isFailure = true := by
  cases hgiven : given inputs index with
  | true =>
    simp only [given, Bool.and_eq_true, beq_iff_eq] at hgiven
    obtain ⟨rfl, hsome⟩ := hgiven
    obtain ⟨output, houtput⟩ := Option.isSome_iff_exists.1 hsome
    rw [response_of_given houtput] at h
    cases h
  | false =>
    obtain ⟨htarget, hask⟩ := hanswerable.resolve_left (by simp [hgiven])
    obtain ⟨t, ht⟩ := Option.isSome_iff_exists.1 htarget
    obtain ⟨r, hr⟩ := c.request_of_answerable hask args index
    rw [response_of_not_given hgiven, hr] at h
    unfold ask at h
    simp only [ht, if_neg (hmay t ht)] at h
    cases hanswer : (t.generate r s).1 with
    | ok response =>
      rw [hanswer] at h
      cases h
    | error cause =>
      rw [hanswer] at h
      cases h
      rfl

/-! ## One round -/

/-- How a round of a call that has room for it leaves the exception of the call. -/
inductive RoundEnd.Leaves (c : Cycle σ) (call : Call) : RoundEnd → Prop
  /-- A failure that ends the call is its exception. -/
  | failed {call' : Call} {e : Error} (hfailure : e.isFailure = true)
      (hexception : call'.exception = some e.message) : Leaves c call (.failed (e, call'))
  | done {inputs : Inputs} {outputs : Outputs} :
      Leaves c call (.done (after call inputs call.rounds.length outputs))
  /-- There is a target to ask, and something to ask it. -/
  | correct {inputs next : Inputs} {outputs : Outputs} (htarget : c.target.isSome)
      (hprompt : next.prompt.isSome) :
      Leaves c call (.correct (after call inputs call.rounds.length outputs) next)

theorem leaves_record (c : Cycle σ) (inputs : Inputs) (response : Response)
    (hlen : call.rounds.length = index) (hroom : index ≤ call.retries) :
    RoundEnd.Leaves c call (c.record call inputs index response) := by
  subst hlen
  unfold Cycle.record
  cases c.requirements.evaluate response inputs.metadata with
  | aborted outputs cause =>
    dsimp only
    rw [abort_of_room rfl hroom]
    exact .failed rfl rfl
  | checked outputs annotated corrections =>
    dsimp only
    rw [push_of_room rfl hroom]
    dsimp only
    split
    · exact .done
    · next hstop =>
      have htarget : c.target ≠ none := fun hnone => hstop (.inr (.inr (by rw [hnone]; rfl)))
      exact .correct (Option.isSome_iff_ne_none.2 htarget) rfl

theorem leaves_round (hmay : c.MayAsk mode) (hanswerable : c.Answerable inputs index)
    (hlen : call.rounds.length = index) (hroom : index ≤ call.retries) (s : σ) :
    RoundEnd.Leaves c call (c.round mode call inputs index s).1 := by
  unfold Cycle.round
  rcases hresponse : c.response mode call.inputs.args inputs index s with ⟨e | response, s'⟩
  · have hfailure : e.isFailure = true :=
      isFailure_of_response hmay hanswerable (by rw [hresponse])
    dsimp only [Call.abortRound]
    rw [if_neg (by simp [Error.isFatal_of_isFailure hfailure]), abort_of_room hlen hroom]
    exact .failed hfailure rfl
  · exact leaves_record c inputs response hlen hroom

/-! ## Runs -/

/-- What a run leaves as the exception of a call: a failure that ended it, or what was there. -/
def Ended.Leaves (call : Call) (ended : Ended σ) : Prop :=
  (ended.error = none ∧ ended.call.exception = call.exception) ∨
    ∃ e, ended.error = some e ∧ e.isFailure = true ∧ ended.call.exception = some e.message

/-- How the rounds from one on fail, if it may ask and is the next one of its call. -/
theorem leaves_rounds (hmay : c.MayAsk mode) (hanswerable : c.Answerable inputs index)
    (hlen : call.rounds.length = index) (hroom : index ≤ call.retries)
    (hretries : inputs.retries = call.retries) (s : σ) :
    (c.rounds mode index call inputs s).Leaves call := by
  induction index, call, inputs, s using rounds.induct c mode with
  | case1 index call inputs s e call' s' hround =>
    have hleaves := leaves_round hmay hanswerable hlen hroom s
    rw [hround] at hleaves
    rw [rounds_of_failed hround]
    cases hleaves with
    | failed hfailure hexception => exact .inr ⟨e, rfl, hfailure, hexception⟩
  | case2 index call inputs s call' s' hround =>
    have hleaves := leaves_round hmay hanswerable hlen hroom s
    rw [hround] at hleaves
    rw [rounds_of_done hround]
    cases hleaves with
    | done => exact .inl ⟨rfl, rfl⟩
  | case3 index call inputs s call' next s' hround ih =>
    have hleaves := leaves_round hmay hanswerable hlen hroom s
    obtain ⟨hlt, hnext⟩ := lt_retries_of_round hround
    rw [hround] at hleaves
    rw [rounds_of_correct hround]
    cases hleaves with
    | correct htarget hprompt =>
      refine ih (.inr ⟨htarget, .inl hprompt⟩) ?_ ?_ (hnext.trans hretries)
      · rw [length_rounds_after, hlen]
      · rw [retries_after]
        omega

/-- How a run of a call without rounds fails, if it may ask. -/
theorem leaves_run (hmay : c.MayAsk mode) (hanswerable : c.Answerable call.inputs.inputs 0)
    (hcall : call.rounds = []) (s : σ) : (c.run mode call s).Leaves call :=
  leaves_rounds hmay hanswerable (by rw [hcall]; rfl) (Nat.zero_le _) rfl s

end Cycle
end Guardrail
