import Mathlib.Data.List.Chain
import Guardrail.Proofs.Reask.Rendered

/-!
# What every round has from the call

The inputs of a round that is to correct another one are made from those of the round before, which
may have been made in the same way. Since only the prompt and the instructions are made anew, and
the instructions either anew or not at all, nothing piles up on the way: the inputs of every later
round are what would be made from those of the call at once. So what is to be corrected shows in the
prompt and the instructions and nowhere else, least of all in the parameters, which later rounds are
rendered with.

Results:
* `Reask.inputs_inputs`: of two corrections the last one counts.
* `inputs_of_rounds`: the inputs and requests of the rounds from an index on.
* `inputs_of_run`: the same for a whole run.
-/

namespace Guardrail

/-- To correct a round that corrects another one needs the inputs of that other one only. -/
theorem Reask.inputs_inputs (base : Inputs) {q q' : Reask.Request} (templates : Reask.Templates)
    (hschema : q.schema = q'.schema) :
    Reask.inputs (Reask.inputs base q templates) q' templates =
      Reask.inputs base q' templates := by
  unfold Reask.inputs Inputs.forReask
  rw [hschema]
  cases templates.instructions with
  | some t => rfl
  | none => cases q'.schema.shape.isStructured <;> rfl

namespace Cycle

variable {σ : Type} {c : Cycle σ} {mode : Mode} {call call' : Call} {args : List Json}
  {base inputs next : Inputs} {index : Nat} {s s' : σ} {request : Target.Request}

/-! ## Inputs -/

/-- A check of the response of a round found what a request for corrections says. -/
structure Found (c : Cycle σ) (base : Inputs) (previous : Round) (q : Reask.Request) : Prop where
  schema_eq : q.schema = c.requirements.schema
  fullSchema_eq : q.fullSchema = base.fullSchema
  checked : ∃ response, previous.outputs.response = some response ∧
    c.requirements.evaluate response base.metadata =
      .checked previous.outputs q.annotated q.corrections

/-- A round is to correct another one, and its inputs are made from those of the call. -/
def Continues (c : Cycle σ) (base : Inputs) (previous r : Round) : Prop :=
  ∃ q, c.Found base previous q ∧ r.inputs = Reask.inputs base q c.templates

/-- The inputs are those of the call, or made from them to correct something. -/
def MadeFrom (c : Cycle σ) (base inputs : Inputs) : Prop :=
  inputs = base ∨
    ∃ q, q.schema = c.requirements.schema ∧ inputs = Reask.inputs base q c.templates

theorem MadeFrom.kept (h : c.MadeFrom base inputs) :
    inputs.params = base.params ∧ inputs.messages = base.messages ∧
      inputs.metadata = base.metadata ∧ inputs.fullSchema = base.fullSchema := by
  obtain rfl | ⟨q, -, rfl⟩ := h <;> exact ⟨rfl, rfl, rfl, rfl⟩

/-- What is made from such inputs is made from those of the call. -/
theorem MadeFrom.again {q : Reask.Request} (h : c.MadeFrom base inputs)
    (hschema : q.schema = c.requirements.schema) :
    Reask.inputs inputs q c.templates = Reask.inputs base q c.templates := by
  obtain rfl | ⟨q₀, hschema₀, rfl⟩ := h
  · rfl
  · exact Reask.inputs_inputs base c.templates (hschema₀.trans hschema.symm)

/-! ## Requests -/

/-- What every request has from the call and the cycle. -/
structure Carries (c : Cycle σ) (args : List Json) (base : Inputs) (request : Target.Request) :
    Prop where
  args_eq : request.args = args
  kwargs_eq : request.kwargs = c.kwargs
  messages_eq : request.messages =
    base.messages.map fun ms => ms.map (·.render (c.params base.params))

theorem carries_of_asked (hmade : c.MadeFrom base inputs)
    (h : c.asked mode args inputs index = some request) : c.Carries args base request := by
  have hrequest := request_of_asked h
  unfold Cycle.request at hrequest
  dsimp only at hrequest
  split at hrequest
  · cases hrequest
  · cases hrequest
    obtain ⟨hparams, hmessages, -⟩ := hmade.kept
    refine ⟨rfl, rfl, ?_⟩
    rw [← hparams, ← hmessages]

/-! ## Rounds -/

theorem rounds_abort (call : Call) (r : Round) (e : Error) :
    (call.abort r e).2.rounds = call.rounds ∨ (call.abort r e).2.rounds = call.rounds ++ [r] := by
  unfold Call.abort
  cases hpush : call.push r with
  | error misfit => exact .inl rfl
  | ok call' =>
    obtain ⟨-, -, rfl⟩ := Call.push_eq_ok hpush
    exact .inr rfl

/-- What is pushed by a part of a run that puts at most one round on record. -/
theorem rounds_of_record (c : Cycle σ) (call : Call) (inputs : Inputs) (index : Nat)
    (response : Response) :
    (c.record call inputs index response).call.rounds = call.rounds ∨
      (c.record call inputs index response).call.rounds = call.rounds ++
        [⟨index, inputs, (c.requirements.evaluate response inputs.metadata).outputs⟩] := by
  unfold Cycle.record
  cases c.requirements.evaluate response inputs.metadata with
  | aborted outputs e => exact rounds_abort call _ _
  | checked outputs annotated corrections =>
    dsimp only
    cases hpush : call.push ⟨index, inputs, outputs⟩ with
    | error e => exact .inl rfl
    | ok call' =>
      obtain ⟨-, -, rfl⟩ := Call.push_eq_ok hpush
      refine .inr ?_
      dsimp only
      split <;> rfl

/-- The round has inputs with the metadata, and what it has in its log is from an evaluation with
them. -/
def Evaluated (c : Cycle σ) (metadata : Metadata) (r : Round) : Prop :=
  r.inputs.metadata = metadata ∧
    (r.outputs.logs = [] ∨
      ∃ response, r.outputs = (c.requirements.evaluate response metadata).outputs)

/-- A round puts itself on record with its inputs, or nothing. -/
theorem rounds_of_round {ended : RoundEnd} (h : c.round mode call inputs index s = (ended, s')) :
    ended.call.rounds = call.rounds ∨
      ∃ outputs, ended.call.rounds = call.rounds ++ [⟨index, inputs, outputs⟩] ∧
        c.Evaluated inputs.metadata ⟨index, inputs, outputs⟩ := by
  unfold Cycle.round at h
  split at h
  · -- an error of the library itself is not put on record
    obtain ⟨rfl, rfl⟩ := Prod.mk.inj h
    show (call.abortRound index inputs _).2.rounds = _ ∨ ∃ outputs,
      (call.abortRound index inputs _).2.rounds = _ ∧ _
    unfold Call.abortRound
    split
    · exact .inl rfl
    · exact (rounds_abort call _ _).imp_right fun hone => ⟨_, hone, rfl, .inl rfl⟩
  · next response _ _ =>
    obtain ⟨rfl, rfl⟩ := Prod.mk.inj h
    exact (c.rounds_of_record call inputs index response).imp_right
      fun hone => ⟨_, hone, rfl, .inr ⟨response, rfl⟩⟩

/-- A run may end with any round. -/
theorem continues_of_end {ended : RoundEnd} (base : Inputs)
    (h : c.round mode call inputs index s = (ended, s')) :
    ∃ added, ended.call.rounds = call.rounds ++ added ∧
      (∀ first ∈ added.head?, first.inputs = inputs) ∧ added.IsChain (c.Continues base) := by
  obtain hsame | ⟨outputs, hone, -⟩ := rounds_of_round h
  · exact ⟨[], by rw [hsame, List.append_nil], by simp, .nil⟩
  · exact ⟨_, hone, by simp, .singleton _⟩

/-- A round that leaves something to be corrected is followed by one whose inputs are made from
those of the call. -/
theorem continues_of_correct (hmade : c.MadeFrom base inputs)
    (h : c.round mode call inputs index s = (.correct call' next, s')) :
    ∃ outputs q, call'.rounds = call.rounds ++ [⟨index, inputs, outputs⟩] ∧
      c.Found base ⟨index, inputs, outputs⟩ q ∧ next = Reask.inputs base q c.templates := by
  obtain ⟨response, outputs, annotated, corrections, -, heval, -, hrounds, rfl⟩ := correct_cases h
  obtain ⟨-, -, hmetadata, hfullSchema⟩ := hmade.kept
  rw [hmetadata] at heval
  refine ⟨outputs, _, hrounds, ⟨rfl, hfullSchema, response, ?_, heval⟩, hmade.again rfl⟩
  exact (Requirements.received_of_checked heval).1

/-- The rounds from an index on: the first has the given inputs, the inputs of every later one are
made from those of the call, and the requests have from the call what every request has. -/
theorem inputs_of_rounds (c : Cycle σ) (mode : Mode) (index : Nat) (call : Call) (inputs : Inputs)
    (s : σ) (log : List Target.Request) (hmade : c.MadeFrom base inputs) :
    let ended := c.rounds mode index call inputs s
    ∃ added requests, ended.call.rounds = call.rounds ++ added ∧
      c.recorded.rounds mode index call inputs (s, log) =
        ⟨ended.error, ended.call, ended.state, log ++ requests⟩ ∧
      (∀ first ∈ added.head?, first.inputs = inputs) ∧ added.IsChain (c.Continues base) ∧
      ∀ request ∈ requests, c.Carries call.inputs.args base request := by
  induction index, call, inputs, s using rounds.induct c mode generalizing log with
  | case1 index call inputs s e call' s' hround =>
    rw [rounds_of_failed hround, rounds_of_failed (recorded_of_round log hround)]
    obtain ⟨added, hrounds, hfirst, hchain⟩ := continues_of_end base hround
    exact ⟨added, _, hrounds, rfl, hfirst, hchain, fun request hrequest =>
      carries_of_asked hmade (Option.mem_toList.1 hrequest)⟩
  | case2 index call inputs s call' s' hround =>
    rw [rounds_of_done hround, rounds_of_done (recorded_of_round log hround)]
    obtain ⟨added, hrounds, hfirst, hchain⟩ := continues_of_end base hround
    exact ⟨added, _, hrounds, rfl, hfirst, hchain, fun request hrequest =>
      carries_of_asked hmade (Option.mem_toList.1 hrequest)⟩
  | case3 index call inputs s call' next s' hround ih =>
    obtain ⟨outputs, q, hrounds, hfound, hnext⟩ := continues_of_correct hmade hround
    have hsame : call'.inputs = call.inputs := (grows_of_round hround).inputs_eq
    obtain ⟨added, requests, hadded, hrecorded, hfirst, hchain, hrequests⟩ :=
      ih (log ++ (c.asked mode call.inputs.args inputs index).toList)
        (.inr ⟨q, hfound.schema_eq, hnext⟩)
    rw [rounds_of_correct hround, rounds_of_correct (recorded_of_round log hround)]
    refine ⟨⟨index, inputs, outputs⟩ :: added,
      (c.asked mode call.inputs.args inputs index).toList ++ requests, ?_, ?_, ?_, ?_, ?_⟩
    · rw [hadded, hrounds, List.append_assoc]
      rfl
    · rw [hrecorded, List.append_assoc]
    · simp
    · refine List.isChain_cons.2 ⟨fun r hr => ⟨q, hfound, ?_⟩, hchain⟩
      rw [hfirst r hr, hnext]
    · intro request hrequest
      rcases List.mem_append.1 hrequest with hown | hlater
      · exact carries_of_asked hmade (Option.mem_toList.1 hown)
      · rw [← hsame]
        exact hrequests request hlater

/-! ## Runs -/

/-- A run puts rounds on record behind those that the call had. The first of them has the inputs of
the call. Every later one has them too, except that it is given no output, that its prompt is the
template for asking again, filled in once with what the check of the round before left to be
corrected, and that its instructions are made in the same way; if there is no template for them they
are the built-in ones, or for a text those of the call. Every request of the run has the arguments
of the call, those by name of the cycle, and the messages of the call filled in with its
parameters. -/
theorem inputs_of_run (c : Cycle σ) (mode : Mode) (call : Call) (s : σ) :
    let ended := c.run mode call s
    let base := call.inputs.inputs
    let structured := c.requirements.schema.shape.isStructured
    ∃ added requests, ended.call.rounds = call.rounds ++ added ∧
      c.recorded.run mode call (s, []) = ⟨ended.error, ended.call, ended.state, requests⟩ ∧
      (∀ first, added[0]? = some first → first.inputs = base) ∧
      (∀ i previous r, added[i]? = some previous → added[i + 1]? = some r →
        ∃ q, c.Found base previous q ∧
          let template := c.templates.prompt.getD
            (if structured then Reask.jsonPrompt else Reask.textPrompt)
          r.inputs = { base with
            output := none
            prompt := some (Reask.settled template (q.params base.params))
            instructions := match c.templates.instructions with
              | some t => some (Reask.settled t (q.params base.params))
              | none => if structured then some (.literal Reask.jsonInstructions)
                  else base.instructions }) ∧
      ∀ request ∈ requests, request.args = call.inputs.args ∧ request.kwargs = c.kwargs ∧
        request.messages =
          base.messages.map fun ms => ms.map (·.render (c.params base.params)) := by
  intro ended base structured
  obtain ⟨added, requests, hadded, hrecorded, hfirst, hchain, hrequests⟩ :=
    c.inputs_of_rounds mode 0 call base s [] (.inl rfl)
  refine ⟨added, requests, hadded, hrecorded, fun first h => ?_, fun i previous r hp hr => ?_,
    fun request hrequest => ?_⟩
  · exact hfirst first (by rw [List.head?_eq_getElem?, h]; rfl)
  · obtain ⟨_, rfl⟩ := List.getElem?_eq_some_iff.1 hp
    obtain ⟨hi, rfl⟩ := List.getElem?_eq_some_iff.1 hr
    obtain ⟨q, hfound, hinputs⟩ := List.isChain_iff_getElem.1 hchain i hi
    refine ⟨q, hfound, ?_⟩
    rw [hinputs]
    unfold Reask.inputs
    rw [hfound.schema_eq]
    rfl
  · obtain ⟨hargs, hkwargs, hmessages⟩ := hrequests request hrequest
    exact ⟨hargs, hkwargs, hmessages⟩

/-- The second round of the hat cycle is given the built-in prompt and instructions, and all else as
the call has it. -/
theorem inputs_of_run_hat :
    let base := hatCall.inputs.inputs
    ∃ first second q,
      (hatCycle.run .blocking hatCall hatReplies).call.rounds = [first, second] ∧
        first.inputs = base ∧ hatCycle.Found base first q ∧
        second.inputs = { base with
          prompt := some (Reask.settled Reask.jsonPrompt (q.params base.params))
          instructions := some (.literal Reask.jsonInstructions) } := by
  intro base
  obtain ⟨pass₁, hblocked, hfirst⟩ := checks_hat
  obtain ⟨pass₂, hpassed, hsecond⟩ := checks_redHat pass₁
  obtain ⟨_, _, -, -, -, -, hrounds⟩ :=
    run_of_corrected rfl retries_hatCall hfirst hblocked hsecond hpassed
  obtain ⟨added, -, hadded, -, hinputs, hlater, -⟩ :=
    inputs_of_run hatCycle .blocking hatCall hatReplies
  obtain rfl : added = _ := hadded.symm.trans hrounds
  obtain ⟨q, hfound, hcorrective⟩ := hlater 0 _ _ rfl rfl
  exact ⟨_, _, q, hrounds, hinputs _ rfl, hfound, hcorrective⟩

end Cycle
end Guardrail
