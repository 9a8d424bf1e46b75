import Guardrail.Proofs.Cycle.FieldReask
import Guardrail.Proofs.Cycle.History
import Guardrail.Proofs.Template.Literal
import Guardrail.Target.Script

/-!
# What a target is asked to correct

The text that asks for a correction is rendered when the inputs of the round are made, kept as a
template, and rendered once more with other parameters when the request is made. The second
rendering gives the text of the first one back, so whatever an answer, a message, a schema or a
parameter contains is shown as it is. Where the instructions of the call are kept they are the
templates of the call, in every round, and rendered as in the first one.

Results:
* `params_eq_override`: what a template that asks for corrections is rendered with.
* `correct_cases`: all that a round leaves behind that has to be corrected.
* `Corrects`, `requests_of_rounds`: every later request shows what the round before left.
* `requests_of_run`: the same for a whole run.
-/

namespace Guardrail

/-- What is to be corrected overrides and extends the parameters of the call. -/
theorem Reask.Request.params_eq_override (q : Reask.Request) (base : Params) :
    q.params base = Dict.override base
      [("previous_response", .str q.previousResponse), ("error_messages", .str q.errorMessages),
        ("output_schema", .str q.outputSchema), ("output_type", .str q.schema.shape.name)] := rfl

/-- The instructions of a round that is to correct another one. -/
theorem Reask.instructions_inputs (previous : Inputs) (q : Reask.Request)
    (templates : Reask.Templates) :
    (Reask.inputs previous q templates).instructions =
      match templates.instructions with
      | some t => some (Reask.settled t (q.params previous.params))
      | none =>
        if q.schema.shape.isStructured then some (.literal Reask.jsonInstructions)
        else previous.instructions := rfl

namespace Cycle

variable {σ : Type} {c : Cycle σ} {mode : Mode} {call call' : Call} {args : List Json}
  {base inputs next : Inputs} {index : Nat} {s s' : σ} {previous : Round} {q : Reask.Request}
  {request : Target.Request}

/-! ## Later rounds -/

/-- What the inputs of every round have from those of the call. The instructions are among it if
they are not made anew. -/
structure Follows (c : Cycle σ) (base inputs : Inputs) : Prop where
  params_eq : inputs.params = base.params
  metadata_eq : inputs.metadata = base.metadata
  fullSchema_eq : inputs.fullSchema = base.fullSchema
  instructions_eq : c.templates.instructions = none →
    c.requirements.schema.shape.isStructured = false → inputs.instructions = base.instructions

theorem follows_self (c : Cycle σ) (base : Inputs) : c.Follows base base :=
  ⟨rfl, rfl, rfl, fun _ _ => rfl⟩

theorem Follows.again (h : c.Follows base inputs) (hschema : q.schema = c.requirements.schema) :
    c.Follows base (Reask.inputs inputs q c.templates) where
  params_eq := h.params_eq
  metadata_eq := h.metadata_eq
  fullSchema_eq := h.fullSchema_eq
  instructions_eq := by
    intro htemplate hshape
    rw [Reask.instructions_inputs, htemplate, hschema, hshape]
    exact h.instructions_eq htemplate hshape

/-- All that a round leaves behind that has to be corrected: its response was checked and put on
record, and the inputs of the next round are made from what the check found. -/
theorem correct_cases (h : c.round mode call inputs index s = (.correct call' next, s')) :
    ∃ response outputs annotated corrections,
      c.response mode call.inputs.args inputs index s = (.ok response, s') ∧
      c.requirements.evaluate response inputs.metadata = .checked outputs annotated corrections ∧
      index = call.rounds.length ∧ call'.rounds = call.rounds ++ [⟨index, inputs, outputs⟩] ∧
      next = Reask.inputs inputs
        ⟨c.requirements.schema, corrections, annotated, inputs.fullSchema⟩ c.templates := by
  unfold Cycle.round at h
  split at h
  · cases h
  · next response _ hresponse =>
    obtain ⟨hrecord, rfl⟩ := Prod.mk.inj h
    unfold Cycle.record at hrecord
    cases heval : c.requirements.evaluate response inputs.metadata with
    | aborted outputs e =>
      rw [heval] at hrecord
      cases hrecord
    | checked outputs annotated corrections =>
      simp only [heval] at hrecord
      split at hrecord
      · cases hrecord
      · next pushed hpush =>
        obtain ⟨-, hindex, rfl⟩ := Call.push_eq_ok hpush
        split at hrecord
        · cases hrecord
        · obtain ⟨rfl, rfl⟩ := RoundEnd.correct.inj hrecord
          exact ⟨response, outputs, annotated, corrections, hresponse, heval, hindex, rfl, rfl⟩

/-! ## Their requests -/

/-- A request shows what a round left to be corrected: `q` is what the check of its response found,
and the templates are rendered with it once. -/
structure Corrects (c : Cycle σ) (base : Inputs) (previous : Round) (q : Reask.Request)
    (request : Target.Request) : Prop where
  schema_eq : q.schema = c.requirements.schema
  fullSchema_eq : q.fullSchema = base.fullSchema
  checked : ∃ response, previous.outputs.response = some response ∧
    c.requirements.evaluate response base.metadata =
      .checked previous.outputs q.annotated q.corrections
  prompt_eq : request.prompt = some ((c.templates.prompt.getD
    (if c.requirements.schema.shape.isStructured then Reask.jsonPrompt
      else Reask.textPrompt)).render (q.params base.params))
  instructions_eq : request.instructions =
    match c.templates.instructions with
    | some t => some (t.render (q.params base.params))
    | none =>
      if c.requirements.schema.shape.isStructured then some Reask.jsonInstructions
      else base.instructions.map (·.render (c.params base.params))

/-- A round that has a prompt asks for it rendered. -/
theorem request_of_prompt {prompt : Template} (hprompt : inputs.prompt = some prompt)
    (h : c.request args inputs index = .ok request) :
    request.prompt = some (prompt.render (c.params inputs.params)) ∧
      request.instructions = inputs.instructions.map (·.render (c.params inputs.params)) := by
  unfold Cycle.request at h
  rw [hprompt] at h
  cases h
  exact ⟨rfl, rfl⟩

/-- The request of a round with the inputs that were made to correct another one. -/
theorem request_of_again (hfollows : c.Follows base inputs)
    (hschema : q.schema = c.requirements.schema)
    (h : c.request args (Reask.inputs inputs q c.templates) index = .ok request) :
    request.prompt = some ((c.templates.prompt.getD
        (if c.requirements.schema.shape.isStructured then Reask.jsonPrompt
          else Reask.textPrompt)).render (q.params base.params)) ∧
      request.instructions =
        match c.templates.instructions with
        | some t => some (t.render (q.params base.params))
        | none =>
          if c.requirements.schema.shape.isStructured then some Reask.jsonInstructions
          else base.instructions.map (·.render (c.params base.params)) := by
  obtain ⟨hprompt, hinstructions⟩ := request_of_prompt rfl h
  constructor
  · rw [hprompt, Reask.settled, Template.render_literal, hfollows.params_eq, hschema]
  · rw [hinstructions, Reask.instructions_inputs, hschema]
    cases htemplate : c.templates.instructions with
    | some t =>
      show some ((Reask.settled t _).render _) = some (t.render _)
      rw [Reask.settled, Template.render_literal, hfollows.params_eq]
    | none =>
      cases hshape : c.requirements.schema.shape.isStructured with
      | true =>
        show some ((Template.literal Reask.jsonInstructions).render _) = _
        rw [Template.render_literal]
        rfl
      | false =>
        show inputs.instructions.map (·.render (c.params inputs.params)) = _
        rw [hfollows.instructions_eq htemplate hshape, hfollows.params_eq]
        rfl

/-- The request of the round after one that left something to be corrected. -/
theorem corrects_of_asked (hfollows : c.Follows base inputs)
    (hround : c.round mode call inputs index s = (.correct call' next, s'))
    (hasked : c.asked mode args next (index + 1) = some request) :
    request.round = index + 1 ∧ ∃ previous q, call'.rounds[index]? = some previous ∧
      c.Corrects base previous q request := by
  obtain ⟨response, outputs, annotated, corrections, -, heval, hindex, hrounds, rfl⟩ :=
    correct_cases hround
  have hlast : call'.rounds[index]? = some ⟨index, inputs, outputs⟩ := by
    rw [hrounds, hindex]
    exact List.getElem?_concat_length
  rw [hfollows.metadata_eq] at heval
  obtain ⟨hprompt, hinstructions⟩ := request_of_again hfollows rfl (request_of_asked hasked)
  exact ⟨round_of_asked hasked, _, _, hlast, rfl, hfollows.fullSchema_eq,
    ⟨response, (Requirements.received_of_checked heval).1, heval⟩, hprompt, hinstructions⟩

/-! ## Runs -/

theorem recorded_of_round {ended : RoundEnd} (log : List Target.Request)
    (h : c.round mode call inputs index s = (ended, s')) :
    c.recorded.round mode call inputs index (s, log) =
      (ended, s', log ++ (c.asked mode call.inputs.args inputs index).toList) := by
  rw [round_recorded, h]

/-- The requests of the rounds from an index on: that of the first of them, if it has one, and the
later ones, each of which shows what the round before it, which stays on record, left to be
corrected. -/
theorem requests_of_rounds (c : Cycle σ) (mode : Mode) (index : Nat) (call : Call)
    (inputs : Inputs) (s : σ) (log : List Target.Request) (hfollows : c.Follows base inputs) :
    let ended := c.rounds mode index call inputs s
    ∃ later, c.recorded.rounds mode index call inputs (s, log) =
        ⟨ended.error, ended.call, ended.state,
          log ++ (c.asked mode call.inputs.args inputs index).toList ++ later⟩ ∧
      ∀ request ∈ later, ∃ i previous q, request.round = i + 1 ∧
        ended.call.rounds[i]? = some previous ∧ c.Corrects base previous q request := by
  induction index, call, inputs, s using rounds.induct c mode generalizing log with
  | case1 index call inputs s e call' s' hround =>
    rw [rounds_of_failed hround, rounds_of_failed (recorded_of_round log hround)]
    exact ⟨[], by rw [List.append_nil], by simp⟩
  | case2 index call inputs s call' s' hround =>
    rw [rounds_of_done hround, rounds_of_done (recorded_of_round log hround)]
    exact ⟨[], by rw [List.append_nil], by simp⟩
  | case3 index call inputs s call' next s' hround ih =>
    obtain ⟨_, _, _, _, -, -, -, -, hnext⟩ := correct_cases hround
    have hfollows' : c.Follows base next := by
      rw [hnext]
      exact hfollows.again rfl
    obtain ⟨later, hrest, hlater⟩ :=
      ih (log ++ (c.asked mode call.inputs.args inputs index).toList) hfollows'
    rw [rounds_of_correct hround, rounds_of_correct (recorded_of_round log hround), hrest]
    refine ⟨(c.asked mode call'.inputs.args next (index + 1)).toList ++ later,
      by rw [List.append_assoc], fun request hrequest => ?_⟩
    rcases List.mem_append.1 hrequest with hasked | hlast
    · -- the round in question is the one that just went by, and no later one takes it away
      obtain ⟨hindex, previous, q, hprevious, hcorrects⟩ :=
        corrects_of_asked hfollows hround (Option.mem_toList.1 hasked)
      have hgrows := c.grows_rounds mode (index + 1) call' next s'
      exact ⟨index, previous, q, hindex, hgrows.getElem?_rounds hprevious, hcorrects⟩
    · exact hlater request hlast

/-- Every request of a run but that of round 0 shows what the round before it left to be corrected.
Its prompt is the template of the call for that, or the built-in one, with each of its placeholders
replaced once: no dollar sign of an answer, a message, the schema or a parameter means anything,
whatever names the parameters bind. The same holds of its instructions; if there is no template for
them, they are the built-in ones, or for a text those of the call, as round 0 has them. -/
theorem requests_of_run (c : Cycle σ) (mode : Mode) (call : Call) (s : σ) :
    let ended := c.run mode call s
    let base := call.inputs.inputs
    let structured := c.requirements.schema.shape.isStructured
    ∃ requests, c.recorded.run mode call (s, []) =
        ⟨ended.error, ended.call, ended.state, requests⟩ ∧
      ∀ request ∈ requests, ∀ i, request.round = i + 1 →
        ∃ previous q, ended.call.rounds[i]? = some previous ∧ c.Corrects base previous q request ∧
          let template := c.templates.prompt.getD
            (if structured then Reask.jsonPrompt else Reask.textPrompt)
          let params := Dict.override base.params
            [("previous_response", .str q.previousResponse),
              ("error_messages", .str q.errorMessages), ("output_schema", .str q.outputSchema),
              ("output_type", .str q.schema.shape.name)]
          (∃ prompt, request.prompt = some prompt ∧ prompt = template.render params ∧
            prompt.toList =
              (Template.pieces template.source.toList).flatMap (Piece.render params)) ∧
          match c.templates.instructions with
          | some t => ∃ instructions, request.instructions = some instructions ∧
              instructions = t.render params ∧
              instructions.toList =
                (Template.pieces t.source.toList).flatMap (Piece.render params)
          | none => request.instructions =
              if structured then some Reask.jsonInstructions
              else base.instructions.map (·.render (c.params base.params)) := by
  obtain ⟨later, hrun, hlater⟩ := c.requests_of_rounds mode 0 call call.inputs.inputs s []
    (c.follows_self call.inputs.inputs)
  refine ⟨_, hrun, fun request hrequest i hround => ?_⟩
  rw [List.nil_append] at hrequest
  rcases List.mem_append.1 hrequest with hasked | hrequest
  · have hzero := round_of_asked (Option.mem_toList.1 hasked)
    omega
  · obtain ⟨i', previous, q, hround', hprevious, hcorrects⟩ := hlater request hrequest
    obtain rfl : i' = i := by omega
    refine ⟨previous, q, hprevious, hcorrects, ?_⟩
    rw [← Reask.Request.params_eq_override]
    constructor
    · exact ⟨_, hcorrects.prompt_eq, rfl, Template.render_eq_flatMap _ _⟩
    · have hinstructions := hcorrects.instructions_eq
      cases htemplate : c.templates.instructions with
      | some t =>
        rw [htemplate] at hinstructions
        exact ⟨_, hinstructions, rfl, Template.render_eq_flatMap _ _⟩
      | none =>
        rw [htemplate] at hinstructions
        exact hinstructions

/-! ## A price

A generator that is asked for a price answers with a text full of dollar signs and braces. The
prompt of the second round shows it, and a parameter of the call that looks alike, as they are. -/

/-- The cycle in which a price must be one dollar. -/
def priceCycle : Cycle (List Target.Reply) where
  requirements := ⟨⟨.string, .null, none⟩, ⟨[([], [⟨.choices [.str "$1"], .reask⟩])]⟩⟩
  target := some (Target.Script.target ⟨"mock", .blocking, none, .error Target.Script.exhausted,
    none⟩)
  templates :=
    ⟨some ⟨"Not $\x7bprevious_response\x7d, $\x7bwho\x7d:\n$\x7berror_messages\x7d"⟩, none⟩
  kwargs := []

/-- The call for a price. -/
def priceCall : Call :=
  .start "c" ⟨{ Inputs.empty with
    prompt := some ⟨"A price"⟩
    params := [("who", .str "$$\x7bwho\x7d")]
    retries := 1 }, [], []⟩

/-- The two answers. -/
def priceReplies : List Target.Reply :=
  [.ok (.ofText "$$$\x7bwho\x7d"), .ok (.ofText "$1")]

/-- What is wrong with the first answer. -/
def priceCorrection : Correction :=
  ⟨.str "$$$\x7bwho\x7d", "$",
    [.ofMessage "Value $$$\x7bwho\x7d is not in choices [\"$1\"]."]⟩

theorem checks_price : ∃ pass,
    pass.corrections = [priceCorrection] ∧
    priceCycle.Checks .blocking priceCall.inputs.args priceCall.inputs.inputs 0 priceReplies
      priceCorrection.incorrect pass priceReplies.tail := by
  have hsort : priceCycle.requirements.validators.processingOrder =
      priceCycle.requirements.validators.entries := List.mergeSort_singleton _
  obtain ⟨pass, hrun, hcorrections⟩ : ∃ pass,
      Pass.run priceCorrection.incorrect priceCycle.requirements.validators [] = .ok pass ∧
        pass.corrections = [priceCorrection] := by
    unfold Pass.run
    rw [hsort]
    exact ⟨_, rfl, rfl⟩
  obtain ⟨r, hresponse⟩ := response_of_prompt priceCycle .blocking priceCall.inputs.args
    priceCall.inputs.inputs 0 priceReplies rfl rfl rfl (by decide)
  exact ⟨pass, hcorrections, ⟨_, hresponse, rfl⟩, hrun⟩

/-- The first round leaves the first answer to be corrected. -/
theorem round_price : ∃ call' next previous,
    priceCycle.round .blocking priceCall priceCall.inputs.inputs 0 priceReplies =
        (.correct call' next, priceReplies.tail) ∧
      call'.rounds[0]? = some previous ∧
      ∀ q request, priceCycle.Corrects priceCall.inputs.inputs previous q request →
        q.corrections = [priceCorrection] := by
  obtain ⟨pass, hcorrections, hchecks⟩ := checks_price
  have hblocked : pass.corrections ≠ [] := by
    rw [hcorrections]
    exact List.cons_ne_nil _ _
  obtain ⟨response, hvalue, hround⟩ :=
    round_of_blocked priceCall hchecks rfl (Nat.zero_le _) Nat.one_pos rfl hblocked
  have heval := Requirements.evaluate_of_run_ok hvalue hchecks.checked
  refine ⟨_, _, _, hround, rfl, fun q request hq => ?_⟩
  obtain ⟨response', hresponse', heval'⟩ := hq.checked
  cases hresponse'
  rw [heval] at heval'
  exact (Evaluation.checked.inj heval').2.2.symm.trans hcorrections

/-- The second prompt shows the first answer and the parameter as they are. -/
theorem requests_of_run_price :
    ∃ request ∈ (priceCycle.recorded.run .blocking priceCall (priceReplies, [])).state.2,
      request.round = 0 + 1 ∧
        request.prompt = some
          ("Not $$$\x7bwho\x7d, $$\x7bwho\x7d:\n" ++
            "- Value $$$\x7bwho\x7d is not in choices [\"$1\"].") := by
  obtain ⟨requests, hrun, hlater⟩ := requests_of_run priceCycle .blocking priceCall priceReplies
  obtain ⟨call', next, previous, hround, hprevious, hq⟩ := round_price
  -- the first round is followed by another one, which asks
  obtain ⟨_, _, _, _, -, -, -, -, hnext⟩ := correct_cases hround
  obtain ⟨request, hasked⟩ : ∃ request,
      priceCycle.asked .blocking call'.inputs.args next 1 = some request := by
    rw [hnext]
    exact ⟨_, rfl⟩
  obtain ⟨rest, hrest, -⟩ := priceCycle.requests_of_rounds .blocking 1 call' next
    priceReplies.tail _ (priceCycle.follows_self next)
  have hrounds := rounds_of_correct (recorded_of_round [] hround)
  have hrequest : request ∈ requests := by
    have hstate : (priceCycle.recorded.run .blocking priceCall (priceReplies, [])).state.2 =
        requests := by rw [hrun]
    rw [← hstate]
    unfold Cycle.run
    rw [hrounds, hrest, hasked]
    simp
  obtain ⟨first, q, hfirst, hcorrects, ⟨prompt, hprompt, hrender, -⟩, -⟩ :=
    hlater request hrequest 0 (round_of_asked hasked)
  have hsame : previous = first := by
    have hgrows := priceCycle.grows_rounds .blocking 1 call' next priceReplies.tail
    unfold Cycle.run at hfirst
    rw [rounds_of_correct hround, hgrows.getElem?_rounds hprevious] at hfirst
    exact Option.some.inj hfirst
  rw [← hsame] at hcorrects
  refine ⟨request, by rw [hrun]; exact hrequest, round_of_asked hasked, ?_⟩
  rw [hprompt, hrender]
  unfold Reask.Request.previousResponse Reask.Request.errorMessages
  rw [hcorrects.schema_eq, hq q request hcorrects]
  cbv

end Cycle
end Guardrail
