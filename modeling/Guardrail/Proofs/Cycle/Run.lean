import Guardrail.Proofs.Cycle.Rounds
import Guardrail.Target.Script

/-!
# Whole runs

A run goes from round 0 to its end. What its rounds and requests are like is said for every run, and
for a run that is over after one correction the two rounds are named.

Results:
* `round_of_checked`: what a round comes to in which a value was found and checked.
* `run_of_corrected`: the rounds of a run that is over after one correction.
* `run_law`: the rounds and requests of any run.
-/

namespace Guardrail.Cycle

variable {σ : Type} {c : Cycle σ} {mode : Mode} {call : Call} {inputs : Inputs} {args : List Json}
  {index : Nat} {s s' s₁ s₂ : σ} {value first second : Json} {pass pass₁ pass₂ : Pass}

/-! ## Rounds in which a value is found -/

/-- In the response of a round a value is found, and the validators run over it to the end. -/
structure Checks (c : Cycle σ) (mode : Mode) (args : List Json) (inputs : Inputs) (index : Nat)
    (s : σ) (value : Json) (pass : Pass) (s' : σ) : Prop where
  found : ∃ response, c.response mode args inputs index s = (.ok response, s') ∧
    Extraction.extract? c.requirements.schema.shape response.text = some value
  checked : Pass.run value c.requirements.validators inputs.metadata = .ok pass

/-- The inputs of the round that asks for the corrections of a pass. -/
def again (c : Cycle σ) (inputs : Inputs) (pass : Pass) : Inputs :=
  Reask.inputs inputs
    ⟨c.requirements.schema, pass.corrections, pass.annotated, inputs.fullSchema⟩ c.templates

/-- A round in which a value is found is recorded with what came of the value, and ends the run if
there is nothing to correct, or no way to ask for it. -/
theorem round_of_checked (call : Call)
    (h : c.Checks mode call.inputs.args inputs index s value pass s')
    (hlen : call.rounds.length = index) (hroom : index ≤ call.retries) :
    ∃ response,
      Extraction.extract? c.requirements.schema.shape response.text = some value ∧
      c.round mode call inputs index s =
        (let recorded := after call inputs index (Requirements.afterPass response value pass)
        if pass.corrections.isEmpty ∨ inputs.retries ≤ index ∨ c.target.isNone then .done recorded
        else .correct recorded (c.again inputs pass), s') := by
  obtain ⟨⟨response, hresponse, hvalue⟩, hrun⟩ := h
  refine ⟨response, hvalue, ?_⟩
  unfold Cycle.round Cycle.record
  rw [hresponse]
  dsimp only
  rw [Requirements.evaluate_of_run_ok hvalue hrun]
  dsimp only
  rw [push_of_room hlen hroom]
  rfl

/-- A round in which something is blocked asks for a correction, if there are rounds left and there
is a target to ask. -/
theorem round_of_blocked (call : Call)
    (h : c.Checks mode call.inputs.args inputs index s value pass s')
    (hlen : call.rounds.length = index) (hroom : index ≤ call.retries)
    (hbudget : index < inputs.retries) (htarget : c.target.isSome)
    (hblocked : pass.corrections ≠ []) :
    ∃ response,
      Extraction.extract? c.requirements.schema.shape response.text = some value ∧
      c.round mode call inputs index s =
        (.correct (after call inputs index (Requirements.afterPass response value pass))
          (c.again inputs pass), s') := by
  obtain ⟨response, hvalue, hround⟩ := round_of_checked call h hlen hroom
  have hgoes : ¬ (pass.corrections.isEmpty ∨ inputs.retries ≤ index ∨ c.target.isNone) := by
    rintro (hnone | hnone | hnone)
    · exact hblocked (List.isEmpty_iff.1 hnone)
    · omega
    · rw [Option.isNone_iff_eq_none] at hnone
      rw [hnone] at htarget
      cases htarget
  dsimp only at hround
  rw [if_neg hgoes] at hround
  exact ⟨response, hvalue, hround⟩

/-- A round that is not given its response and has a prompt asks the target. -/
theorem response_of_prompt (c : Cycle σ) (mode : Mode) (args : List Json) (inputs : Inputs)
    (index : Nat) (s : σ) {t : Target σ} (hgiven : given inputs index = false)
    (hprompt : inputs.prompt.isNone = false) (htarget : c.target = some t)
    (hmode : ¬ (mode = .blocking ∧ t.mode = .async)) :
    ∃ r, c.response mode args inputs index s =
      ((t.generate r s).1.mapError .generation, (t.generate r s).2) := by
  have hrequest : ∃ r, c.request args inputs index = .ok r := by
    unfold request
    rw [hprompt]
    exact ⟨_, rfl⟩
  obtain ⟨r, hr⟩ := hrequest
  refine ⟨r, ?_⟩
  rw [response_of_not_given hgiven, hr]
  dsimp only
  unfold ask
  rw [htarget]
  exact if_neg hmode

/-- Only a target can answer in a later round. -/
theorem isSome_target_of_checks (h : c.Checks mode args inputs (index + 1) s value pass s') :
    c.target.isSome := by
  obtain ⟨⟨response, hresponse, -⟩, -⟩ := h
  obtain ⟨hgiven, -⟩ | ⟨e, he⟩ | ⟨r, t, -, htarget, -⟩ :=
    response_cases c mode args inputs (index + 1) s
  · cases hgiven
  · rw [he] at hresponse
    cases hresponse
  · rw [htarget]
    rfl

/-! ## One correction -/

/-- A run is over after its second round, which passes, if the first one left something to correct
and the second one does not. -/
theorem run_of_corrected (hcall : call.rounds = []) (hbudget : 1 ≤ call.retries)
    (hfirst : c.Checks mode call.inputs.args call.inputs.inputs 0 s first pass₁ s₁)
    (hblocked : pass₁.corrections ≠ [])
    (hsecond :
      c.Checks mode call.inputs.args (c.again call.inputs.inputs pass₁) 1 s₁ second pass₂ s₂)
    (hpassed : pass₂.corrections = []) :
    ∃ response₁ response₂,
      Extraction.extract? c.requirements.schema.shape response₂.text = some second ∧
      (Requirements.afterPass response₂ second pass₂).status = .pass ∧
      let ended := c.run mode call s
      ended.error = none ∧ ended.call.exception = call.exception ∧
        ended.call.rounds =
          [⟨0, call.inputs.inputs, Requirements.afterPass response₁ first pass₁⟩,
            ⟨1, c.again call.inputs.inputs pass₁, Requirements.afterPass response₂ second pass₂⟩] := by
  -- the first round leaves something to correct, and there is a target to ask for it
  have htarget := isSome_target_of_checks hsecond
  obtain ⟨response₁, -, hround₁⟩ :=
    round_of_blocked call hfirst (by rw [hcall]; rfl) (Nat.zero_le _) hbudget htarget hblocked
  obtain ⟨response₂, hvalue₂, hround₂⟩ := round_of_checked
    (after call call.inputs.inputs 0 (Requirements.afterPass response₁ first pass₁))
    hsecond (by simp [hcall]) hbudget
  dsimp only at hround₂
  rw [if_pos (.inl (by rw [hpassed]; rfl))] at hround₂
  have hpass : (Requirements.afterPass response₂ second pass₂).status = .pass := by
    rw [Requirements.status_afterPass (Extraction.wellFormed_of_extract? hvalue₂) hsecond.checked,
      hpassed]
    rfl
  refine ⟨response₁, response₂, hvalue₂, hpass, ?_⟩
  unfold Cycle.run
  rw [rounds_of_correct hround₁, rounds_of_done hround₂]
  exact ⟨rfl, rfl, by simp [after, hcall]⟩

/-! ## A hat

A generator describes a hat by color and size. The color is wrong, and asked for the color it
answers with the color. -/

/-- The first description. -/
def hat : Json := .obj [("color", .str "blue"), ("size", .str "L")]

/-- The second description. -/
def redHat : Json := .obj [("color", .str "red")]

/-- The cycle in which hats must be red. -/
def hatCycle : Cycle (List Target.Reply) where
  requirements := ⟨⟨.object, .empty, none⟩,
    ⟨[([.key "color"], [⟨.choices [.str "red"], .reask⟩])]⟩⟩
  target := some (Target.Script.target ⟨"mock", .blocking, none, .error Target.Script.exhausted,
    none⟩)
  templates := ⟨none, none⟩
  kwargs := []

/-- The call for a hat. The target may be asked again once. -/
def hatCall : Call :=
  .start "c" ⟨{ Inputs.empty with prompt := some ⟨"Describe a hat"⟩, retries := 1 }, [], []⟩

/-- The two answers. -/
def hatReplies : List Target.Reply :=
  [.ok (.ofText "\x7b\"color\":\"blue\",\"size\":\"L\"\x7d"),
    .ok (.ofText "\x7b\"color\":\"red\"\x7d")]

theorem processingOrder_hatCycle :
    hatCycle.requirements.validators.processingOrder = hatCycle.requirements.validators.entries :=
  List.mergeSort_singleton _

theorem checks_hat : ∃ pass, pass.corrections ≠ [] ∧
    hatCycle.Checks .blocking hatCall.inputs.args hatCall.inputs.inputs 0 hatReplies hat pass
      hatReplies.tail := by
  obtain ⟨pass, hrun, hblocked⟩ : ∃ pass,
      Pass.run hat hatCycle.requirements.validators [] = .ok pass ∧ pass.corrections ≠ [] := by
    unfold Pass.run
    rw [processingOrder_hatCycle]
    exact ⟨_, rfl, List.cons_ne_nil _ _⟩
  obtain ⟨r, hresponse⟩ := response_of_prompt hatCycle .blocking hatCall.inputs.args
    hatCall.inputs.inputs 0 hatReplies rfl rfl rfl (by decide)
  exact ⟨pass, hblocked, ⟨_, hresponse, by cbv⟩, hrun⟩

theorem checks_redHat (pass : Pass) : ∃ pass', pass'.corrections = [] ∧
    hatCycle.Checks .blocking hatCall.inputs.args (hatCycle.again hatCall.inputs.inputs pass) 1
      hatReplies.tail redHat pass' [] := by
  obtain ⟨pass', hrun, hpassed⟩ : ∃ pass',
      Pass.run redHat hatCycle.requirements.validators [] = .ok pass' ∧
        pass'.corrections = [] := by
    unfold Pass.run
    rw [processingOrder_hatCycle]
    exact ⟨_, rfl, rfl⟩
  obtain ⟨r, hresponse⟩ := response_of_prompt hatCycle .blocking hatCall.inputs.args
    (hatCycle.again hatCall.inputs.inputs pass) 1 hatReplies.tail rfl rfl rfl (by decide)
  exact ⟨pass', hpassed, ⟨_, hresponse, by cbv⟩, hrun⟩

theorem retries_hatCall : 1 ≤ hatCall.retries := Nat.le_refl 1

/-! ## All runs -/

/-- The run of a call without rounds: how many rounds it records, how each of them ends, and which
requests the target gets. -/
theorem run_law (c : Cycle σ) (mode : Mode) (call : Call) (s : σ) (hcall : call.rounds = []) :
    let ended := c.run mode call s
    let k := ended.call.rounds.length
    1 ≤ k ∧ k ≤ call.retries + 1 ∧ (call.retries = 0 → k = 1) ∧
      ended.call.rounds.map (·.index) = List.range k ∧
      (∀ r ∈ ended.call.rounds.dropLast, r.status = .fail) ∧
      (∃ last, ended.call.last? = some last ∧
        ((last.status = .pass ∧ ended.error = none) ∨
          (last.status = .error ∧
            ∃ e, ended.error = some e ∧ ended.call.exception = some e.message) ∨
          (last.status = .fail ∧ ended.error = none ∧
            (k = call.retries + 1 ∨ c.target = none)))) ∧
      ∃ requests,
        c.recorded.run mode call (s, []) = ⟨ended.error, ended.call, ended.state, requests⟩ ∧
        let first := if call.inputs.inputs.output.isSome then 1 else 0
        requests.map (·.round) = List.range' first requests.length ∧
          first + requests.length ≤ k ∧ (ended.error = none → first + requests.length = k) := by
  have hlen : call.rounds.length = 0 := by rw [hcall]; rfl
  have hretries : call.inputs.inputs.retries = call.retries := rfl
  have hleft : call.retries = call.rounds.length + call.retries := by omega
  obtain ⟨added, requests, hadds, hrecorded, hasks⟩ := c.rounds_law mode hretries hleft s []
  rw [hlen] at hadds hrecorded hasks
  intro ended k
  change c.Adds call added ended at hadds
  have hrounds : ended.call.rounds = added := by rw [hadds.rounds_eq, hcall, List.nil_append]
  have hbudget : ended.call.retries = call.retries := by
    unfold Call.retries
    rw [hadds.inputs_eq]
  have hk : k = added.length := congrArg List.length hrounds
  have hpos : 0 < added.length := List.length_pos_of_ne_nil hadds.ne_nil
  have hmax := hadds.length_le
  rw [hlen] at hmax
  refine ⟨by omega, by omega, by omega, ?_, ?_, ?_, requests, hrecorded, ?_⟩
  · rw [hk, hrounds, hadds.index_eq, hlen, List.range_eq_range']
  · rw [hrounds]
    exact hadds.fail_of_mem
  · obtain ⟨last, hlast, hends⟩ := hadds.last_eq
    refine ⟨last, by rw [Call.last?, hrounds, hlast], ?_⟩
    unfold EndsWith at hends
    rw [hbudget] at hends
    exact hends
  · have hfirst : 0 + (given call.inputs.inputs 0).toNat =
        if call.inputs.inputs.output.isSome then 1 else 0 := by
      cases h : call.inputs.inputs.output <;> simp [given, h]
    rw [hfirst, Nat.zero_add, ← hk] at hasks
    exact ⟨hasks.round_eq, hasks.length_le, hasks.length_eq⟩

/-- The cycle asks for the hat twice: the first answer fails, the second one passes. -/
theorem run_law_of_two_rounds :
    hatCall.rounds = [] ∧
      let ended := hatCycle.run .blocking hatCall hatReplies
      ended.error = none ∧ ended.call.rounds.map (·.index) = [0, 1] ∧
        ended.call.rounds.map (·.status) = [.fail, .pass] ∧
        ∃ requests, hatCycle.recorded.run .blocking hatCall (hatReplies, []) =
            ⟨ended.error, ended.call, ended.state, requests⟩ ∧
          requests.map (·.round) = [0, 1] := by
  obtain ⟨pass₁, hblocked, hfirst⟩ := checks_hat
  obtain ⟨pass₂, hpassed, hsecond⟩ := checks_redHat pass₁
  obtain ⟨response₁, response₂, -, hpass, herror, -, hrounds⟩ :=
    run_of_corrected rfl retries_hatCall hfirst hblocked hsecond hpassed
  obtain ⟨-, -, -, hindex, hfail, -, requests, hrecorded, hround, -, hone⟩ :=
    run_law hatCycle .blocking hatCall hatReplies rfl
  have hlength : 0 + requests.length = 2 := (hone herror).trans (congrArg List.length hrounds)
  rw [Nat.zero_add] at hlength
  rw [hlength] at hround
  rw [hrounds] at hindex hfail
  refine ⟨rfl, herror, by rw [hrounds]; exact hindex, ?_, requests, hrecorded, hround⟩
  rw [hrounds]
  exact congrArg₂ (fun a b => [a, b]) (hfail _ List.mem_cons_self) hpass

end Guardrail.Cycle
