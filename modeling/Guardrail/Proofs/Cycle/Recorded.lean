import Guardrail.Cycle.Run

/-!
# Requests on record

A cycle whose target keeps a record of its requests runs as it does without one, and a round adds
the request that it puts to the target, if it puts one. Which request that is depends on the inputs
of the round and not on the state of the target.

Results:
* `round_recorded`: what a round adds to the record.
* `round_of_asked`: the request of a round carries its number.
* `response_cases`: all that becomes of a round's response.
-/

namespace Guardrail.Cycle

variable {σ : Type} {c : Cycle σ} {mode : Mode} {call : Call} {args : List Json} {inputs : Inputs}
  {index : Nat} {s : σ} {log : List Target.Request} {r : Target.Request} {response : Response}

/-- The cycle with a record of the requests that its target was asked to answer. -/
def recorded (c : Cycle σ) : Cycle (σ × List Target.Request) where
  requirements := c.requirements
  target := c.target.map Target.recorded
  templates := c.templates
  kwargs := c.kwargs

/-- Whether a round is given its response. -/
def given (inputs : Inputs) (index : Nat) : Bool := index == 0 && inputs.output.isSome

/-- The request that a round puts to the target, if it puts one. -/
def asked (c : Cycle σ) (mode : Mode) (args : List Json) (inputs : Inputs) (index : Nat) :
    Option Target.Request :=
  if given inputs index then none
  else
    match c.request args inputs index, c.target with
    | .ok r, some t => if mode = .blocking ∧ t.mode = .async then none else some r
    | _, _ => none

/-! ## One response -/

theorem response_of_given {output : String} (h : inputs.output = some output) :
    c.response mode args inputs 0 s = (.ok (.ofText output), s) := by
  unfold Cycle.response
  simp only [h]

theorem response_of_not_given (h : given inputs index = false) :
    c.response mode args inputs index s =
      match c.request args inputs index with
      | .error e => (.error (.config e), s)
      | .ok r => c.ask mode r s := by
  unfold Cycle.response
  cases index with
  | succ i => rfl
  | zero =>
    cases hout : inputs.output with
    | none => rfl
    | some output => simp [given, hout] at h

/-- A target that keeps a record answers as it does without one. -/
theorem response_recorded (c : Cycle σ) :
    c.recorded.response mode args inputs index (s, log) =
      ((c.response mode args inputs index s).1, (c.response mode args inputs index s).2,
        log ++ (c.asked mode args inputs index).toList) := by
  cases hgiven : given inputs index with
  | true =>
    simp only [given, Bool.and_eq_true, beq_iff_eq] at hgiven
    obtain ⟨rfl, hsome⟩ := hgiven
    obtain ⟨output, hout⟩ := Option.isSome_iff_exists.1 hsome
    rw [response_of_given hout, response_of_given hout]
    simp [asked, given, hout]
  | false =>
    have hrequest : c.recorded.request args inputs index = c.request args inputs index := rfl
    rw [response_of_not_given hgiven, response_of_not_given hgiven, hrequest]
    unfold asked
    rw [hgiven]
    cases c.request args inputs index with
    | error e => simp
    | ok r =>
      unfold ask recorded
      cases c.target with
      | none => simp
      | some t =>
        by_cases hawait : mode = .blocking ∧ t.mode = .async
        · simp [hawait, Target.recorded]
        · simp [hawait, Target.recorded]

theorem round_of_request (h : c.request args inputs index = .ok r) : r.round = index := by
  unfold request at h
  dsimp only at h
  split at h
  · cases h
  · cases h
    rfl

/-- What a round asks is the request that its inputs make. -/
theorem request_of_asked (h : c.asked mode args inputs index = some r) :
    c.request args inputs index = .ok r := by
  unfold asked at h
  split at h
  · cases h
  · split at h
    · next hrequest _ =>
      split at h
      · cases h
      · cases h
        exact hrequest
    · cases h

/-- The request of a round carries its number. -/
theorem round_of_asked (h : c.asked mode args inputs index = some r) : r.round = index :=
  round_of_request (request_of_asked h)

theorem asked_of_given (h : given inputs index = true) :
    c.asked mode args inputs index = none := by
  unfold asked
  rw [if_pos h]

/-- All that becomes of a round's response: it is given, or the configuration does not allow to ask
for one, or the target answers the round's request. -/
theorem response_cases (c : Cycle σ) (mode : Mode) (args : List Json) (inputs : Inputs)
    (index : Nat) (s : σ) :
    (given inputs index = true ∧
      ∃ response, c.response mode args inputs index s = (.ok response, s)) ∨
    (∃ e, c.response mode args inputs index s = (.error (.config e), s)) ∨
    ∃ r t, c.asked mode args inputs index = some r ∧ c.target = some t ∧
      c.response mode args inputs index s =
        ((t.generate r s).1.mapError .generation, (t.generate r s).2) := by
  cases hgiven : given inputs index with
  | true =>
    simp only [given, Bool.and_eq_true, beq_iff_eq] at hgiven
    obtain ⟨rfl, hsome⟩ := hgiven
    obtain ⟨output, hout⟩ := Option.isSome_iff_exists.1 hsome
    exact .inl ⟨rfl, _, response_of_given hout⟩
  | false =>
    refine .inr ?_
    rw [response_of_not_given hgiven]
    unfold asked
    rw [hgiven]
    cases c.request args inputs index with
    | error e => exact .inl ⟨e, rfl⟩
    | ok r =>
      unfold ask
      cases c.target with
      | none => exact .inl ⟨_, rfl⟩
      | some t =>
        by_cases hawait : mode = .blocking ∧ t.mode = .async
        · exact .inl ⟨_, if_pos hawait⟩
        · exact .inr ⟨r, t, by simp [hawait], rfl, if_neg hawait⟩

/-- A round has a response only if it is given one or asks for it. -/
theorem answered_of_response (h : (c.response mode args inputs index s).1 = .ok response) :
    given inputs index = true ∨ (c.asked mode args inputs index).isSome := by
  obtain ⟨hgiven, -⟩ | ⟨e, he⟩ | ⟨r, t, hasked, -⟩ := response_cases c mode args inputs index s
  · exact .inl hgiven
  · rw [he] at h
    cases h
  · exact .inr (by rw [hasked]; rfl)

/-- The errors for which a round has no response are none of the library's own. -/
theorem isFatal_of_response {e : Error} (h : (c.response mode args inputs index s).1 = .error e) :
    e.isFatal = false := by
  obtain ⟨-, response, hr⟩ | ⟨cause, hr⟩ | ⟨r, t, -, -, hr⟩ :=
    response_cases c mode args inputs index s
  · rw [hr] at h
    cases h
  · rw [hr] at h
    cases h
    rfl
  · rw [hr] at h
    cases hanswer : (t.generate r s).1 with
    | ok response =>
      rw [hanswer] at h
      cases h
    | error cause =>
      rw [hanswer] at h
      cases h
      rfl

/-! ## One round -/

theorem record_recorded (c : Cycle σ) :
    c.recorded.record call inputs index response = c.record call inputs index response := by
  unfold Cycle.record recorded
  simp only [Option.isNone_map]

/-- A round adds its request to the record and otherwise goes as without one. -/
theorem round_recorded (c : Cycle σ) :
    c.recorded.round mode call inputs index (s, log) =
      ((c.round mode call inputs index s).1, (c.round mode call inputs index s).2,
        log ++ (c.asked mode call.inputs.args inputs index).toList) := by
  unfold Cycle.round
  rw [response_recorded]
  cases c.response mode call.inputs.args inputs index s with
  | mk answer s' =>
    cases answer with
    | error e => rfl
    | ok response =>
      dsimp only
      rw [record_recorded]

end Guardrail.Cycle
