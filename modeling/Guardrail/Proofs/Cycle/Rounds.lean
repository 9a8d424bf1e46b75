import Guardrail.Proofs.Cycle.Recorded
import Guardrail.Proofs.Cycle.Verdict

/-!
# The rounds of a run

A run records one round after another, numbered from 0. Every round but the last failed and was
followed by a correction; the last one passed, ended with an error, or failed when nothing could be
asked for any more. Each round asks the target once at most, and round 0 does not if it is given an
output.

Results:
* `round_cases`: all that one round can do to a call that has room for it.
* `rounds_law`: the rounds and requests from a round on.
-/

namespace Guardrail.Cycle

variable {σ : Type} {c : Cycle σ} {mode : Mode} {call : Call} {args : List Json} {inputs : Inputs}
  {index : Nat} {s : σ} {e : Error}

/-! ## One round -/

/-- The call with one more round. -/
def after (call : Call) (inputs : Inputs) (index : Nat) (outputs : Outputs) : Call :=
  { call with rounds := call.rounds ++ [⟨index, inputs, outputs⟩] }

@[simp] theorem length_rounds_after (call : Call) (inputs : Inputs) (index : Nat)
    (outputs : Outputs) :
    (after call inputs index outputs).rounds.length = call.rounds.length + 1 :=
  List.length_append

@[simp] theorem retries_after (call : Call) (inputs : Inputs) (index : Nat) (outputs : Outputs) :
    (after call inputs index outputs).retries = call.retries := rfl

theorem push_of_room (hlen : call.rounds.length = index) (hroom : index ≤ call.retries)
    (outputs : Outputs) :
    call.push ⟨index, inputs, outputs⟩ = .ok (after call inputs index outputs) := by
  unfold Call.push Call.maxRounds
  rw [if_neg (by omega), if_neg (by simp [hlen])]
  rfl

theorem abort_of_room (hlen : call.rounds.length = index) (hroom : index ≤ call.retries)
    (outputs : Outputs) (e : Error) :
    call.abort ⟨index, inputs, outputs⟩ e =
      (e, (after call inputs index outputs).fail e.message) := by
  unfold Call.abort
  rw [push_of_room hlen hroom]

/-- All that becomes of a response in a call that has room for a round: it is recorded, and the call
ends with an error, or is done, or something is to be corrected. -/
theorem record_cases (c : Cycle σ) (inputs : Inputs) (response : Response)
    (hlen : call.rounds.length = index) (hroom : index ≤ call.retries) :
    ∃ outputs,
      (∃ e, c.record call inputs index response =
            .failed (e, (after call inputs index outputs).fail e.message) ∧
          outputs.status = .error) ∨
      (c.record call inputs index response = .done (after call inputs index outputs) ∧
        (outputs.status = .pass ∨
          outputs.status = .fail ∧ (inputs.retries ≤ index ∨ c.target = none))) ∨
      ∃ next, c.record call inputs index response =
          .correct (after call inputs index outputs) next ∧
        outputs.status = .fail := by
  unfold Cycle.record
  cases heval : c.requirements.evaluate response inputs.metadata with
  | aborted outputs cause =>
    refine ⟨outputs, .inl ⟨.validation cause, ?_, Requirements.status_of_aborted heval⟩⟩
    simp only [abort_of_room hlen hroom]
  | checked outputs annotated corrections =>
    have hstatus := Requirements.status_of_checked heval
    refine ⟨outputs, .inr ?_⟩
    simp only [push_of_room hlen hroom]
    by_cases hpassed : corrections.isEmpty
    · rw [if_pos hpassed] at hstatus
      exact .inl ⟨by rw [if_pos (.inl hpassed)], .inl hstatus⟩
    · rw [if_neg hpassed] at hstatus
      by_cases hstop : inputs.retries ≤ index ∨ c.target.isNone
      · refine .inl ⟨by rw [if_pos (.inr hstop)], .inr ⟨hstatus, ?_⟩⟩
        exact hstop.imp_right Option.isNone_iff_eq_none.1
      · exact .inr ⟨_, by rw [if_neg (not_or.2 ⟨hpassed, hstop⟩)], hstatus⟩

/-- All that a round can do to a call that has room for it: it records one round, and ends the call
with an error, or is done, or has something corrected. In the last two cases it had a response. -/
theorem round_cases (c : Cycle σ) (mode : Mode) (inputs : Inputs) (s : σ)
    (hlen : call.rounds.length = index) (hroom : index ≤ call.retries) :
    ∃ outputs s',
      (∃ e, c.round mode call inputs index s =
            (.failed (e, (after call inputs index outputs).fail e.message), s') ∧
          outputs.status = .error) ∨
      (given inputs index = true ∨ (c.asked mode call.inputs.args inputs index).isSome) ∧
        ((c.round mode call inputs index s = (.done (after call inputs index outputs), s') ∧
          (outputs.status = .pass ∨
            outputs.status = .fail ∧ (inputs.retries ≤ index ∨ c.target = none))) ∨
        ∃ next, c.round mode call inputs index s =
            (.correct (after call inputs index outputs) next, s') ∧
          outputs.status = .fail) := by
  unfold Cycle.round
  cases hresponse : c.response mode call.inputs.args inputs index s with
  | mk answer s' =>
    cases answer with
    | error e =>
      have hfatal : e.isFatal = false := isFatal_of_response (by rw [hresponse])
      refine ⟨{ Outputs.empty with error := some e.message }, s', .inl ⟨e, ?_, rfl⟩⟩
      simp only [Call.abortRound, hfatal, Bool.false_eq_true, if_false, abort_of_room hlen hroom]
    | ok response =>
      have hanswered := answered_of_response (by rw [hresponse])
      dsimp only
      obtain ⟨outputs, ⟨e, hrecord, hstatus⟩ | ⟨hrecord, hstatus⟩ | ⟨next, hrecord, hstatus⟩⟩ :=
        c.record_cases inputs response hlen hroom
      · exact ⟨outputs, s', .inl ⟨e, by rw [hrecord], hstatus⟩⟩
      · exact ⟨outputs, s', .inr ⟨hanswered, .inl ⟨by rw [hrecord], hstatus⟩⟩⟩
      · exact ⟨outputs, s', .inr ⟨hanswered, .inr ⟨next, by rw [hrecord], hstatus⟩⟩⟩

/-! ## The requests of a round -/

/-- A round asks once at most, and not at all if it is given its response. -/
theorem asked_toList (c : Cycle σ) (mode : Mode) (args : List Json) (inputs : Inputs)
    (index : Nat) :
    (c.asked mode args inputs index).toList.map (·.round) =
        List.range' (index + (given inputs index).toNat)
          (c.asked mode args inputs index).toList.length ∧
      (given inputs index).toNat + (c.asked mode args inputs index).toList.length ≤ 1 := by
  cases hgiven : given inputs index with
  | true => simp [asked_of_given hgiven]
  | false =>
    cases hasked : c.asked mode args inputs index with
    | none => simp
    | some r => simp [round_of_asked hasked]

theorem length_asked_of_answered
    (h : given inputs index = true ∨ (c.asked mode args inputs index).isSome) :
    (given inputs index).toNat + (c.asked mode args inputs index).toList.length = 1 := by
  cases hgiven : given inputs index with
  | true => simp [asked_of_given hgiven]
  | false =>
    obtain ⟨r, hr⟩ := Option.isSome_iff_exists.1 (h.resolve_left (by simp [hgiven]))
    simp [hr]

/-! ## Round after round -/

section Rounds

variable {call' : Call} {next : Inputs} {s' : σ} {added : List Round} {ended : Ended σ}

theorem rounds_of_failed (h : c.round mode call inputs index s = (.failed (e, call'), s')) :
    c.rounds mode index call inputs s = ⟨some e, call', s'⟩ := by
  rw [rounds]
  split <;> simp_all

theorem rounds_of_done (h : c.round mode call inputs index s = (.done call', s')) :
    c.rounds mode index call inputs s = ⟨none, call', s'⟩ := by
  rw [rounds]
  split <;> simp_all

theorem rounds_of_correct (h : c.round mode call inputs index s = (.correct call' next, s')) :
    c.rounds mode index call inputs s = c.rounds mode (index + 1) call' next s' := by
  rw [rounds]
  split <;> simp_all

/-- Two cycles go through the same rounds if single rounds of them are the same, at least with
inputs of a kind that every round hands on. -/
theorem rounds_congr {c' : Cycle σ} {mode' : Mode} (P : Inputs → Prop)
    (hround : ∀ call inputs index s, P inputs →
      c'.round mode' call inputs index s = c.round mode call inputs index s)
    (hnext : ∀ {call inputs index s call' next s'}, P inputs →
      c.round mode call inputs index s = (.correct call' next, s') → P next)
    (hinputs : P inputs) :
    c'.rounds mode' index call inputs s = c.rounds mode index call inputs s := by
  induction index, call, inputs, s using rounds.induct c mode with
  | case1 index call inputs s e call' s' h =>
    rw [rounds_of_failed h, rounds_of_failed ((hround _ _ _ _ hinputs).trans h)]
  | case2 index call inputs s call' s' h =>
    rw [rounds_of_done h, rounds_of_done ((hround _ _ _ _ hinputs).trans h)]
  | case3 index call inputs s call' next s' h ih =>
    rw [rounds_of_correct h, rounds_of_correct ((hround _ _ _ _ hinputs).trans h),
      ih (hnext hinputs h)]

/-- How a run and its last round end: with a value that passed, with an error, or with a failure
that nothing more is to be done about. -/
def EndsWith (c : Cycle σ) (ended : Ended σ) (last : Round) : Prop :=
  (last.status = .pass ∧ ended.error = none) ∨
  (last.status = .error ∧ ∃ e, ended.error = some e ∧ ended.call.exception = some e.message) ∨
  (last.status = .fail ∧ ended.error = none ∧
    (ended.call.rounds.length = ended.call.retries + 1 ∨ c.target = none))

/-- The rounds that a run adds to a call. -/
structure Adds (c : Cycle σ) (call : Call) (added : List Round) (ended : Ended σ) : Prop where
  rounds_eq : ended.call.rounds = call.rounds ++ added
  inputs_eq : ended.call.inputs = call.inputs
  index_eq : added.map (·.index) = List.range' call.rounds.length added.length
  length_le : call.rounds.length + added.length ≤ call.retries + 1
  fail_of_mem : ∀ r ∈ added.dropLast, r.status = .fail
  last_eq : ∃ last, added.getLast? = some last ∧ c.EndsWith ended last

theorem Adds.ne_nil (h : c.Adds call added ended) : added ≠ [] := by
  obtain ⟨last, hlast, -⟩ := h.last_eq
  rintro rfl
  cases hlast

/-- A run may end with any round for which the call has room. -/
theorem adds_last {outputs : Outputs} (hroom : call.rounds.length ≤ call.retries)
    (hrounds : ended.call.rounds = call.rounds ++ [⟨call.rounds.length, inputs, outputs⟩])
    (hinputs : ended.call.inputs = call.inputs)
    (hends : c.EndsWith ended ⟨call.rounds.length, inputs, outputs⟩) :
    c.Adds call [⟨call.rounds.length, inputs, outputs⟩] ended where
  rounds_eq := hrounds
  inputs_eq := hinputs
  index_eq := by simp
  length_le := by simpa using hroom
  fail_of_mem := by simp
  last_eq := ⟨_, rfl, hends⟩

/-- A run may go on after a round that failed. -/
theorem Adds.cons {outputs : Outputs}
    (h : c.Adds (after call inputs call.rounds.length outputs) added ended)
    (hfail : outputs.status = .fail) :
    c.Adds call (⟨call.rounds.length, inputs, outputs⟩ :: added) ended where
  rounds_eq := by
    rw [h.rounds_eq]
    simp [after]
  inputs_eq := h.inputs_eq
  index_eq := by
    have hindex := h.index_eq
    rw [length_rounds_after] at hindex
    rw [List.map_cons, hindex, List.length_cons, List.range'_succ]
  length_le := by
    have hlength := h.length_le
    rw [length_rounds_after, retries_after] at hlength
    rw [List.length_cons]
    omega
  fail_of_mem := by
    rw [List.dropLast_cons_of_ne_nil h.ne_nil]
    exact List.forall_mem_cons.2 ⟨hfail, h.fail_of_mem⟩
  last_eq := by
    obtain ⟨last, hlast, hends⟩ := h.last_eq
    exact ⟨last, by rw [List.getLast?_cons, hlast]; rfl, hends⟩

end Rounds

/-- The requests of a run carry consecutive round numbers. There is one for each round up to the
end, except that a round that ends in an error may have none. -/
structure Asks (first : Nat) (requests : List Target.Request) (rounds : Nat)
    (error : Option Error) : Prop where
  round_eq : requests.map (·.round) = List.range' first requests.length
  length_le : first + requests.length ≤ rounds
  length_eq : error = none → first + requests.length = rounds

/-- The request of the last round, if that round puts one. -/
theorem asks_last {skipped : Nat} {own : List Target.Request} {error : Option Error}
    (hown : own.map (·.round) = List.range' (index + skipped) own.length)
    (hle : skipped + own.length ≤ 1) (hone : error = none → skipped + own.length = 1) :
    Asks (index + skipped) own (index + 1) error where
  round_eq := hown
  length_le := by omega
  length_eq herror := by
    have heq := hone herror
    omega

/-- The requests of a round that had a response, and of those after it. -/
theorem Asks.append {skipped n : Nat} {own requests : List Target.Request} {error : Option Error}
    (hown : own.map (·.round) = List.range' (index + skipped) own.length)
    (hone : skipped + own.length = 1) (h : Asks (index + 1) requests (index + 1 + n) error) :
    Asks (index + skipped) (own ++ requests) (index + (n + 1)) error where
  round_eq := by
    have hfirst : index + skipped + own.length = index + 1 := by omega
    rw [List.map_append, hown, h.round_eq, List.length_append, ← List.range'_append_1, hfirst]
  length_le := by
    have hle := h.length_le
    rw [List.length_append]
    omega
  length_eq herror := by
    have heq := h.length_eq herror
    rw [List.length_append]
    omega

/-- The rounds and requests of a run from a round on. The induction is on the corrections that are
left. -/
theorem rounds_law (c : Cycle σ) (mode : Mode) {left : Nat} {call : Call} {inputs : Inputs}
    (hretries : inputs.retries = call.retries) (hleft : call.retries = call.rounds.length + left)
    (s : σ) (log : List Target.Request) :
    let ended := c.rounds mode call.rounds.length call inputs s
    ∃ added requests, c.Adds call added ended ∧
      c.recorded.rounds mode call.rounds.length call inputs (s, log) =
        ⟨ended.error, ended.call, ended.state, log ++ requests⟩ ∧
      Asks (call.rounds.length + (given inputs call.rounds.length).toNat) requests
        (call.rounds.length + added.length) ended.error := by
  induction left using Nat.strong_induction_on generalizing call inputs s log with
  | _ left ih =>
    have hroom : call.rounds.length ≤ call.retries := by omega
    have hrecorded : c.recorded.round mode call inputs call.rounds.length (s, log) = _ :=
      round_recorded c
    obtain ⟨hown, hle⟩ := asked_toList c mode call.inputs.args inputs call.rounds.length
    obtain ⟨outputs, s', ⟨e, hround, hstatus⟩ | ⟨hanswered, ⟨hround, hstatus⟩ |
      ⟨next, hround, hstatus⟩⟩⟩ := round_cases c mode inputs s rfl hroom
    · rw [hround] at hrecorded
      rw [rounds_of_failed hround, rounds_of_failed hrecorded]
      exact ⟨_, _, adds_last hroom rfl rfl (.inr (.inl ⟨hstatus, e, rfl, rfl⟩)), rfl,
        asks_last hown hle (by rintro ⟨⟩)⟩
    · have hone := length_asked_of_answered hanswered
      rw [hround] at hrecorded
      rw [rounds_of_done hround, rounds_of_done hrecorded]
      refine ⟨_, _, adds_last hroom rfl rfl ?_, rfl, asks_last hown hle fun _ => hone⟩
      rcases hstatus with hpass | ⟨hfail, hstop⟩
      · exact .inl ⟨hpass, rfl⟩
      · refine .inr (.inr ⟨hfail, rfl, hstop.imp_left fun hbudget => ?_⟩)
        rw [length_rounds_after, retries_after]
        omega
    · have hone := length_asked_of_answered hanswered
      obtain ⟨hbudget, hnext⟩ := lt_retries_of_round hround
      rw [hround] at hrecorded
      rw [rounds_of_correct hround, rounds_of_correct hrecorded]
      have hretries' : next.retries = (after call inputs call.rounds.length outputs).retries :=
        hnext.trans hretries
      have hleft' : (after call inputs call.rounds.length outputs).retries =
          (after call inputs call.rounds.length outputs).rounds.length + (left - 1) := by
        rw [length_rounds_after, retries_after]
        omega
      obtain ⟨added, requests, hadds, hrest, hasks⟩ :=
        ih (left - 1) (by omega) hretries' hleft' s'
          (log ++ (c.asked mode call.inputs.args inputs call.rounds.length).toList)
      -- only round 0 can be given its response
      have hgiven : given next (call.rounds.length + 1) = false := rfl
      rw [length_rounds_after] at hadds hrest hasks
      rw [hgiven] at hasks
      refine ⟨_, _, hadds.cons hstatus, ?_, hasks.append hown hone⟩
      rw [hrest, List.append_assoc]

end Guardrail.Cycle
