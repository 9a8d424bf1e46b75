import Guardrail.Proofs.Record.Growth

/-!
# The record of a call over its whole life

Runs, streams and merged answers all write to the record of a call, each with its own idea of which
round comes next: a run counts from 0, whatever the call already holds, a stream always records
round 0, and a merge goes on where the record ends. Only the checks that are made when a round is
added keep them apart. They are enough: under any sequence of such operations, and at every moment
of each of them, the record is regular, and it only grows.

Results:
* `grows_of_round`, `grows_rounds`, `grows_next`: rounds, runs and items of streams make a call
  grow.
* `unfolds_passed`, `unfolds_partlyMerged`: so does every part of a run, and of a merge.
* `run_of_rounds_ne_nil`: a call that has rounds already is left as it is by a run.
* `moments_law`: what holds of a call at every moment of its life.
-/

namespace Guardrail

/-! ## Moments -/

/-- What is seen of a call on the way from one moment to another, in the order of time. Whatever is
seen has grown out of all that was seen before. -/
structure Unfolds (call : Call) (seen : List Call) (call' : Call) : Prop where
  grows : call.Grows call'
  between : ∀ m ∈ seen, call.Grows m ∧ m.Grows call'
  pairwise : seen.Pairwise Call.Grows

namespace Unfolds

variable {call call' call'' : Call} {seen seen' : List Call}

theorem refl (call : Call) : Unfolds call [] call :=
  ⟨.refl call, by simp, .nil⟩

/-- One moment after another. -/
theorem cons (hgrows : call.Grows call') (h : Unfolds call' seen call'') :
    Unfolds call (call' :: seen) call'' where
  grows := hgrows.trans h.grows
  between := by
    refine List.forall_mem_cons.2 ⟨⟨hgrows, h.grows⟩, fun m hm => ?_⟩
    obtain ⟨hfrom, hto⟩ := h.between m hm
    exact ⟨hgrows.trans hfrom, hto⟩
  pairwise := List.pairwise_cons.2 ⟨fun m hm => (h.between m hm).1, h.pairwise⟩

theorem single (hgrows : call.Grows call') : Unfolds call [call'] call' :=
  cons hgrows (refl call')

theorem trans (h : Unfolds call seen call') (h' : Unfolds call' seen' call'') :
    Unfolds call (seen ++ seen') call'' where
  grows := h.grows.trans h'.grows
  between := by
    intro m hm
    rcases List.mem_append.1 hm with hm | hm
    · obtain ⟨hfrom, hto⟩ := h.between m hm
      exact ⟨hfrom, hto.trans h'.grows⟩
    · obtain ⟨hfrom, hto⟩ := h'.between m hm
      exact ⟨h.grows.trans hfrom, hto⟩
  pairwise := by
    refine List.pairwise_append.2 ⟨h.pairwise, h'.pairwise, fun m hm m' hm' => ?_⟩
    exact (h.between m hm).2.trans (h'.between m' hm').1

end Unfolds

/-! ## Runs -/

namespace Cycle

/-- The call that a round leaves. -/
def RoundEnd.call : RoundEnd → Call
  | .done call => call
  | .correct call _ => call
  | .failed (_, call) => call

section Runs

variable {σ : Type} {c : Cycle σ} {mode : Mode} {call : Call} {inputs : Inputs} {index : Nat}
  {s : σ}

theorem grows_record (c : Cycle σ) (call : Call) (inputs : Inputs) (index : Nat)
    (response : Response) : call.Grows (c.record call inputs index response).call := by
  unfold Cycle.record
  split
  · exact call.grows_abort _ _
  · split
    · exact .refl call
    · next hpush =>
      have hgrows := Call.grows_of_push hpush
      split <;> exact hgrows

theorem grows_of_round {ended : RoundEnd} {s' : σ}
    (h : c.round mode call inputs index s = (ended, s')) : call.Grows ended.call := by
  unfold Cycle.round at h
  split at h
  · obtain ⟨rfl, rfl⟩ := Prod.mk.inj h
    exact call.grows_abortRound _ _ _
  · obtain ⟨rfl, rfl⟩ := Prod.mk.inj h
    exact c.grows_record _ _ _ _

/-- The call after each of the rounds from an index on. -/
def passed (c : Cycle σ) (mode : Mode) (index : Nat) (call : Call) (inputs : Inputs) (s : σ) :
    List Call :=
  match h : c.round mode call inputs index s with
  | (.failed (_, call), _) => [call]
  | (.done call, _) => [call]
  | (.correct call next, s) => call :: c.passed mode (index + 1) call next s
termination_by inputs.retries - index
decreasing_by
  obtain ⟨hlt, hnext⟩ := lt_retries_of_round h
  omega

theorem passed_of_failed {e : Error} {call' : Call} {s' : σ}
    (h : c.round mode call inputs index s = (.failed (e, call'), s')) :
    c.passed mode index call inputs s = [call'] := by
  rw [passed]
  split <;> simp_all

theorem passed_of_done {call' : Call} {s' : σ}
    (h : c.round mode call inputs index s = (.done call', s')) :
    c.passed mode index call inputs s = [call'] := by
  rw [passed]
  split <;> simp_all

theorem passed_of_correct {call' : Call} {next : Inputs} {s' : σ}
    (h : c.round mode call inputs index s = (.correct call' next, s')) :
    c.passed mode index call inputs s = call' :: c.passed mode (index + 1) call' next s' := by
  rw [passed]
  split <;> simp_all

/-- The rounds from an index on make the call grow, whether the index is the next one or not. -/
theorem unfolds_passed (c : Cycle σ) (mode : Mode) (index : Nat) (call : Call) (inputs : Inputs)
    (s : σ) :
    Unfolds call (c.passed mode index call inputs s) (c.rounds mode index call inputs s).call := by
  induction index, call, inputs, s using rounds.induct c mode with
  | case1 index call inputs s e call' s' hround =>
    rw [rounds_of_failed hround, passed_of_failed hround]
    exact .single (grows_of_round hround)
  | case2 index call inputs s call' s' hround =>
    rw [rounds_of_done hround, passed_of_done hround]
    exact .single (grows_of_round hround)
  | case3 index call inputs s call' next s' hround ih =>
    rw [rounds_of_correct hround, passed_of_correct hround]
    exact .cons (grows_of_round hround) ih

theorem grows_rounds (c : Cycle σ) (mode : Mode) (index : Nat) (call : Call) (inputs : Inputs)
    (s : σ) : call.Grows (c.rounds mode index call inputs s).call :=
  (c.unfolds_passed mode index call inputs s).grows

/-! ### A call that has rounds already -/

/-- A round that is not the next one is refused, and the call stays as it is. -/
theorem record_of_ne (c : Cycle σ) (inputs : Inputs) (hindex : index ≠ call.rounds.length)
    (response : Response) :
    ∃ message, c.record call inputs index response = .failed (.invariant message, call) := by
  have hpush : ∀ outputs, ∃ message,
      call.push ⟨index, inputs, outputs⟩ = .error (.invariant message) := fun outputs =>
    Call.push_of_ne hindex
  unfold Cycle.record
  cases c.requirements.evaluate response inputs.metadata with
  | aborted outputs e =>
    obtain ⟨message, hmisfit⟩ := hpush outputs
    refine ⟨message, ?_⟩
    simp only [Call.abort, hmisfit]
  | checked outputs annotated corrections =>
    obtain ⟨message, hmisfit⟩ := hpush outputs
    refine ⟨message, ?_⟩
    simp only [hmisfit]

theorem round_of_ne (c : Cycle σ) (mode : Mode) (inputs : Inputs) (s : σ)
    (hindex : index ≠ call.rounds.length) :
    ∃ message s', c.round mode call inputs index s = (.failed (.invariant message, call), s') := by
  unfold Cycle.round
  cases hresponse : c.response mode call.inputs.args inputs index s with
  | mk answer s' =>
    cases answer with
    | ok response =>
      obtain ⟨message, hrecord⟩ := c.record_of_ne inputs hindex response
      refine ⟨message, s', ?_⟩
      dsimp only
      rw [hrecord]
    | error e =>
      have hfatal : e.isFatal = false := isFatal_of_response (by rw [hresponse])
      obtain ⟨message, hmisfit⟩ := Call.push_of_ne (r := ⟨index, inputs,
        { Outputs.empty with error := some e.message }⟩) hindex
      refine ⟨message, s', ?_⟩
      simp only [Call.abortRound, hfatal, Bool.false_eq_true, if_false, Call.abort, hmisfit]

/-- A second run of a call is refused, and the call stays as it is. -/
theorem run_of_rounds_ne_nil (c : Cycle σ) (mode : Mode) (s : σ) (h : call.rounds ≠ []) :
    ∃ message, (c.run mode call s).error = some (.invariant message) ∧
      (c.run mode call s).call = call := by
  have hindex : 0 ≠ call.rounds.length := fun hzero => h (List.length_eq_zero_iff.1 hzero.symm)
  obtain ⟨message, s', hround⟩ :=
    c.round_of_ne mode call.inputs.inputs s hindex
  unfold Cycle.run
  rw [rounds_of_failed hround]
  exact ⟨message, rfl, rfl⟩

end Runs
end Cycle

/-! ## Streams -/

namespace OutcomeStream

theorem grows_take (st : OutcomeStream) (chunk : String) (call : Call) :
    call.Grows (st.take chunk call).2.2 := by
  unfold take
  dsimp only
  split
  · exact .refl call
  · exact call.grows_abort _ _

theorem grows_finish (st : OutcomeStream) (call : Call) : call.Grows (st.finish call).2 := by
  unfold finish
  split
  · split
    · next hpush => exact Call.grows_of_push hpush
    · exact .refl call
  · exact call.grows_abort _ _

theorem grows_next (st : OutcomeStream) (call : Call) : call.Grows (st.next call).2.2 := by
  unfold OutcomeStream.next
  split
  · exact .refl call
  · split
    · exact grows_take _ _ call
    · exact call.grows_abortRound _ _ _
    · exact st.grows_finish call

end OutcomeStream

/-! ## Merges -/

namespace Remote

/-- The call after each of the rounds that are added to it, or after the error that ends it. -/
def partlyMerged (call : Call) : List SessionRound → List Call
  | [] => []
  | r :: rest =>
    match call.push ⟨call.rounds.length, r.toInputs call.inputs.inputs, r.toOutputs⟩ with
    | .ok call => call :: partlyMerged call rest
    | .error e => [call.fail e.message]

/-- Rounds that are added one after the other make the call grow. -/
theorem unfolds_partlyMerged (call : Call) (rs : List SessionRound) :
    Unfolds call (partlyMerged call rs) (mergeRounds call rs).2 := by
  induction rs generalizing call with
  | nil => exact .refl call
  | cons r rs ih =>
    rw [partlyMerged, mergeRounds]
    cases hpush : call.push
        ⟨call.rounds.length, r.toInputs call.inputs.inputs, r.toOutputs⟩ with
    | ok call' => exact .cons (Call.grows_of_push hpush) (ih call')
    | error e => exact .single (call.grows_fail e.message)

end Remote

/-! ## A sequence of operations -/

/-- What may be done with a call. -/
inductive Operation : Type 1
  | push (r : Round)
  | merge (a : Remote.Answer)
  | run {σ : Type} (c : Cycle σ) (mode : Mode) (s : σ)
  /-- The next item of a stream is taken. -/
  | next (st : OutcomeStream)

namespace Operation

/-- The call after an operation. A round that is refused leaves it as it is. -/
def perform : Operation → Call → Call
  | push r, call =>
    match call.push r with
    | .ok call => call
    | .error _ => call
  | merge a, call => (a.merge call).2
  | run c mode s, call => (c.run mode call s).call
  | next st, call => (st.next call).2.2

theorem perform_push_of_ok {r : Round} {call call' : Call} (h : call.push r = .ok call') :
    (push r).perform call = call' := by
  show (match call.push r with | .ok call => call | .error _ => call) = call'
  rw [h]

theorem perform_push_of_error {r : Round} {call : Call} {e : Error}
    (h : call.push r = .error e) : (push r).perform call = call := by
  show (match call.push r with | .ok call => call | .error _ => call) = call
  rw [h]

/-- The call at the moments of an operation: after each round that is added, and in the end. -/
def moments : Operation → Call → List Call
  | merge a, call =>
    if call.maxRounds - call.rounds.length < a.rounds.length then [(a.merge call).2]
    else Remote.partlyMerged call a.rounds
  | run c mode s, call => c.passed mode 0 call call.inputs.inputs s
  | op, call => [op.perform call]

/-- The call at all moments of a sequence of operations. -/
def allMoments (call : Call) : List Operation → List Call
  | [] => [call]
  | op :: ops => call :: (op.moments call ++ allMoments (op.perform call) ops)

theorem unfolds_moments (op : Operation) (call : Call) :
    Unfolds call (op.moments call) (op.perform call) := by
  cases op with
  | push r =>
    refine .single ?_
    cases hpush : call.push r with
    | ok call' =>
      rw [perform_push_of_ok hpush]
      exact Call.grows_of_push hpush
    | error e =>
      rw [perform_push_of_error hpush]
      exact .refl call
  | merge a =>
    show Unfolds call (if call.maxRounds - call.rounds.length < a.rounds.length
      then [(a.merge call).2] else Remote.partlyMerged call a.rounds) (a.merge call).2
    by_cases hroom : call.maxRounds - call.rounds.length < a.rounds.length
    · rw [if_pos hroom]
      exact .single (Remote.grows_merge a call)
    · rw [if_neg hroom, Remote.merge_of_room (Nat.not_lt.1 hroom)]
      exact Remote.unfolds_partlyMerged call a.rounds
  | run c mode s => exact c.unfolds_passed mode 0 call call.inputs.inputs s
  | next st => exact .single (st.grows_next call)

theorem unfolds_allMoments (call : Call) (ops : List Operation) :
    ∃ last, Unfolds call (allMoments call ops) last := by
  induction ops generalizing call with
  | nil => exact ⟨call, .single (.refl call)⟩
  | cons op ops ih =>
    obtain ⟨last, hlast⟩ := ih (op.perform call)
    exact ⟨last, .cons (.refl call) ((op.unfolds_moments call).trans hlast)⟩

end Operation

/-! ## The life of a call -/

/-- At every moment of its life a call holds rounds that are numbered from 0 and within its budget,
and none of them is ever changed, dropped or moved later on. A round that is refused leaves the call
as it is. Of an answer all rounds are added, or none and then the call ends with an error. -/
theorem moments_law (id : String) (inputs : CallInputs) (ops : List Operation) :
    let moments := Operation.allMoments (Call.start id inputs) ops
    moments.Pairwise (fun earlier later => earlier.rounds <+: later.rounds) ∧
      ∀ call ∈ moments,
        call.rounds.map (·.index) = List.range call.rounds.length ∧
        call.rounds.length ≤ inputs.inputs.retries + 1 ∧
        (∀ r : Round,
          (r.index = call.rounds.length ∧ call.rounds.length ≤ inputs.inputs.retries ∧
            ((Operation.push r).perform call).rounds = call.rounds ++ [r]) ∨
          ((r.index ≠ call.rounds.length ∨ inputs.inputs.retries < call.rounds.length) ∧
            (∃ message, call.push r = .error (.invariant message)) ∧
            (Operation.push r).perform call = call)) ∧
        ∀ a : Remote.Answer,
          (call.rounds.length + a.rounds.length ≤ inputs.inputs.retries + 1 ∧
            (∃ outcome, (a.merge call).1 = .ok outcome) ∧
            (a.merge call).2.rounds = call.rounds ++ Remote.nextRounds call a.rounds) ∨
          (inputs.inputs.retries + 1 < call.rounds.length + a.rounds.length ∧
            ∃ message, (a.merge call).1 = .error (.invariant message) ∧
              (a.merge call).2.rounds = call.rounds ∧
              (a.merge call).2.exception = some (Error.invariant message).message) := by
  intro moments
  obtain ⟨last, hunfolds⟩ := Operation.unfolds_allMoments (Call.start id inputs) ops
  refine ⟨hunfolds.pairwise.imp fun h => h.kept, fun call hcall => ?_⟩
  obtain ⟨hgrows, -⟩ := hunfolds.between call hcall
  have hregular : call.Regular := hgrows.regular (Call.regular_start id inputs)
  have hretries : call.retries = inputs.inputs.retries := by
    unfold Call.retries
    rw [hgrows.inputs_eq]
    rfl
  refine ⟨hregular.index_eq, hretries ▸ hregular.length_le, fun r => ?_, fun a => ?_⟩
  · rw [← hretries]
    obtain ⟨hindex, hroom, hpush⟩ | ⟨hrefused, message, hpush⟩ := call.push_cases r
    · refine .inl ⟨hindex, hroom, ?_⟩
      rw [Operation.perform_push_of_ok hpush]
    · exact .inr ⟨hrefused, ⟨message, hpush⟩, Operation.perform_push_of_error hpush⟩
  · rw [← hretries]
    obtain ⟨hroom, hmerge⟩ | ⟨hfull, message, hmerge⟩ :=
      Remote.merge_cases a call hregular.length_le
    · rw [hmerge]
      exact .inl ⟨hroom, ⟨_, rfl⟩, rfl⟩
    · rw [hmerge]
      exact .inr ⟨hfull, message, rfl, rfl, rfl⟩

/-- A call that an answer has given a round, run a second time, and offered two more answers. -/
theorem moments_law_of_second_run :
    let round : Remote.SessionRound := ⟨none, none, some "yes", none, none, none⟩
    let answer (rounds : List Remote.SessionRound) : Remote.Answer :=
      ⟨none, none, none, some [⟨some rounds⟩]⟩
    let inputs : CallInputs := ⟨{ Inputs.empty with output := some "no", retries := 1 }, [], []⟩
    let c : Cycle Unit := ⟨⟨⟨.string, .null, none⟩, ⟨[]⟩⟩, none, ⟨none, none⟩, []⟩
    let used := ((answer [round]).merge (.start "c" inputs)).2
    let call := (c.run .blocking used ()).call
    call ∈ Operation.allMoments (.start "c" inputs)
        [.merge (answer [round]), .run c .blocking ()] ∧
      call.rounds = used.rounds ∧
      ((answer [round]).merge call).2.rounds.length = 2 ∧
      ((answer [round, round]).merge call).2.rounds = used.rounds := by
  intro round answer inputs c used call
  have hmem : call ∈ Operation.allMoments (.start "c" inputs)
      [.merge (answer [round]), .run c .blocking ()] := by
    refine List.mem_cons_of_mem _ (List.mem_append_right _ ?_)
    exact List.mem_cons_of_mem _ (List.mem_append_right _ (List.mem_singleton_self _))
  have hused : used.rounds = [⟨0, round.toInputs inputs.inputs, round.toOutputs⟩] := rfl
  have hne : used.rounds ≠ [] := by
    rw [hused]
    exact List.cons_ne_nil _ _
  obtain ⟨-, -, hsame⟩ := c.run_of_rounds_ne_nil .blocking () hne
  have hrounds : call.rounds = used.rounds := congrArg Call.rounds hsame
  obtain ⟨-, hlaw⟩ := moments_law "c" inputs [.merge (answer [round]), .run c .blocking ()]
  obtain ⟨-, -, -, hmerge⟩ := hlaw call hmem
  rw [hrounds, hused] at hmerge
  refine ⟨hmem, hrounds, ?_, ?_⟩
  · obtain ⟨-, -, hadded⟩ | ⟨hfull, -⟩ := hmerge (answer [round])
    · rw [hadded]
      rfl
    · exact absurd hfull (by decide)
  · obtain ⟨hroom, -⟩ | ⟨-, -, -, hkept, -⟩ := hmerge (answer [round, round])
    · exact absurd hroom (by decide)
    · rw [hkept, hused]

end Guardrail
