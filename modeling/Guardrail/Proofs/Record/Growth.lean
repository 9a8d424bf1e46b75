import Guardrail.Proofs.Cycle.Rounds
import Guardrail.Remote.Delegation

/-!
# How the record of a call grows

All that writes rounds to a call adds them one by one at its end. A round that does not fit in is
refused and changes nothing. So the record of a call only ever grows, and its rounds stay numbered
from 0 and within the budget of the call. The rounds that a remote service reports are added all or
none, since there is room for all of them before the first one is added.

Results:
* `push_cases`: a round is added at the end, or refused with a violated invariant.
* `grows_of_push`, `grows_abort`, `grows_abortRound`: what writes to a call makes it grow.
* `mergeRounds_of_room`: reported rounds for which there is room are all added.
* `merge_cases`: an answer is merged as a whole or not at all.
-/

namespace Guardrail

namespace Call

variable {c c' c'' : Call} {r : Round}

/-- The rounds are numbered from 0 without gaps, and they are within the budget. -/
structure Regular (c : Call) : Prop where
  index_eq : c.rounds.map (·.index) = List.range c.rounds.length
  length_le : c.rounds.length ≤ c.retries + 1

/-- What a call may have become: the same call with more rounds behind those that it had. -/
structure Grows (c c' : Call) : Prop where
  inputs_eq : c'.inputs = c.inputs
  kept : c.rounds <+: c'.rounds
  regular : c.Regular → c'.Regular

theorem regular_start (id : String) (inputs : CallInputs) : (start id inputs).Regular :=
  ⟨rfl, Nat.zero_le _⟩

theorem Grows.refl (c : Call) : c.Grows c := ⟨rfl, List.prefix_refl _, fun hc => hc⟩

theorem Grows.trans (h : c.Grows c') (h' : c'.Grows c'') : c.Grows c'' where
  inputs_eq := h'.inputs_eq.trans h.inputs_eq
  kept := h.kept.trans h'.kept
  regular hc := h'.regular (h.regular hc)

/-- A round that is on record stays where it is. -/
theorem Grows.getElem?_rounds {i : Nat} (h : c.Grows c') (hr : c.rounds[i]? = some r) :
    c'.rounds[i]? = some r := by
  obtain ⟨hlt, hget⟩ := List.getElem?_eq_some_iff.1 hr
  rw [List.prefix_iff_getElem?.1 h.kept i hlt, hget]

/-! ## Writing to a call -/

/-- A round that is the next one and within the budget is added. Any other is refused, by an error
that is no failure of the call but a violated invariant. -/
theorem push_cases (c : Call) (r : Round) :
    (r.index = c.rounds.length ∧ c.rounds.length ≤ c.retries ∧
        c.push r = .ok { c with rounds := c.rounds ++ [r] }) ∨
      ((r.index ≠ c.rounds.length ∨ c.retries < c.rounds.length) ∧
        ∃ message, c.push r = .error (.invariant message)) := by
  unfold push maxRounds
  by_cases hfull : c.retries + 1 ≤ c.rounds.length
  · rw [if_pos hfull]
    exact .inr ⟨.inr hfull, _, rfl⟩
  · rw [if_neg hfull]
    by_cases hindex : r.index = c.rounds.length
    · rw [if_neg (not_not.2 hindex)]
      exact .inl ⟨hindex, by omega, rfl⟩
    · rw [if_pos hindex]
      exact .inr ⟨.inl hindex, _, rfl⟩

/-- A round that is not the next one is refused. -/
theorem push_of_ne (h : r.index ≠ c.rounds.length) :
    ∃ message, c.push r = .error (.invariant message) := by
  obtain ⟨hindex, -⟩ | ⟨-, hrefused⟩ := c.push_cases r
  · exact absurd hindex h
  · exact hrefused

theorem grows_of_push (h : c.push r = .ok c') : c.Grows c' := by
  obtain ⟨hroom, hindex, rfl⟩ := push_eq_ok h
  refine ⟨rfl, List.prefix_append _ _, fun hc => ⟨?_, ?_⟩⟩
  · show (c.rounds ++ [r]).map (·.index) = List.range (c.rounds ++ [r]).length
    rw [List.map_append, hc.index_eq, List.length_append, List.length_singleton, List.range_succ,
      List.map_singleton, hindex]
  · show (c.rounds ++ [r]).length ≤ c.retries + 1
    rw [List.length_append, List.length_singleton]
    exact hroom

theorem grows_fail (c : Call) (message : String) : c.Grows (c.fail message) :=
  ⟨rfl, List.prefix_refl _, fun hc => ⟨hc.index_eq, hc.length_le⟩⟩

theorem grows_abort (c : Call) (r : Round) (e : Error) : c.Grows (c.abort r e).2 := by
  unfold abort
  cases hpush : c.push r with
  | error misfit => exact .refl c
  | ok c' => exact (grows_of_push hpush).trans (grows_fail c' e.message)

theorem grows_abortRound (c : Call) (index : Nat) (inputs : Inputs) (e : Error) :
    c.Grows (c.abortRound index inputs e).2 := by
  unfold abortRound
  split
  · exact .refl c
  · exact grows_abort c _ e

end Call

/-! ## Merging -/

namespace Remote

variable {call : Call} {rs : List SessionRound} {a : Answer}

/-- The rounds of a session as the next rounds of a call. -/
def nextRounds (call : Call) (rs : List SessionRound) : List Round :=
  rs.mapIdx fun i r => ⟨call.rounds.length + i, r.toInputs call.inputs.inputs, r.toOutputs⟩

theorem nextRounds_cons (call : Call) (r : SessionRound) (rs : List SessionRound) (added : Round) :
    nextRounds call (r :: rs) =
      ⟨call.rounds.length, r.toInputs call.inputs.inputs, r.toOutputs⟩ ::
        nextRounds { call with rounds := call.rounds ++ [added] } rs := by
  unfold nextRounds
  rw [List.mapIdx_cons]
  simp only [Nat.add_zero, List.length_append, List.length_singleton, Nat.add_right_comm _ 1,
    Nat.add_assoc]

/-- Rounds for which there is room are all added. -/
theorem mergeRounds_of_room (h : call.rounds.length + rs.length ≤ call.retries + 1) :
    mergeRounds call rs = (.ok (), { call with rounds := call.rounds ++ nextRounds call rs }) := by
  induction rs generalizing call with
  | nil =>
    show (Except.ok (), call) = (.ok (), { call with rounds := call.rounds ++ [] })
    rw [List.append_nil]
  | cons r rs ih =>
    rw [List.length_cons] at h
    let added : Round := ⟨call.rounds.length, r.toInputs call.inputs.inputs, r.toOutputs⟩
    have hpush : call.push added = .ok (Cycle.after call _ _ _) :=
      Cycle.push_of_room rfl (by omega) r.toOutputs
    have hroom : (Cycle.after call added.inputs added.index added.outputs).rounds.length +
        rs.length ≤ call.retries + 1 := by
      rw [Cycle.length_rounds_after]
      omega
    have hrest := ih hroom
    rw [mergeRounds, hpush]
    dsimp only
    rw [hrest, nextRounds_cons call r rs]
    simp only [Cycle.after, List.append_assoc, List.singleton_append]
    rfl

theorem grows_mergeRounds (call : Call) (rs : List SessionRound) :
    call.Grows (mergeRounds call rs).2 := by
  induction rs generalizing call with
  | nil => exact .refl call
  | cons r rs ih =>
    rw [mergeRounds]
    split
    · next call' hpush => exact (Call.grows_of_push hpush).trans (ih call')
    · next e hpush => exact call.grows_fail e.message

/-- The rounds of an answer are all added, in their order, or none of them is, because they are more
than the budget allows. Then the call ends with an error. -/
theorem merge_cases (a : Answer) (call : Call) (hcall : call.rounds.length ≤ call.retries + 1) :
    (call.rounds.length + a.rounds.length ≤ call.retries + 1 ∧
        a.merge call =
          (.ok (a.outcome { call with rounds := call.rounds ++ nextRounds call a.rounds }),
            { call with rounds := call.rounds ++ nextRounds call a.rounds })) ∨
      (call.retries + 1 < call.rounds.length + a.rounds.length ∧
        ∃ message, a.merge call =
          (.error (.invariant message), call.fail (Error.invariant message).message)) := by
  have hmax : call.maxRounds = call.retries + 1 := rfl
  unfold Answer.merge
  by_cases hroom : call.maxRounds - call.rounds.length < a.rounds.length
  · rw [if_pos hroom]
    exact .inr ⟨by omega, _, rfl⟩
  · have hfits : call.rounds.length + a.rounds.length ≤ call.retries + 1 := by omega
    rw [if_neg hroom, mergeRounds_of_room hfits]
    exact .inl ⟨hfits, rfl⟩

theorem merge_of_room (h : a.rounds.length ≤ call.maxRounds - call.rounds.length) :
    (a.merge call).2 = (mergeRounds call a.rounds).2 := by
  unfold Answer.merge
  rw [if_neg (Nat.not_lt.2 h)]
  split <;> (next hmerged => rw [hmerged])

theorem grows_merge (a : Answer) (call : Call) : call.Grows (a.merge call).2 := by
  by_cases hroom : a.rounds.length ≤ call.maxRounds - call.rounds.length
  · rw [merge_of_room hroom]
    exact grows_mergeRounds call a.rounds
  · unfold Answer.merge
    rw [if_pos (Nat.lt_of_not_le hroom)]
    exact call.grows_fail _

end Remote
end Guardrail
