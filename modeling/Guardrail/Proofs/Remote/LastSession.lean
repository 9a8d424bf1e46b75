import Guardrail.Remote.Delegation

/-!
# Which session of an answer is merged

A remote service reports the sessions of a call, the oldest first, and the last one belongs to the
call that is being made. Its rounds are merged if it reports any list of rounds, be it empty. Then
nothing of an older session shows anywhere. A last session that reports no list is passed over: the
answer is merged as if it had ended before it, and rounds of an older session go on record as rounds
of the call.

Results:
* `rounds_endingWith`: the rounds of the last session stand before those of all older ones.
* `merge_congr`: what a merge reads of an answer.
* `merge_endingWith_eq_iff`: two answers that differ in older sessions alone are merged alike
  exactly if the last session reports a list of rounds, or if they would be merged alike without
  it.
-/

namespace Guardrail.Remote

/-! ## Sessions -/

/-- The answer with some sessions and a last one in place of its own. -/
def Answer.endingWith (a : Answer) (older : List SessionLog) (last : SessionLog) : Answer :=
  { a with sessions := some (older ++ [last]) }

/-- The answer with some sessions in place of its own. -/
def Answer.withSessions (a : Answer) (sessions : List SessionLog) : Answer :=
  { a with sessions := some sessions }

variable {a b : Answer} {call : Call} {older older' : List SessionLog} {last : SessionLog}

/-- The last session stands before the older ones, if it reports a list of rounds. -/
theorem rounds_endingWith (a : Answer) (older : List SessionLog) (last : SessionLog) :
    (a.endingWith older last).rounds = last.rounds.getD (a.withSessions older).rounds := by
  show ((older ++ [last]).reverse.findSome? (·.rounds)).getD [] =
    last.rounds.getD ((older.reverse.findSome? (·.rounds)).getD [])
  rw [List.reverse_append, List.reverse_singleton, List.singleton_append, List.findSome?_cons]
  cases last.rounds <;> rfl

/-! ## Merging -/

/-- A merge reads the rounds of an answer and what it reports about the result. -/
theorem merge_congr (hrounds : a.rounds = b.rounds) (hpassed : a.passed = b.passed)
    (hvalidated : a.validated = b.validated) (hraw : a.raw = b.raw) :
    a.merge call = b.merge call := by
  have houtcome : ∀ call, a.outcome call = b.outcome call := fun call => by
    unfold Answer.outcome
    rw [hpassed, hvalidated, hraw]
  unfold Answer.merge
  simp only [hrounds, houtcome]

/-- A last session without a list of rounds is passed over. -/
theorem merge_endingWith_of_none (h : last.rounds = none) (a : Answer) (older : List SessionLog)
    (call : Call) :
    (a.endingWith older last).merge call = (a.withSessions older).merge call := by
  refine merge_congr ?_ rfl rfl rfl
  rw [rounds_endingWith, h]
  rfl

/-- More rounds than a call may ever have are refused. -/
theorem merge_fst_of_lt (h : call.maxRounds < a.rounds.length) :
    ∃ message, (a.merge call).1 = .error (.invariant message) := by
  unfold Answer.merge
  rw [if_pos (by omega)]
  exact ⟨_, rfl⟩

/-- An answer without rounds is never refused. -/
theorem merge_fst_of_rounds_eq_nil (h : a.rounds = []) :
    ∃ outcome, (a.merge call).1 = .ok outcome := by
  unfold Answer.merge
  rw [h]
  exact ⟨_, rfl⟩

/-- Whatever the call, some sessions are not merged alike: no session at all, and one with more
rounds than the call may have. -/
theorem exists_merge_ne (a : Answer) (call : Call) :
    ∃ older older', (a.withSessions older).merge call ≠ (a.withSessions older').merge call := by
  let many : List SessionRound := List.replicate (call.maxRounds + 1) default
  have hmany : call.maxRounds < (a.withSessions [⟨some many⟩]).rounds.length := by
    show call.maxRounds < many.length
    rw [List.length_replicate]
    exact Nat.lt_succ_self _
  obtain ⟨message, hrefused⟩ := merge_fst_of_lt hmany
  have hnone : (a.withSessions []).rounds = [] := rfl
  obtain ⟨outcome, hmerged⟩ : ∃ outcome, ((a.withSessions []).merge call).1 = .ok outcome :=
    merge_fst_of_rounds_eq_nil hnone
  refine ⟨[], [⟨some many⟩], fun heq => ?_⟩
  rw [heq, hrefused] at hmerged
  cases hmerged

/-- Two answers that agree in the last session, and in all else but the older ones, leave a call the
same and have the same outcome exactly if the last session reports a list of rounds, or if the
answers would be merged alike without it. So older sessions have no influence on a call exactly if
the last one reports a list of rounds. -/
theorem merge_endingWith_eq_iff (a : Answer) (last : SessionLog) (call : Call) :
    (∀ older older', (a.endingWith older last).merge call = (a.endingWith older' last).merge call ↔
      last.rounds.isSome ∨
        (a.withSessions older).merge call = (a.withSessions older').merge call) ∧
    ((∀ older older',
        (a.endingWith older last).merge call = (a.endingWith older' last).merge call) ↔
      last.rounds.isSome) := by
  cases hlast : last.rounds with
  | some rounds =>
    have heq : ∀ older older',
        (a.endingWith older last).merge call = (a.endingWith older' last).merge call := by
      intro older older'
      refine merge_congr ?_ rfl rfl rfl
      rw [rounds_endingWith, rounds_endingWith, hlast]
      rfl
    exact ⟨fun older older' => iff_of_true (heq older older') (.inl rfl), iff_of_true heq rfl⟩
  | none =>
    have hpassed := fun older => merge_endingWith_of_none hlast a older call
    constructor
    · intro older older'
      rw [hpassed, hpassed]
      simp
    · obtain ⟨older, older', hne⟩ := exists_merge_ne a call
      refine iff_of_false (fun heq => hne ?_) Bool.false_ne_true
      rw [← hpassed older, ← hpassed older', heq]

/-- A last session with an empty list of rounds hides a round of an older one. -/
theorem merge_endingWith_eq_iff_of_empty_list :
    let a : Answer := ⟨some true, some (.str "fine"), some "fine", none⟩
    let stale : SessionRound := ⟨none, none, some "stale", none, none, none⟩
    let call := Call.start "c" ⟨{ Inputs.empty with retries := 1 }, [], []⟩
    (a.endingWith [⟨some [stale]⟩] ⟨some []⟩).merge call =
      (a.endingWith [] ⟨some []⟩).merge call := by
  intro a stale call
  exact ((merge_endingWith_eq_iff a ⟨some []⟩ call).1 _ _).2 (.inl rfl)

/-- A last session that says nothing lets a round of an older one through: it goes on record as
round 0 of the call. -/
theorem stale_round_merged :
    let a : Answer := ⟨some true, some (.str "fine"), some "fine", none⟩
    let stale : SessionRound := ⟨none, none, some "stale", none, none, none⟩
    let call := Call.start "c" ⟨{ Inputs.empty with retries := 1 }, [], []⟩
    ((a.endingWith [⟨none⟩] ⟨none⟩).merge call).2.rounds = [] ∧
      ((a.endingWith [⟨some [stale]⟩] ⟨none⟩).merge call).2.rounds =
        [⟨0, stale.toInputs call.inputs.inputs, stale.toOutputs⟩] ∧
      (a.endingWith [⟨none⟩] ⟨none⟩).merge call ≠
        (a.endingWith [⟨some [stale]⟩] ⟨none⟩).merge call := by
  intro a stale call
  have hnothing : ((a.endingWith [⟨none⟩] ⟨none⟩).merge call).2.rounds = [] := rfl
  have hstale : ((a.endingWith [⟨some [stale]⟩] ⟨none⟩).merge call).2.rounds =
      [⟨0, stale.toInputs call.inputs.inputs, stale.toOutputs⟩] := rfl
  refine ⟨hnothing, hstale, fun heq => ?_⟩
  rw [heq, hstale] at hnothing
  cases hnothing

end Guardrail.Remote
