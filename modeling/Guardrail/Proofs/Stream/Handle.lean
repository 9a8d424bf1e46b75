import Guardrail.Guard.Session
import Guardrail.Proofs.Stream.Polls

/-!
# Streams in a session

A session reads a stream through the handle that a caller holds, and keeps the record of its call
among the records of all calls. What the handle gives is what the stream gives on that record.

Results:
* `next_ofStream`, `drain_ofStream`: reading through a handle.
* `resolve_ofStream`: the outcome of a handle is the last one of its stream.
* `drain_unopened`, `resolve_unopened`: a stream that opens when it is read is read as the open one.
-/

namespace Guardrail

variable {σ : Type}

/-- The handle of an open stream. -/
def Handle.ofStream (mode : Mode) (n : Nat) (st : OutcomeStream) : Handle σ :=
  match mode with
  | .blocking => .stream n st
  | .async => .asyncStream n (.opened st)

namespace Session

variable {session : Session σ} {n : Nat} {call call' : Call} {st : OutcomeStream}

/-! ## Records -/

/-- The session with another record for a call. -/
def withCall (session : Session σ) (n : Nat) (call : Call) : Session σ :=
  { session with calls := session.calls.set n call }

theorem call?_withCall (h : session.call? n = some call) (call' : Call) :
    (session.withCall n call').call? n = some call' := by
  obtain ⟨hlt, -⟩ := List.getElem?_eq_some_iff.1 h
  exact List.getElem?_set_self hlt

theorem withCall_self (h : session.call? n = some call) : session.withCall n call = session := by
  obtain ⟨hlt, rfl⟩ := List.getElem?_eq_some_iff.1 h
  unfold withCall
  rw [List.set_getElem_self]

theorem withCall_withCall (call call' : Call) :
    (session.withCall n call).withCall n call' = session.withCall n call' := by
  unfold withCall
  rw [List.set_set]

/-! ## Reading -/

theorem next_ofStream (mode : Mode) (st : OutcomeStream) (h : session.call? n = some call) :
    session.next (.ofStream mode n st) =
      ((st.next call).1, .ofStream mode n (st.next call).2.1,
        session.withCall n (st.next call).2.2) := by
  have hitem : session.nextItem n st =
      ((st.next call).1, (st.next call).2.1, session.withCall n (st.next call).2.2) := by
    unfold nextItem
    rw [h]
    rfl
  unfold next Handle.ofStream
  cases mode with
  | blocking =>
    dsimp only
    rw [hitem]
  | async =>
    unfold nextLazy
    dsimp only
    rw [hitem]

theorem items_ofStream (mode : Mode) (limit : Nat) (h : session.call? n = some call) :
    session.items limit (.ofStream mode n st) =
      ((st.items limit call).1, .ofStream mode n (st.items limit call).2.1,
        session.withCall n (st.items limit call).2.2) := by
  induction limit generalizing session st call with
  | zero =>
    show ([], _, session) = ([], _, session.withCall n call)
    rw [withCall_self h]
    rfl
  | succ limit ih =>
    rw [items, OutcomeStream.items, next_ofStream mode st h]
    rcases hnext : st.next call with ⟨item, st', call'⟩
    cases item with
    | none => rfl
    | some item =>
      dsimp only
      rw [ih (call?_withCall h call'), withCall_withCall]

/-- All items of a handle are those of its stream, though they are read with a limit that is set
after the first of them. -/
theorem drain_ofStream (mode : Mode) (st : OutcomeStream) (h : session.call? n = some call) :
    session.drain (.ofStream mode n st) =
      ((st.drain call).1, .ofStream mode n (st.drain call).2.1,
        session.withCall n (st.drain call).2.2) := by
  have hbound : ∀ st : OutcomeStream, bound (.ofStream mode n st : Handle σ) = st.bound := by
    intro st
    cases mode <;> rfl
  have hitems : session.drain (.ofStream mode n st) =
      session.items ((st.next call).2.1.bound + 1) (.ofStream mode n st) := by
    unfold drain
    rw [items, next_ofStream mode st h]
    cases (st.next call).1 with
    | none => rfl
    | some item =>
      dsimp only
      rw [hbound]
  rw [hitems, items_ofStream mode _ h,
    OutcomeStream.items_eq_drain (st.length_lt_bound_next call)]

/-- The outcome of a handle is the last one of its stream, and the record of the call is as the
stream leaves it. -/
theorem resolve_ofStream (mode : Mode) (st : OutcomeStream) (h : session.call? n = some call) :
    session.resolve (.ofStream mode n st) =
      (lastOutcome (st.drain call).1, session.withCall n (st.drain call).2.2) := by
  have hresolve : session.resolve (.ofStream mode n st) =
      (lastOutcome (session.drain (.ofStream mode n st)).1,
        (session.drain (.ofStream mode n st)).2.2) := by
    cases mode <;> rfl
  rw [hresolve, drain_ofStream mode st h]

/-! ## Streams that open when they are read -/

section Unopened

variable {session' : Session σ} {c : Cycle σ} {e : Error}

/-- A stream that cannot be opened gives the error and nothing else. -/
theorem drain_unopened_of_error (hopen : session.openStream n c .async = (.error e, session')) :
    session.drain (.asyncStream n (.unopened c)) =
      ([.error e], .asyncStream n .closed, session') := by
  have hnext : session.next (.asyncStream n (.unopened c)) =
      (some (.error e), .asyncStream n .closed, session') := by
    unfold next nextLazy
    dsimp only
    rw [hopen]
  unfold drain
  rw [hnext]
  rfl

/-- A stream that opens when it is read is read as the open one. -/
theorem drain_unopened (hopen : session.openStream n c .async = (.ok st, session')) :
    session.drain (.asyncStream n (.unopened c)) = session'.drain (.ofStream .async n st) := by
  have hnext : session.next (.asyncStream n (.unopened c)) =
      session'.next (.ofStream .async n st) := by
    unfold next nextLazy
    dsimp only
    rw [hopen]
    rfl
  unfold drain
  rw [hnext]

theorem resolve_unopened {state : σ} (h : session.call? n = some call)
    (hopen : c.stream .async call session.state = (.ok st, call', state)) :
    session.resolve (.asyncStream n (.unopened c)) =
      Session.resolve { session.withCall n call' with state } (.ofStream .async n st) := by
  have hstream : session.openStream n c .async =
      (.ok st, { session.withCall n call' with state }) := by
    unfold openStream onCall
    rw [h]
    dsimp only
    rw [hopen]
    rfl
  show (lastOutcome (session.drain _).1, (session.drain _).2.2) =
    (lastOutcome (Session.drain _ (.ofStream .async n st)).1, (Session.drain _ _).2.2)
  rw [drain_unopened hstream]

end Unopened

end Session
end Guardrail
