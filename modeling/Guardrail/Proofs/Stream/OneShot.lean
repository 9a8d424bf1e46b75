import Guardrail.Proofs.Cycle.History
import Guardrail.Proofs.Stream.Ending
import Guardrail.Proofs.Stream.Handle

/-!
# Streams and whole answers

If no text raises an error, what a stream leaves behind depends on the whole text only: it records
what a run records for a target that answers with the whole text at once, and its last outcome is
that of the call.

Results:
* `ofCall_streamed`: the outcome of the last chunk is that of the call.
* `lastOutcome_answers`: it is the last outcome of the stream.
* `first_round_of_run`: what a run records of an answer in round 0.
* `drain_law`: streams agree with runs, with one another, and with their own outcomes.
-/

namespace Guardrail

variable {r : Requirements} {metadata : Metadata} {callId text : String} {chunks : List String}
  {outputs : Outputs} {call : Call}

namespace Requirements

/-- No text raises an error, neither that of a chunk nor the whole one, which is the empty text if
there are no chunks. -/
structure Silent (r : Requirements) (metadata : Metadata) (chunks : List String) : Prop where
  unraised : r.Unraised metadata "" chunks
  whole : ∀ e, ¬ r.Raises (.ofText (String.join chunks)) metadata e

/-- What is recorded of a text. -/
def recorded (r : Requirements) (metadata : Metadata) (text : String) : Outputs :=
  (r.evaluate (.ofText text) metadata).outputs

theorem answers_concat (front : List String) (chunk : String) :
    r.answers metadata callId text (front ++ [chunk]) =
      r.answers metadata callId text front ++
        [r.answer metadata callId (text ++ String.join (front ++ [chunk]))] := by
  induction front generalizing text with
  | nil =>
    rw [List.nil_append, String.join_cons, String.join_nil, String.append_empty]
    rfl
  | cons first front ih =>
    rw [List.cons_append, answers, ih, String.join_cons, ← String.append_assoc]
    rfl

end Requirements

/-! ## The last outcome -/

/-- The outcome of a checked text is that of the call in which it is recorded. -/
theorem Outcome.ofCall_streamed {response : Response} {annotated : Json}
    {corrections : List Correction}
    (h : r.evaluate response metadata = .checked outputs annotated corrections) (call : Call) :
    Outcome.ofCall (call.streamed outputs none) =
      OutcomeStream.partialOutcome call.id outputs corrections := by
  have hstatus := Requirements.status_of_checked h
  have hpassed : (some outputs.status == some Status.pass) = corrections.isEmpty := by
    rw [hstatus]
    cases corrections <;> rfl
  show Outcome.mk _ _ _ ((none : Option String).isNone && _) _ _ = _
  rw [Option.isNone_none, Bool.true_and]
  show Outcome.mk _ _ _ (some outputs.status == some Status.pass) _ _ = _
  rw [hpassed]
  rfl

/-- Where all items are outcomes, the last one counts. -/
theorem Session.lastOutcome_concat {items : List Item} (outcome : Outcome)
    (h : ∀ item ∈ items, ∃ outcome, item = .ok outcome) :
    lastOutcome (items ++ [.ok outcome]) = .ok outcome := by
  have hfold : ∀ start : Option Outcome, ∃ last,
      items.foldlM (fun _ item => item.map some) start = .ok last := by
    intro start
    induction items generalizing start with
    | nil => exact ⟨start, rfl⟩
    | cons item items ih =>
      obtain ⟨⟨first, rfl⟩, hmore⟩ := List.forall_mem_cons.1 h
      exact ih hmore (some first)
  obtain ⟨last, hlast⟩ := hfold none
  unfold lastOutcome
  rw [List.foldlM_append, hlast]
  rfl

/-- The last outcome of a stream is that of its call. -/
theorem lastOutcome_answers (hne : chunks ≠ []) (hsilent : r.Silent metadata chunks)
    (call : Call) :
    Session.lastOutcome (r.answers metadata call.id "" chunks) =
      .ok (.ofCall (call.streamed (r.recorded metadata (String.join chunks)) none)) := by
  obtain ⟨front, chunk, rfl⟩ := (List.eq_nil_or_concat' chunks).resolve_left hne
  obtain ⟨outputs, annotated, corrections, heval⟩ :=
    Requirements.checked_of_not_raises hsilent.whole
  have hfront := hsilent.unraised.of_prefix (List.prefix_append front [chunk])
  rw [Requirements.answers_concat, String.empty_append, Requirements.answer_of_checked heval,
    Requirements.recorded, heval]
  show _ = Except.ok (Outcome.ofCall (call.streamed outputs none))
  rw [Outcome.ofCall_streamed heval]
  exact Session.lastOutcome_concat _ (Requirements.ok_of_mem_answers hfront)

/-! ## The first round of a run -/

namespace Cycle

variable {σ : Type} {c : Cycle σ} {mode : Mode} {inputs : Inputs} {index : Nat} {s s' : σ}
  {response : Response}

/-- What a run of a fresh call records of an answer in round 0. -/
theorem first_round_of_run (hrounds : call.rounds = [])
    (hresponse : c.response mode call.inputs.args call.inputs.inputs 0 s = (.ok response, s'))
    {annotated : Json} {corrections : List Correction}
    (heval : c.requirements.evaluate response call.inputs.inputs.metadata =
      .checked outputs annotated corrections) :
    (c.run mode call s).call.rounds[0]? = some ⟨0, call.inputs.inputs, outputs⟩ := by
  have hround : c.round mode call call.inputs.inputs 0 s =
      (c.record call call.inputs.inputs 0 response, s') := by
    unfold Cycle.round
    rw [hresponse]
  have hpush : call.push ⟨0, call.inputs.inputs, outputs⟩ = .ok (after call _ 0 outputs) :=
    push_of_room (by rw [hrounds]; rfl) (Nat.zero_le _) outputs
  have hfirst : (after call call.inputs.inputs 0 outputs).rounds[0]? =
      some ⟨0, call.inputs.inputs, outputs⟩ := by
    unfold after
    rw [hrounds]
    rfl
  unfold Cycle.record at hround
  simp only [heval, hpush] at hround
  split at hround
  · unfold Cycle.run
    rw [rounds_of_done hround]
    exact hfirst
  · unfold Cycle.run
    rw [rounds_of_correct hround]
    exact (c.grows_rounds mode 1 _ _ s').getElem?_rounds hfirst

end Cycle

/-! ## Streams that raise no error -/

namespace OutcomeStream

/-- All items of a stream that raises no error. -/
theorem drain_of_silent (hrounds : call.rounds = []) (hexception : call.exception = none)
    (hsilent : r.Silent call.inputs.inputs.metadata chunks) :
    ∃ st', (start r call.inputs.inputs (chunks.map .ok)).drain call =
      (r.answers call.inputs.inputs.metadata call.id "" chunks, st',
        call.streamed (r.recorded call.inputs.inputs.metadata (String.join chunks)) none) := by
  refine items_start hrounds hexception hsilent.unraised (.drained hsilent.whole) ?_
  simp [bound, start]

end OutcomeStream

theorem Session.resolve_of_silent {σ : Type} (session : Session σ) {n : Nat}
    (hne : chunks ≠ []) (hrounds : call.rounds = []) (hexception : call.exception = none)
    (hsilent : r.Silent call.inputs.inputs.metadata chunks) (mode : Mode)
    (hcall : session.call? n = some call) :
    let drained := call.streamed
      (r.recorded call.inputs.inputs.metadata (String.join chunks)) none
    session.resolve (.ofStream mode n (.start r call.inputs.inputs (chunks.map .ok))) =
      (.ok (.ofCall drained), session.withCall n drained) := by
  obtain ⟨st', hdrain⟩ := OutcomeStream.drain_of_silent hrounds hexception hsilent
  intro drained
  rw [resolve_ofStream mode _ hcall, hdrain, lastOutcome_answers hne hsilent]

/-- A stream of a fresh call on which no text raises an error, read to its end, leaves what depends
on the whole text only. The one round on record is the one that a run records in round 0 if it has
the whole text for its response; any other way to cut the text into chunks leaves the same record,
status and outcome; and if there is a chunk, the last outcome of the stream, which a handle of it is
resolved to, is that of the call. -/
theorem drain_law {σ : Type} {c : Cycle σ} {mode : Mode} {call : Call} {s s' : σ}
    {chunks : List String} {st : OutcomeStream} (hrounds : call.rounds = [])
    (hexception : call.exception = none) (hopen : c.stream mode call s = (.ok st, call, s'))
    (hsource : st.source = chunks.map .ok)
    (hsilent : c.requirements.Silent call.inputs.inputs.metadata chunks) :
    let text := String.join chunks
    let drained := (st.drain call).2.2
    (∃ round, drained.rounds = [round] ∧ round.index = 0 ∧ drained.exception = none ∧
      ∀ {τ : Type} (c' : Cycle τ) (mode' : Mode) (call' : Call) (t t' : τ),
        c'.requirements = c.requirements → call'.rounds = [] → call'.inputs = call.inputs →
          c'.response mode' call'.inputs.args call'.inputs.inputs 0 t =
            (.ok (.ofText text), t') →
          (c'.run mode' call' t).call.rounds[0]? = some round) ∧
    (∀ {τ : Type} (c' : Cycle τ) (mode' : Mode) (call' : Call) (t t' : τ) (chunks' : List String)
        (st' : OutcomeStream),
      c'.requirements = c.requirements → call'.rounds = [] → call'.exception = none →
        call'.inputs = call.inputs → c'.stream mode' call' t = (.ok st', call', t') →
        st'.source = chunks'.map .ok →
        c.requirements.Silent call.inputs.inputs.metadata chunks' → String.join chunks' = text →
        let drained' := (st'.drain call').2.2
        drained'.rounds = drained.rounds ∧ drained'.status = drained.status ∧
          (call'.id = call.id → Outcome.ofCall drained' = .ofCall drained)) ∧
    (chunks ≠ [] →
      Session.lastOutcome (st.drain call).1 = .ok (.ofCall drained) ∧
      ∀ (session : Session σ) (n : Nat), session.call? n = some call →
        (∀ mode', session.resolve (.ofStream mode' n st) =
          (.ok (.ofCall drained), session.withCall n drained)) ∧
        (mode = .async → session.state = s →
          session.resolve (.asyncStream n (.unopened c)) =
            (.ok (.ofCall drained), { session.withCall n drained with state := s' }))) := by
  obtain ⟨-, source, rfl⟩ := Cycle.stream_eq_ok hopen
  obtain rfl : source = chunks.map .ok := hsource
  obtain ⟨st', hdrain⟩ := OutcomeStream.drain_of_silent hrounds hexception hsilent
  intro text drained
  have hdrained : drained = call.streamed
      (c.requirements.recorded call.inputs.inputs.metadata text) none := by
    show (OutcomeStream.drain _ call).2.2 = _
    rw [hdrain]
  refine ⟨?_, ?_, ?_⟩
  · rw [hdrained]
    refine ⟨_, rfl, rfl, rfl, ?_⟩
    intro τ c' mode' call' t t' hrequirements hfresh hinputs hresponse
    obtain ⟨outputs, annotated, corrections, heval⟩ :=
      Requirements.checked_of_not_raises hsilent.whole
    rw [Cycle.first_round_of_run hfresh hresponse (by rw [hrequirements, hinputs]; exact heval),
      hinputs]
    unfold Requirements.recorded
    rw [heval]
    rfl
  · intro τ c' mode' call' t t' chunks' st₂ hrequirements hrounds' hexception' hinputs hopen'
      hsource' hsilent' htext
    obtain ⟨-, source, rfl⟩ := Cycle.stream_eq_ok hopen'
    obtain rfl : source = chunks'.map .ok := hsource'
    rw [← hrequirements, ← hinputs] at hsilent'
    obtain ⟨st₃, hdrain'⟩ := OutcomeStream.drain_of_silent hrounds' hexception' hsilent'
    rw [hdrain', hdrained, htext, hrequirements]
    unfold Call.streamed
    rw [hinputs]
    refine ⟨rfl, rfl, fun hid => ?_⟩
    rw [hid]
  · intro hne
    rw [hdrain, hdrained]
    refine ⟨lastOutcome_answers hne hsilent call, fun session n hcall => ⟨fun mode' => ?_, ?_⟩⟩
    · exact Session.resolve_of_silent session hne hrounds hexception hsilent mode' hcall
    · rintro rfl rfl
      rw [Session.resolve_unopened hcall hopen, Session.withCall_self hcall]
      exact Session.resolve_of_silent { session with state := s' } hne hrounds
        hexception hsilent .async hcall

/-! ## Yes in two chunks

A text that must be `yes` comes in two chunks. The first one alone has to be corrected. -/

namespace OutcomeStream

/-- The cycle in which the answer must be `yes`, and is. -/
def yesCycle : Cycle (List Target.Reply) where
  requirements := ⟨⟨.string, .null, none⟩, ⟨[([], [⟨.choices [.str "yes"], .reask⟩])]⟩⟩
  target := some (Target.Script.target ⟨"mock", .blocking, none, .ok (.ofText "yes"),
    some (.ok [.ok "y", .ok "es"])⟩)
  templates := ⟨none, none⟩
  kwargs := []

theorem silent_yesCycle : yesCycle.requirements.Silent [] ["y", "es"] := by
  have hsort : yesCycle.requirements.validators.processingOrder =
      yesCycle.requirements.validators.entries := List.mergeSort_singleton _
  have hy : ∃ pass, Pass.run (.str "y") yesCycle.requirements.validators [] = .ok pass := by
    unfold Pass.run
    rw [hsort]
    exact ⟨_, rfl⟩
  have hyes : ∃ pass, Pass.run (.str "yes") yesCycle.requirements.validators [] = .ok pass := by
    unfold Pass.run
    rw [hsort]
    exact ⟨_, rfl⟩
  obtain ⟨pass₁, hy⟩ := hy
  obtain ⟨pass₂, hyes⟩ := hyes
  exact ⟨Requirements.unraised_cons.2 ⟨fun _ => Requirements.not_raises_of_run rfl hy,
    Requirements.unraised_cons.2 ⟨fun _ => Requirements.not_raises_of_run rfl hyes,
      Requirements.unraised_nil⟩⟩, fun _ => Requirements.not_raises_of_run rfl hyes⟩

/-- The stream ends with the outcome of its call, which holds what a run records in round 0. -/
theorem drain_law_of_yes : ∃ st,
    textCall.rounds = [] ∧ textCall.exception = none ∧
      yesCycle.stream .blocking textCall [] = (.ok st, textCall, []) ∧
      st.source = ["y", "es"].map .ok ∧
      yesCycle.requirements.Silent textCall.inputs.inputs.metadata ["y", "es"] ∧
      Session.lastOutcome (st.drain textCall).1 = .ok (.ofCall (st.drain textCall).2.2) ∧
      ∃ round, (st.drain textCall).2.2.rounds = [round] ∧
        (yesCycle.run .blocking textCall []).call.rounds[0]? = some round := by
  obtain ⟨st, hopen, hsource⟩ : ∃ st,
      yesCycle.stream .blocking textCall [] = (.ok st, textCall, []) ∧
        st.source = ["y", "es"].map .ok := ⟨_, rfl, rfl⟩
  have hsilent : yesCycle.requirements.Silent textCall.inputs.inputs.metadata ["y", "es"] :=
    silent_yesCycle
  obtain ⟨⟨round, hround, -, -, hrun⟩, -, hlast⟩ := drain_law rfl rfl hopen hsource hsilent
  refine ⟨st, rfl, rfl, hopen, hsource, hsilent, (hlast (List.cons_ne_nil _ _)).1, round, hround,
    ?_⟩
  exact hrun yesCycle .blocking textCall [] [] rfl rfl rfl rfl

end OutcomeStream
end Guardrail
