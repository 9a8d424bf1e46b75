import Guardrail.Proofs.Cycle.Rounds
import Guardrail.Proofs.Stream.Polls
import Guardrail.Target.Script

/-!
# How a stream ends

A stream ends with a text that raises an error, with a failure of its source, at the end of the
source, or at the end of a source without any chunks, if the empty text raises an error. What ends
it records the only round of the call, and nothing happens after it.

Results:
* `Ending`, `exists_ending`: how a stream ends, and that every source comes to an end.
* `next_of_ending`: the answer that ends a stream.
* `drain_start`: all items of a stream that is read to its end.
* `Polled`, `polls_law`: all answers of a stream, and what each of them leaves.
-/

namespace Guardrail

variable {r : Requirements} {metadata : Metadata} {callId chunk : String} {chunks : List String}
  {rest : List Chunk} {outputs : Outputs} {error : Option Error}

namespace OutcomeStream

/-! ## The end -/

/-- How a stream ends after some chunks: what is left of its source then, what is recorded, and the
error that it ends with, if there is one. -/
inductive Ending (r : Requirements) (metadata : Metadata) (chunks : List String) :
    List Chunk → Outputs → Option Error → Prop
  /-- The text of the next chunk raises an error. -/
  | raised {chunk : String} {rest : List Chunk} {e : ValidationError}
      (h : r.Raises (.ofText (String.join chunks ++ chunk)) metadata e) :
      Ending r metadata chunks (.ok chunk :: rest)
        (r.evaluate (.ofText (String.join chunks ++ chunk)) metadata).outputs
        (some (.validation e))
  /-- The source fails. -/
  | failed {e : GenerationError} {rest : List Chunk} :
      Ending r metadata chunks (.error e :: rest) { Outputs.empty with error := some e.text }
        (some (.generation e))
  /-- The chunks are over, and the text raises no error. -/
  | drained (h : ∀ e, ¬ r.Raises (.ofText (String.join chunks)) metadata e) :
      Ending r metadata chunks [] (r.evaluate (.ofText (String.join chunks)) metadata).outputs none
  /-- There are no chunks at all, and the empty text raises an error. -/
  | raisedByNothing {e : ValidationError} (hnone : chunks = [])
      (h : r.Raises (.ofText (String.join chunks)) metadata e) :
      Ending r metadata chunks [] (r.evaluate (.ofText (String.join chunks)) metadata).outputs
        (some (.validation e))

/-- The round of a stream has the status of an error exactly if the stream ends with one. -/
theorem Ending.status_eq_error_iff (h : Ending r metadata chunks rest outputs error) :
    outputs.status = .error ↔ error.isSome := by
  have hraised : ∀ {text : String} {e : ValidationError}, r.Raises (.ofText text) metadata e →
      (r.evaluate (.ofText text) metadata).outputs.status = .error := by
    intro text e hraises
    obtain ⟨outputs, heval⟩ := Requirements.aborted_iff_raises.2 hraises
    rw [heval]
    exact Requirements.status_of_aborted heval
  cases h with
  | raised h => simp [hraised h]
  | failed => simp [Outputs.status]
  | drained h =>
    obtain ⟨outputs, annotated, corrections, heval⟩ := Requirements.checked_of_not_raises h
    rw [heval]
    show outputs.status = .error ↔ _
    rw [Requirements.status_of_checked heval]
    split <;> simp
  | raisedByNothing hnone h => simp [hraised h]

/-- The front of a source whose texts raise no error is followed by a chunk whose text raises one,
by a failure, or by nothing. -/
theorem exists_front (r : Requirements) (metadata : Metadata) (text : String)
    (source : List Chunk) :
    ∃ chunks rest, source = chunks.map .ok ++ rest ∧ r.Unraised metadata text chunks ∧
      (rest = [] ∨ (∃ e rest', rest = .error e :: rest') ∨
        ∃ chunk rest' e, rest = .ok chunk :: rest' ∧
          r.Raises (.ofText (text ++ String.join chunks ++ chunk)) metadata e) := by
  induction source generalizing text with
  | nil => exact ⟨[], [], rfl, Requirements.unraised_nil, .inl rfl⟩
  | cons item source ih =>
    cases item with
    | error e => exact ⟨[], _, rfl, Requirements.unraised_nil, .inr (.inl ⟨e, source, rfl⟩)⟩
    | ok chunk =>
      by_cases hraises : ∃ e, r.Raises (.ofText (text ++ chunk)) metadata e
      · obtain ⟨e, he⟩ := hraises
        refine ⟨[], _, rfl, Requirements.unraised_nil, .inr (.inr ⟨chunk, source, e, rfl, ?_⟩)⟩
        rw [String.join_nil, String.append_empty]
        exact he
      · obtain ⟨chunks, rest, rfl, hquiet, hrest⟩ := ih (text ++ chunk)
        refine ⟨chunk :: chunks, rest, rfl,
          Requirements.unraised_cons.2 ⟨not_exists.1 hraises, hquiet⟩, ?_⟩
        rw [String.join_cons, ← String.append_assoc]
        exact hrest

/-- Every source comes to an end. -/
theorem exists_ending (r : Requirements) (metadata : Metadata) (source : List Chunk) :
    ∃ chunks rest outputs error, source = chunks.map .ok ++ rest ∧
      r.Unraised metadata "" chunks ∧ Ending r metadata chunks rest outputs error := by
  obtain ⟨chunks, rest, hsource, hquiet, hrest⟩ := exists_front r metadata "" source
  refine ⟨chunks, rest, ?_⟩
  obtain rfl | ⟨e, rest', rfl⟩ | ⟨chunk, rest', e, rfl, hraises⟩ := hrest
  · by_cases hraises : ∃ e, r.Raises (.ofText (String.join chunks)) metadata e
    · obtain ⟨e, he⟩ := hraises
      have hnone : chunks = [] := by
        by_contra hne
        refine hquiet chunks (List.prefix_refl _) hne e ?_
        rwa [String.empty_append]
      exact ⟨_, _, hsource, hquiet, .raisedByNothing hnone he⟩
    · exact ⟨_, _, hsource, hquiet, .drained (not_exists.1 hraises)⟩
  · exact ⟨_, _, hsource, hquiet, .failed⟩
  · rw [String.empty_append] at hraises
    exact ⟨_, _, hsource, hquiet, .raised hraises⟩

end OutcomeStream

/-- The call with its only round, recorded at the end of a stream. -/
def Call.streamed (call : Call) (outputs : Outputs) (error : Option Error) : Call :=
  { call with
    rounds := [⟨0, call.inputs.inputs, outputs⟩]
    exception := error.map Error.message }

namespace OutcomeStream

variable {st st' : OutcomeStream} {call call' : Call}

theorem push_of_fresh (hrounds : call.rounds = []) (hexception : call.exception = none)
    (outputs : Outputs) :
    call.push ⟨0, call.inputs.inputs, outputs⟩ = .ok (call.streamed outputs none) := by
  rw [Cycle.push_of_room (by rw [hrounds]; rfl) (Nat.zero_le _)]
  unfold Cycle.after Call.streamed
  rw [hrounds, hexception]
  rfl

theorem abort_of_fresh (hrounds : call.rounds = []) (outputs : Outputs) (e : Error) :
    call.abort ⟨0, call.inputs.inputs, outputs⟩ e = (e, call.streamed outputs (some e)) := by
  rw [Cycle.abort_of_room (by rw [hrounds]; rfl) (Nat.zero_le _)]
  unfold Cycle.after Call.fail Call.streamed
  rw [hrounds]
  rfl

theorem abortRound_of_fresh (hrounds : call.rounds = []) (e : GenerationError) :
    call.abortRound 0 call.inputs.inputs (.generation e) =
      (.generation e,
        call.streamed { Outputs.empty with error := some e.text } (some (.generation e))) :=
  abort_of_fresh hrounds _ _

theorem take_of_aborted (st : OutcomeStream) {e : ValidationError}
    (hinputs : st.inputs = call.inputs.inputs) (hrounds : call.rounds = [])
    (h : st.requirements.evaluate (.ofText (st.text ++ chunk)) st.inputs.metadata =
      .aborted outputs e) :
    st.take chunk call =
      (.error (.validation e),
        { st with text := st.text ++ chunk, seen := st.seen + 1, finished := true },
        call.streamed outputs (some (.validation e))) := by
  unfold take evaluate
  dsimp only
  rw [h]
  dsimp only
  rw [hinputs, abort_of_fresh hrounds]

theorem finish_of_checked {annotated : Json} {corrections : List Correction}
    (hinputs : st.inputs = call.inputs.inputs) (hrounds : call.rounds = [])
    (hexception : call.exception = none)
    (h : st.requirements.evaluate (.ofText st.text) st.inputs.metadata =
      .checked outputs annotated corrections) :
    st.finish call = (none, call.streamed outputs none) := by
  unfold finish evaluate
  rw [h]
  dsimp only
  rw [hinputs, push_of_fresh hrounds hexception]

theorem finish_of_aborted {e : ValidationError} (hinputs : st.inputs = call.inputs.inputs)
    (hrounds : call.rounds = [])
    (h : st.requirements.evaluate (.ofText st.text) st.inputs.metadata = .aborted outputs e) :
    st.finish call =
      (some (.validation e), call.streamed outputs (some (.validation e))) := by
  unfold finish evaluate
  rw [h]
  dsimp only
  rw [hinputs, abort_of_fresh hrounds]

/-- The answer that ends a stream. -/
theorem next_of_ending (st : OutcomeStream) (hopen : st.finished = false)
    (htext : st.text = String.join chunks) (hsource : st.source = rest)
    (hinputs : st.inputs = call.inputs.inputs) (hrounds : call.rounds = [])
    (hexception : call.exception = none)
    (h : Ending st.requirements st.inputs.metadata chunks rest outputs error) :
    ∃ st', st.next call = (error.map .error, st', call.streamed outputs error) ∧
      st'.finished = true ∧ st'.source = rest.tail := by
  cases h with
  | @raised chunk rest e h =>
    obtain ⟨outputs, heval⟩ := Requirements.aborted_iff_raises.2 h
    rw [next_of_ok hopen hsource, heval]
    rw [← htext] at heval
    rw [take_of_aborted { st with source := rest } hinputs hrounds heval]
    exact ⟨_, rfl, rfl, rfl⟩
  | failed =>
    rw [next_of_error hopen hsource, hinputs, abortRound_of_fresh hrounds]
    exact ⟨_, rfl, rfl, rfl⟩
  | drained h =>
    obtain ⟨outputs, annotated, corrections, heval⟩ := Requirements.checked_of_not_raises h
    rw [next_of_nil hopen hsource, heval]
    rw [← htext] at heval
    rw [finish_of_checked hinputs hrounds hexception heval]
    exact ⟨_, rfl, rfl, hsource⟩
  | raisedByNothing hnone h =>
    obtain ⟨outputs, heval⟩ := Requirements.aborted_iff_raises.2 h
    rw [next_of_nil hopen hsource, heval]
    rw [← htext] at heval
    rw [finish_of_aborted hinputs hrounds heval]
    exact ⟨_, rfl, rfl, hsource⟩

/-! ## All answers -/

/-- What `n` requests for the next item of a stream come to. The first answers are about the chunks,
one for each; then comes the answer that ends the stream; then there are none. -/
structure Polled (st : OutcomeStream) (call : Call) (chunks : List String) (rest : List Chunk)
    (outputs : Outputs) (error : Option Error) (n : Nat) (answers : List (Option Item))
    (st' : OutcomeStream) (call' : Call) : Prop where
  length_eq : answers.length = n
  chunk : ∀ i, i < n → i < chunks.length →
    ∃ outcome, answers[i]? = some (some (.ok outcome)) ∧
      outcome.raw = some (String.join (chunks.take (i + 1)))
  last : chunks.length < n → answers[chunks.length]? = some (error.map .error)
  silent : ∀ i, chunks.length < i → i < n → answers[i]? = some none
  /-- As long as the stream is not finished, nothing is recorded. -/
  running : n ≤ chunks.length →
    st'.finished = false ∧ st'.source = st.source.drop n ∧ call' = call
  /-- When it is finished, there is one round, and nothing more happens. -/
  ended : chunks.length < n →
    st'.finished = true ∧ st'.source = rest.tail ∧ call' = call.streamed outputs error

/-- The answers for the chunks of a stream at its beginning. -/
theorem polls_start (r : Requirements) (inputs : Inputs) (rest : List Chunk) (call : Call)
    (hquiet : r.Unraised inputs.metadata "" chunks) :
    (start r inputs (chunks.map .ok ++ rest)).polls call chunks.length =
      ((r.answers inputs.metadata call.id "" chunks).map some,
        (start r inputs (chunks.map .ok ++ rest)).after chunks rest, call) :=
  polls_of_unraised _ call rfl rfl hquiet

theorem getElem?_map_answers (callId : String) {i : Nat} (hquiet : r.Unraised metadata "" chunks)
    (h : i < chunks.length) :
    ∃ outcome, ((r.answers metadata callId "" chunks).map some)[i]? =
        some (some (.ok outcome)) ∧
      outcome.raw = some (String.join (chunks.take (i + 1))) := by
  have hne : chunks.take (i + 1) ≠ [] := by
    intro hnil
    have hlen := congrArg List.length hnil
    rw [List.length_take, List.length_nil] at hlen
    omega
  obtain ⟨outcome, hanswer, hraw⟩ := Requirements.answer_of_not_raises callId
    (hquiet _ (List.take_prefix _ _) hne)
  refine ⟨outcome, ?_, by rw [hraw, String.empty_append]⟩
  rw [List.getElem?_map, Requirements.getElem?_answers h, hanswer]
  rfl

/-- The answers of a stream at its beginning. -/
theorem polled_start (hrounds : call.rounds = []) (hexception : call.exception = none)
    (hquiet : r.Unraised call.inputs.inputs.metadata "" chunks)
    (hending : Ending r call.inputs.inputs.metadata chunks rest outputs error) (n : Nat) :
    let st := start r call.inputs.inputs (chunks.map .ok ++ rest)
    Polled st call chunks rest outputs error n (st.polls call n).1 (st.polls call n).2.1
      (st.polls call n).2.2 := by
  intro st
  rcases Nat.lt_or_ge chunks.length n with hn | hn
  · -- the chunks, the end, and what comes after it
    obtain ⟨k, rfl⟩ := Nat.exists_eq_add_of_lt hn
    obtain ⟨st', hnext, hfinished, hsource⟩ := next_of_ending (st.after chunks rest)
      rfl String.empty_append rfl rfl hrounds hexception hending
    have hpolls : st.polls call (chunks.length + k + 1) =
        ((r.answers call.inputs.inputs.metadata call.id "" chunks).map some ++
          error.map .error :: List.replicate k none, st', call.streamed outputs error) := by
      rw [Nat.add_assoc, polls_add (polls_start r call.inputs.inputs rest call hquiet),
        polls_succ_of_next hnext, polls_of_finished hfinished]
    rw [hpolls]
    have hlen : ((r.answers call.inputs.inputs.metadata call.id "" chunks).map some).length =
        chunks.length := by
      rw [List.length_map, Requirements.length_answers]
    refine ⟨?_, ?_, ?_, ?_, ?_, fun _ => ⟨hfinished, hsource, rfl⟩⟩
    · simp
      omega
    · intro i _ hi
      rw [List.getElem?_append_left (by rw [hlen]; exact hi)]
      exact getElem?_map_answers call.id hquiet hi
    · intro _
      rw [List.getElem?_append_right (by rw [hlen]), hlen, Nat.sub_self]
      rfl
    · intro i hi hin
      obtain ⟨j, rfl⟩ := Nat.exists_eq_add_of_lt hi
      rw [List.getElem?_append_right (by rw [hlen]; omega), hlen, Nat.add_assoc,
        Nat.add_sub_cancel_left, List.getElem?_cons_succ, List.getElem?_replicate,
        if_pos (by omega)]
    · intro hle
      omega
  · -- some of the chunks
    have hsplit : chunks.map Except.ok ++ rest =
        (chunks.take n).map .ok ++ ((chunks.drop n).map .ok ++ rest) := by
      rw [← List.append_assoc, ← List.map_append, List.take_append_drop]
    have htake : (chunks.take n).length = n := by
      rw [List.length_take, Nat.min_eq_left hn]
    have hpolls := polls_of_unraised st call rfl hsplit
      (hquiet.of_prefix (List.take_prefix n chunks))
    rw [htake] at hpolls
    rw [hpolls]
    refine ⟨?_, ?_, by omega, by omega, ?_, by omega⟩
    · rw [List.length_map, Requirements.length_answers, htake]
    · intro i hi _
      obtain ⟨outcome, hanswer, hraw⟩ := getElem?_map_answers call.id
        (hquiet.of_prefix (List.take_prefix n chunks)) (by rw [htake]; exact hi)
      rw [List.take_take, Nat.min_eq_left hi] at hraw
      exact ⟨outcome, hanswer, hraw⟩
    · intro _
      refine ⟨rfl, ?_, rfl⟩
      show (chunks.drop n).map Except.ok ++ rest = (chunks.map Except.ok ++ rest).drop n
      rw [List.drop_append_of_le_length (by rw [List.length_map]; exact hn), List.map_drop]

/-- All items of a stream of which no text raises an error. -/
theorem items_start (hrounds : call.rounds = []) (hexception : call.exception = none)
    (hquiet : r.Unraised call.inputs.inputs.metadata "" chunks)
    (hending : Ending r call.inputs.inputs.metadata chunks [] outputs none) {limit : Nat}
    (hlimit : chunks.length < limit) :
    ∃ st', (start r call.inputs.inputs (chunks.map .ok)).items limit call =
      (r.answers call.inputs.inputs.metadata call.id "" chunks, st',
        call.streamed outputs none) := by
  have hpolls := polls_start r call.inputs.inputs [] call hquiet
  rw [List.append_nil] at hpolls
  obtain ⟨st', hnext, -⟩ := next_of_ending
    ((start r call.inputs.inputs (chunks.map .ok)).after chunks []) rfl
    String.empty_append rfl rfl hrounds hexception hending
  refine ⟨st', items_of_polls ?_ hnext (by rw [Requirements.length_answers]; exact hlimit)⟩
  rw [Requirements.length_answers]
  exact hpolls

/-- All items of a stream at its beginning: an outcome for each chunk, and the error that ends it,
if there is one. -/
theorem drain_start (hrounds : call.rounds = []) (hexception : call.exception = none)
    (hquiet : r.Unraised call.inputs.inputs.metadata "" chunks)
    (hending : Ending r call.inputs.inputs.metadata chunks rest outputs error) :
    ∃ st', (start r call.inputs.inputs (chunks.map .ok ++ rest)).drain call =
      (r.answers call.inputs.inputs.metadata call.id "" chunks ++ (error.map .error).toList, st',
        call.streamed outputs error) := by
  cases error with
  | none =>
    have hbound : chunks.length <
        (start r call.inputs.inputs (chunks.map .ok)).bound := by simp [bound, start]
    have hrest : rest = [] := by
      cases hending
      rfl
    subst hrest
    simp only [List.append_nil, Option.map_none, Option.toList_none]
    exact items_start hrounds hexception hquiet hending hbound
  | some e =>
    obtain ⟨st', hnext, hfinished, -⟩ := next_of_ending
      ((start r call.inputs.inputs (chunks.map .ok ++ rest)).after chunks rest) rfl
      String.empty_append rfl rfl hrounds hexception hending
    refine ⟨st', items_of_polls ?_ (next_of_finished hfinished _) ?_⟩
    · rw [List.length_append, Requirements.length_answers, List.map_append,
        polls_add (polls_start r call.inputs.inputs rest call hquiet)]
      show (_ ++ (polls _ call 1).1, (polls _ call 1).2) = _
      rw [polls_succ_of_next hnext]
      rfl
    · rw [List.length_append, Requirements.length_answers]
      show chunks.length + 1 < (chunks.map Except.ok ++ rest).length + 2
      rw [List.length_append, List.length_map]
      omega

end OutcomeStream

/-- A stream that opens is at its beginning, and nothing is recorded yet. -/
theorem Cycle.stream_eq_ok {σ : Type} {c : Cycle σ} {mode : Mode} {call call' : Call} {s s' : σ}
    {st : OutcomeStream} (h : c.stream mode call s = (.ok st, call', s')) :
    call' = call ∧ ∃ source, st = .start c.requirements call.inputs.inputs source := by
  unfold Cycle.stream at h
  dsimp only at h
  split at h
  · next source _ _ =>
    cases h
    exact ⟨rfl, source, rfl⟩
  · cases h

/-- A stream on a fresh call takes the chunks of its source one by one and gives an outcome for each
text, until a text raises an error, the source fails, or the source is over. That ends it, and only
that is recorded: one round, which has the status of an error, as the call has an exception, exactly
if the stream ends with an error. After the end there are no answers, nothing is taken from the
source and nothing is recorded. A source that is over after at least one chunk makes for no answer
of its own. -/
theorem OutcomeStream.polls_law {σ : Type} {c : Cycle σ} {mode : Mode} {call call' : Call}
    {s s' : σ} {st : OutcomeStream} (hopen : c.stream mode call s = (.ok st, call', s'))
    (hrounds : call.rounds = []) (hexception : call.exception = none) :
    call' = call ∧ ∃ chunks rest outputs error,
      st.source = chunks.map .ok ++ rest ∧
      c.requirements.Unraised call.inputs.inputs.metadata "" chunks ∧
      Ending c.requirements call.inputs.inputs.metadata chunks rest outputs error ∧
      (outputs.status = .error ↔ error.isSome) ∧
      (∀ n, Polled st call chunks rest outputs error n (st.polls call n).1 (st.polls call n).2.1
        (st.polls call n).2.2) ∧
      (rest = [] → chunks ≠ [] →
        error = none ∧ (st.drain call).1.length = chunks.length) := by
  obtain ⟨hcall, source, rfl⟩ := Cycle.stream_eq_ok hopen
  obtain ⟨chunks, rest, outputs, error, rfl, hquiet, hending⟩ :=
    exists_ending c.requirements call.inputs.inputs.metadata source
  refine ⟨hcall, chunks, rest, outputs, error, rfl, hquiet, hending,
    hending.status_eq_error_iff, polled_start hrounds hexception hquiet hending, ?_⟩
  rintro rfl hne
  cases hending with
  | raisedByNothing hnone => exact absurd hnone hne
  | drained h =>
    have hlimit : chunks.length <
        (start c.requirements call.inputs.inputs (chunks.map .ok)).bound := by
      simp [bound, start]
    obtain ⟨st', hitems⟩ := items_start hrounds hexception hquiet (.drained h) hlimit
    refine ⟨rfl, ?_⟩
    rw [List.append_nil]
    unfold drain
    rw [hitems, Requirements.length_answers]

namespace OutcomeStream

/-! ## A source that fails -/

/-- The failure after two chunks. -/
def disconnected : GenerationError := ⟨"connection lost", true⟩

/-- The cycle in which any text will do. -/
def textCycle : Cycle (List Target.Reply) where
  requirements := ⟨⟨.string, .null, none⟩, ⟨[]⟩⟩
  target := some (Target.Script.target ⟨"mock", .blocking, none, .error Target.Script.exhausted,
    some (.ok [.ok "a", .ok "b", .error disconnected, .ok "c"])⟩)
  templates := ⟨none, none⟩
  kwargs := []

/-- The call for a text. -/
def textCall : Call :=
  .start "c" ⟨{ Inputs.empty with prompt := some ⟨"A text"⟩ }, [], []⟩

theorem not_raises_textCycle (text : String) (metadata : Metadata) (e : ValidationError) :
    ¬ textCycle.requirements.Raises (.ofText text) metadata e := by
  have hrun : ∃ pass,
      Pass.run (.str text) textCycle.requirements.validators metadata = .ok pass := by
    unfold Pass.run ValidatorMap.processingOrder
    rw [show textCycle.requirements.validators.entries = [] from rfl, List.mergeSort_nil]
    exact ⟨_, rfl⟩
  obtain ⟨pass, hpass⟩ := hrun
  exact Requirements.not_raises_of_run rfl hpass

/-- The third answer is the error, and it ends the stream. -/
theorem polls_law_of_failed_source : ∃ st,
    textCycle.stream .blocking textCall [] = (.ok st, textCall, []) ∧
      textCall.rounds = [] ∧ textCall.exception = none ∧
      (st.polls textCall 4).1[2]? = some (some (.error (.generation disconnected))) ∧
      (st.polls textCall 4).1[3]? = some none ∧
      (st.polls textCall 4).2.1.source = [.ok "c"] ∧
      (st.polls textCall 4).2.2.rounds.length = 1 ∧
      (st.polls textCall 4).2.2.exception = some "Generation failed: connection lost" := by
  have hopen : ∃ st, textCycle.stream .blocking textCall [] = (.ok st, textCall, []) ∧
      st.source = [.ok "a", .ok "b", .error disconnected, .ok "c"] := ⟨_, rfl, rfl⟩
  obtain ⟨st, hopen, hsource⟩ := hopen
  obtain ⟨-, chunks, rest, outputs, error, hsplit, -, hending, -, hpolled, -⟩ :=
    polls_law hopen rfl rfl
  rw [hsource] at hsplit
  -- nothing raises an error, so it is the failure of the source that ends the stream
  have hend : chunks = ["a", "b"] ∧ rest = [.error disconnected, .ok "c"] ∧
      error = some (.generation disconnected) := by
    cases hending with
    | raised h => exact absurd h (not_raises_textCycle _ _ _)
    | raisedByNothing _ h => exact absurd h (not_raises_textCycle _ _ _)
    | drained h =>
      have hmem : Except.error disconnected ∈ chunks.map Except.ok ++ [] := by
        rw [← hsplit]
        simp
      simp at hmem
    | failed =>
      obtain _ | ⟨a, _ | ⟨b, _ | ⟨d, more⟩⟩⟩ := chunks
      · simp at hsplit
      · simp at hsplit
      · simp only [List.map_cons, List.map_nil, List.cons_append, List.nil_append,
          List.cons.injEq, Except.ok.injEq, Except.error.injEq] at hsplit
        obtain ⟨rfl, rfl, rfl, rfl⟩ := hsplit
        exact ⟨rfl, rfl, rfl⟩
      · simp at hsplit
  obtain ⟨rfl, rfl, rfl⟩ := hend
  have hfour := hpolled 4
  obtain ⟨-, hleft, hcall⟩ := hfour.ended (by decide)
  refine ⟨st, hopen, rfl, rfl, hfour.last (by decide), hfour.silent 3 (by decide) (by decide),
    hleft, ?_, ?_⟩
  · rw [hcall]
    rfl
  · rw [hcall]
    rfl

end OutcomeStream
end Guardrail
