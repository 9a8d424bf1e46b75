import Guardrail.Cycle.Stream
import Guardrail.Proofs.Pass.Raised

/-!
# Asking a stream for items

A stream may be asked for its next item at any time, also when there is none any more. As long as no
text raises an error, it takes the chunks of its source one by one, gives an outcome for the text
after each of them, and leaves the call as it is.

Results:
* `next_of_ok`, `next_of_error`, `next_of_nil`: the answer by what is left of the source.
* `polls_of_finished`: a finished stream gives nothing, and nothing changes.
* `polls_of_unraised`: the answers for chunks of which no text raises an error.
* `items_of_polls`: to take all items is to ask for them and once more.
* `items_eq_drain`: a limit above the number of chunks does not cut off any item.
-/

namespace Guardrail

variable {r : Requirements} {metadata : Metadata} {callId text chunk : String}
  {chunks : List String} {rest : List Chunk} {outputs : Outputs} {error : Option Error}

/-! ## Texts that raise no error -/

namespace Requirements

/-- No text of a chunk raises an error, if `text` was there before the first one. -/
def Unraised (r : Requirements) (metadata : Metadata) (text : String) (chunks : List String) :
    Prop :=
  ∀ received, received <+: chunks → received ≠ [] →
    ∀ e, ¬ r.Raises (.ofText (text ++ String.join received)) metadata e

theorem unraised_nil : r.Unraised metadata text [] := fun _ hfront hne =>
  absurd (List.prefix_nil.1 hfront) hne

theorem unraised_cons : r.Unraised metadata text (chunk :: chunks) ↔
    (∀ e, ¬ r.Raises (.ofText (text ++ chunk)) metadata e) ∧
      r.Unraised metadata (text ++ chunk) chunks := by
  constructor
  · intro h
    constructor
    · have hfirst := h [chunk] ⟨chunks, rfl⟩ (List.cons_ne_nil _ _)
      rwa [String.join_cons, String.join_nil, String.append_empty] at hfirst
    · intro received hfront _
      have hmore := h (chunk :: received) (List.cons_prefix_cons.2 ⟨rfl, hfront⟩)
        (List.cons_ne_nil _ _)
      rwa [String.join_cons, ← String.append_assoc] at hmore
  · rintro ⟨hfirst, hmore⟩ received hfront hne
    obtain rfl | ⟨received', rfl, hfront'⟩ := List.prefix_cons_iff.1 hfront
    · exact absurd rfl hne
    · rw [String.join_cons, ← String.append_assoc]
      by_cases hnil : received' = []
      · rw [hnil, String.join_nil, String.append_empty]
        exact hfirst
      · exact hmore received' hfront' hnil

theorem Unraised.of_prefix {received : List String} (h : r.Unraised metadata text chunks)
    (hreceived : received <+: chunks) : r.Unraised metadata text received :=
  fun front hfront hne => h front (hfront.trans hreceived) hne

/-- What a stream gives for a text. -/
def answer (r : Requirements) (metadata : Metadata) (callId text : String) : Item :=
  match r.evaluate (.ofText text) metadata with
  | .checked outputs _ corrections =>
    .ok (OutcomeStream.partialOutcome callId outputs corrections)
  | .aborted _ e => .error (.validation e)

theorem answer_of_checked {annotated : Json} {corrections : List Correction}
    (h : r.evaluate (.ofText text) metadata = .checked outputs annotated corrections) :
    r.answer metadata callId text =
      .ok (OutcomeStream.partialOutcome callId outputs corrections) := by
  unfold answer
  rw [h]

/-- The answer for a text that raises no error shows the text. -/
theorem answer_of_not_raises (callId : String)
    (h : ∀ e, ¬ r.Raises (.ofText text) metadata e) :
    ∃ outcome, r.answer metadata callId text = .ok outcome ∧ outcome.raw = some text := by
  obtain ⟨outputs, annotated, corrections, heval⟩ := checked_of_not_raises h
  exact ⟨_, answer_of_checked heval, (received_of_checked heval).2⟩

/-- The answers for the texts of some chunks. -/
def answers (r : Requirements) (metadata : Metadata) (callId text : String) :
    List String → List Item
  | [] => []
  | chunk :: chunks =>
    r.answer metadata callId (text ++ chunk) :: r.answers metadata callId (text ++ chunk) chunks

@[simp] theorem length_answers :
    (r.answers metadata callId text chunks).length = chunks.length := by
  induction chunks generalizing text with
  | nil => rfl
  | cons chunk chunks ih =>
    show (r.answers metadata callId (text ++ chunk) chunks).length + 1 = chunks.length + 1
    rw [ih]

theorem getElem?_answers {i : Nat} (h : i < chunks.length) :
    (r.answers metadata callId text chunks)[i]? =
      some (r.answer metadata callId (text ++ String.join (chunks.take (i + 1)))) := by
  induction chunks generalizing text i with
  | nil => exact absurd h (Nat.not_lt_zero i)
  | cons chunk chunks ih =>
    rw [List.take_succ_cons, String.join_cons, ← String.append_assoc]
    cases i with
    | zero => rw [List.take_zero, String.join_nil, String.append_empty]; rfl
    | succ i => exact ih (Nat.lt_of_succ_lt_succ h)

/-- Texts that raise no error are answered by outcomes. -/
theorem ok_of_mem_answers (hquiet : r.Unraised metadata text chunks) :
    ∀ item ∈ r.answers metadata callId text chunks, ∃ outcome, item = .ok outcome := by
  induction chunks generalizing text with
  | nil =>
    intro item hitem
    cases hitem
  | cons chunk chunks ih =>
    obtain ⟨hfirst, hmore⟩ := unraised_cons.1 hquiet
    obtain ⟨outcome, hanswer, -⟩ := answer_of_not_raises callId hfirst
    exact List.forall_mem_cons.2 ⟨⟨outcome, hanswer⟩, ih hmore⟩

end Requirements

namespace OutcomeStream

variable {st st' : OutcomeStream} {call call' : Call}

/-! ## Asking for items -/

/-- Asks so many times for the next item, whatever the answers are. -/
def polls (st : OutcomeStream) (call : Call) : Nat → List (Option Item) × OutcomeStream × Call
  | 0 => ([], st, call)
  | n + 1 =>
    let (answer, st, call) := st.next call
    let (answers, st, call) := st.polls call n
    (answer :: answers, st, call)

theorem polls_succ_of_next {answer : Option Item} (h : st.next call = (answer, st', call'))
    (n : Nat) : st.polls call (n + 1) =
      (answer :: (st'.polls call' n).1, (st'.polls call' n).2) := by
  rw [polls, h]

theorem polls_add {answers : List (Option Item)} {m : Nat}
    (h : st.polls call m = (answers, st', call')) (n : Nat) :
    st.polls call (m + n) = (answers ++ (st'.polls call' n).1, (st'.polls call' n).2) := by
  induction m generalizing st call answers with
  | zero =>
    cases h
    rw [Nat.zero_add, List.nil_append]
  | succ m ih =>
    rcases hnext : st.next call with ⟨answer, st₁, call₁⟩
    rw [polls_succ_of_next hnext] at h
    obtain ⟨rfl, hend⟩ := Prod.mk.inj h
    have hfirst : st₁.polls call₁ m = ((st₁.polls call₁ m).1, st', call') := by rw [← hend]
    rw [Nat.succ_add, polls_succ_of_next hnext, ih hfirst]
    rfl

theorem next_of_finished (h : st.finished = true) (call : Call) :
    st.next call = (none, st, call) := by
  unfold next
  rw [if_pos h]

/-- A finished stream gives nothing, and nothing changes. -/
theorem polls_of_finished (h : st.finished = true) (call : Call) (n : Nat) :
    st.polls call n = (List.replicate n none, st, call) := by
  induction n with
  | zero => rfl
  | succ n ih =>
    rw [polls_succ_of_next (next_of_finished h call), ih]
    rfl

/-! ### By what is left of the source -/

theorem next_of_ok (hopen : st.finished = false) (hsource : st.source = .ok chunk :: rest)
    (call : Call) :
    st.next call = (some ({ st with source := rest }.take chunk call).1,
      ({ st with source := rest }.take chunk call).2) := by
  unfold next
  rw [hopen, hsource]
  rfl

theorem next_of_error {e : GenerationError} (hopen : st.finished = false)
    (hsource : st.source = .error e :: rest) (call : Call) :
    st.next call = (some (.error (call.abortRound 0 st.inputs (.generation e)).1),
      { st with source := rest, finished := true },
      (call.abortRound 0 st.inputs (.generation e)).2) := by
  unfold next
  rw [hopen, hsource]
  rfl

theorem next_of_nil (hopen : st.finished = false) (hsource : st.source = []) (call : Call) :
    st.next call = ((st.finish call).1.map .error, { st with text := "", finished := true },
      (st.finish call).2) := by
  unfold next
  rw [hopen, hsource]
  rfl

/-! ## Chunks -/

/-- The stream after some chunks, when `rest` is to come. -/
def after (st : OutcomeStream) (chunks : List String) (rest : List Chunk) : OutcomeStream :=
  { st with
    source := rest
    text := st.text ++ String.join chunks
    seen := st.seen + chunks.length }

theorem after_cons (source : List Chunk) :
    (st.after [chunk] source).after chunks rest = st.after (chunk :: chunks) rest := by
  unfold after
  simp only [String.join_cons, String.join_nil, String.append_empty, String.append_assoc,
    List.length_cons, List.length_nil]
  rw [Nat.add_assoc, Nat.add_comm (0 + 1), Nat.zero_add]

/-- A chunk whose text raises no error. -/
theorem next_of_chunk (st : OutcomeStream) (call : Call) (hopen : st.finished = false)
    (hsource : st.source = .ok chunk :: rest)
    (hquiet : ∀ e, ¬ st.requirements.Raises (.ofText (st.text ++ chunk)) st.inputs.metadata e) :
    st.next call =
      (some (st.requirements.answer st.inputs.metadata call.id (st.text ++ chunk)),
        st.after [chunk] rest, call) := by
  obtain ⟨outputs, annotated, corrections, heval⟩ := Requirements.checked_of_not_raises hquiet
  rw [next_of_ok hopen hsource, Requirements.answer_of_checked heval]
  simp [take, evaluate, heval, after]

/-- The answers for chunks of which no text raises an error. -/
theorem polls_of_unraised (st : OutcomeStream) (call : Call) (hopen : st.finished = false)
    (hsource : st.source = chunks.map .ok ++ rest)
    (hquiet : st.requirements.Unraised st.inputs.metadata st.text chunks) :
    st.polls call chunks.length =
      ((st.requirements.answers st.inputs.metadata call.id st.text chunks).map some,
        st.after chunks rest, call) := by
  induction chunks generalizing st with
  | nil =>
    have hrest : st.source = rest := hsource
    rw [← hrest]
    simp [polls, after, Requirements.answers]
  | cons chunk chunks ih =>
    obtain ⟨hfirst, hmore⟩ := Requirements.unraised_cons.1 hquiet
    let st₁ := st.after [chunk] (chunks.map .ok ++ rest)
    have hnext : st.next call = (_, st₁, call) := next_of_chunk st call hopen hsource hfirst
    have htext : st₁.text = st.text ++ chunk := by
      simp [st₁, after]
    have hrest := ih st₁ hopen rfl (by rw [htext]; exact hmore)
    rw [List.length_cons, polls_succ_of_next hnext, hrest, htext, after_cons]
    rfl

/-- Taking items while there are any is asking for them and once more. -/
theorem items_of_polls {items : List Item} {limit : Nat} {st'' : OutcomeStream} {call'' : Call}
    (hpolls : st.polls call items.length = (items.map some, st', call'))
    (hend : st'.next call' = (none, st'', call'')) (hlimit : items.length < limit) :
    st.items limit call = (items, st'', call'') := by
  induction items generalizing st call limit with
  | nil =>
    cases hpolls
    obtain ⟨limit, rfl⟩ := Nat.exists_eq_succ_of_ne_zero (Nat.ne_of_gt hlimit)
    rw [OutcomeStream.items, hend]
  | cons item items ih =>
    obtain ⟨limit, rfl⟩ := Nat.exists_eq_succ_of_ne_zero (Nat.ne_of_gt (Nat.zero_lt_of_lt hlimit))
    rcases hnext : st.next call with ⟨answer, st₁, call₁⟩
    rw [List.length_cons, polls_succ_of_next hnext] at hpolls
    obtain ⟨hanswers, hrest⟩ := Prod.mk.inj hpolls
    obtain ⟨rfl, htail⟩ := List.cons.inj hanswers
    have hmore : st₁.polls call₁ items.length = (items.map some, st', call') :=
      Prod.ext htail hrest
    rw [OutcomeStream.items, hnext]
    dsimp only
    rw [ih hmore (Nat.lt_of_succ_lt_succ hlimit)]

/-! ## Limits -/

@[simp] theorem source_take (st : OutcomeStream) (chunk : String) (call : Call) :
    (st.take chunk call).2.1.source = st.source := by
  unfold take
  dsimp only
  split <;> rfl

/-- All that becomes of the source of a stream that is asked for an item: a finished stream leaves
it, and any other takes the next chunk, if there is one, and is finished if there is none. -/
theorem source_next_cases (st : OutcomeStream) (call : Call) :
    (st.finished = true ∧ st.next call = (none, st, call)) ∨
      (st.source = [] ∧ (st.next call).2.1.source = [] ∧ (st.next call).2.1.finished = true) ∨
      ∃ chunk, st.source = chunk :: (st.next call).2.1.source := by
  cases hfinished : st.finished with
  | true => exact .inl ⟨rfl, next_of_finished hfinished call⟩
  | false =>
    refine .inr ?_
    rcases hsource : st.source with _ | ⟨chunk | e, rest⟩
    · rw [next_of_nil hfinished hsource]
      exact .inl ⟨rfl, hsource, rfl⟩
    · rw [next_of_error hfinished hsource]
      exact .inr ⟨_, rfl⟩
    · rw [next_of_ok hfinished hsource, source_take]
      exact .inr ⟨_, rfl⟩

theorem items_of_finished (h : st.finished = true) (limit : Nat) (call : Call) :
    st.items limit call = ([], st, call) := by
  cases limit with
  | zero => rfl
  | succ limit => rw [OutcomeStream.items, next_of_finished h]

/-- Two limits above the number of chunks come to the same. -/
theorem items_congr {m n : Nat} (hm : st.source.length < m) (hn : st.source.length < n) :
    st.items m call = st.items n call := by
  induction m generalizing st call n with
  | zero => omega
  | succ m ih =>
    obtain ⟨n, rfl⟩ := Nat.exists_eq_succ_of_ne_zero (Nat.ne_of_gt (Nat.zero_lt_of_lt hn))
    rw [OutcomeStream.items, OutcomeStream.items]
    have hsource := source_next_cases st call
    rcases hnext : st.next call with ⟨answer, st', call'⟩
    rw [hnext] at hsource
    cases answer with
    | none => rfl
    | some item =>
      have hrest : st'.items m call' = st'.items n call' := by
        obtain ⟨-, hsame⟩ | ⟨-, -, hfinished⟩ | ⟨chunk, htail⟩ := hsource
        · cases hsame
        · rw [items_of_finished hfinished, items_of_finished hfinished]
        · rw [htail, List.length_cons] at hm hn
          exact ih (Nat.lt_of_succ_lt_succ hm) (Nat.lt_of_succ_lt_succ hn)
      dsimp only
      rw [hrest]

/-- A limit above the number of chunks does not cut off any item. -/
theorem items_eq_drain {limit : Nat} (h : st.source.length < limit) (call : Call) :
    st.items limit call = st.drain call :=
  items_congr h (by unfold bound; omega)

/-- A limit that is set after the first item has come is above the number of chunks before it. -/
theorem length_lt_bound_next (st : OutcomeStream) (call : Call) :
    st.source.length < (st.next call).2.1.bound + 1 := by
  unfold bound
  obtain ⟨-, hsame⟩ | ⟨hnil, -⟩ | ⟨chunk, htail⟩ := source_next_cases st call
  · rw [hsame]
    exact Nat.lt_add_of_pos_right (Nat.succ_pos 2)
  · rw [hnil]
    exact Nat.succ_pos _
  · rw [htail, List.length_cons]
    omega

end OutcomeStream
end Guardrail
