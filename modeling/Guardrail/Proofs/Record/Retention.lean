import Guardrail.Guard.Session

/-!
# What a history keeps

A call is registered when it starts, and any call may be registered once more later on. The policy
of a history may change in between, to a smaller bound, to a greater one or to none. A change drops
nothing by itself: the next registration goes by the policy that is in force then, and may drop many
calls at once. Whatever the order of these events, only the oldest calls are ever dropped, and never
the one that was registered last.

Results:
* `trim_suffix`, `length_trim_bounded`, `getLast?_trim`: what a policy leaves of a list.
* `KeepsNewest.push`: one registration.
* `keepsNewest_afterEvents`: any sequence of events.
* `retention_law`: what a history holds at any time, and what each event does to it.
-/

namespace Guardrail

namespace History

variable {α : Type u} {h : History α} {entry : α} {given : List α} {limit : Nat}

/-! ## Policies -/

theorem trim_suffix (retention : Retention) (entries : List α) :
    trim retention entries <:+ entries := by
  cases retention with
  | unbounded => exact List.suffix_refl entries
  | bounded limit => exact List.drop_suffix _ entries

/-- A bound of 0 leaves as much as a bound of 1. -/
theorem length_trim_bounded (limit : Nat) (entries : List α) :
    (trim (.bounded limit) entries).length = min entries.length (max limit 1) := by
  rw [trim, List.length_drop]
  omega

/-- No policy drops the last entry. -/
theorem getLast?_trim (retention : Retention) (entries : List α) :
    (trim retention entries).getLast? = entries.getLast? := by
  cases retention with
  | unbounded => rfl
  | bounded limit =>
    rw [trim, List.getLast?_drop]
    split
    · next hshort =>
      -- more than nothing is dropped of a list that is not empty, but never all of it
      have hempty : entries.length = 0 := by omega
      rw [List.length_eq_zero_iff.1 hempty]
      rfl
    · rfl

/-! ## Registering -/

theorem last?_push (h : History α) (entry : α) : (h.push entry).last? = some entry := by
  rw [last?, push, getLast?_trim, List.getLast?_concat]

theorem length_push_of_bounded (hbound : h.retention = .bounded limit) (entry : α) :
    (h.push entry).entries.length = min (h.entries.length + 1) (max limit 1) := by
  rw [push, hbound, length_trim_bounded, List.length_append, List.length_singleton]

theorem entries_push_of_unbounded (hbound : h.retention = .unbounded) (entry : α) :
    (h.push entry).entries = h.entries ++ [entry] := by
  rw [push, hbound, trim]

/-- A history holds the newest of all entries that it was given, and among them the last one. -/
structure KeepsNewest (h : History α) (given : List α) : Prop where
  suffix : h.entries <:+ given
  last?_eq : h.last? = given.getLast?

theorem KeepsNewest.push (hkept : h.KeepsNewest given) (entry : α) :
    (h.push entry).KeepsNewest (given ++ [entry]) where
  suffix := by
    obtain ⟨dropped, hdropped⟩ := hkept.suffix
    have hadded : h.entries ++ [entry] <:+ given ++ [entry] :=
      ⟨dropped, by rw [← List.append_assoc, hdropped]⟩
    exact (trim_suffix h.retention _).trans hadded
  last?_eq := by rw [last?_push, List.getLast?_concat]

end History

/-! ## Events -/

/-- What may happen to the history of a session. -/
inductive HistoryEvent
  /-- A call starts, and is registered with its record. -/
  | start (inputs : CallInputs)
  /-- A call is registered by its number, as it may have been before. -/
  | push (call : Nat)
  /-- Another policy comes into force. -/
  | retain (retention : Retention)

namespace Session

variable {σ : Type} {s : Session σ} {event : HistoryEvent} {call : Nat}

/-- The session after an event. -/
def afterEvent (s : Session σ) : HistoryEvent → Session σ
  | .start inputs => (s.register inputs).2
  | .push call => { s with history := s.history.push call }
  | .retain retention => s.configure ⟨none, some retention⟩

/-- The session after a sequence of events. -/
def afterEvents (s : Session σ) (events : List HistoryEvent) : Session σ :=
  events.foldl afterEvent s

/-- The number of the call that an event registers. -/
def pushed? (s : Session σ) : HistoryEvent → Option Nat
  | .start inputs => some (s.register inputs).1
  | .push call => some call
  | .retain _ => none

/-- The numbers of the calls that a sequence of events registers, in order. -/
def pushes (s : Session σ) : List HistoryEvent → List Nat
  | [] => []
  | event :: events => (s.pushed? event).toList ++ (s.afterEvent event).pushes events

theorem history_afterEvent_of_some (h : s.pushed? event = some call) :
    (s.afterEvent event).history = s.history.push call := by
  cases event with
  | start inputs =>
    cases h
    rfl
  | push n =>
    cases h
    rfl
  | retain retention => cases h

theorem entries_afterEvent_of_none (h : s.pushed? event = none) :
    (s.afterEvent event).history.entries = s.history.entries := by
  cases event with
  | start inputs => cases h
  | push n => cases h
  | retain retention => rfl

theorem keepsNewest_afterEvent {given : List Nat} (hkept : s.history.KeepsNewest given)
    (event : HistoryEvent) :
    (s.afterEvent event).history.KeepsNewest (given ++ (s.pushed? event).toList) := by
  cases hpushed : s.pushed? event with
  | some call =>
    rw [history_afterEvent_of_some hpushed]
    exact hkept.push call
  | none =>
    have hentries := entries_afterEvent_of_none hpushed
    rw [Option.toList_none, List.append_nil]
    exact ⟨hentries ▸ hkept.suffix,
      (congrArg List.getLast? hentries).trans hkept.last?_eq⟩

theorem keepsNewest_afterEvents {given : List Nat} (hkept : s.history.KeepsNewest given)
    (events : List HistoryEvent) :
    (s.afterEvents events).history.KeepsNewest (given ++ s.pushes events) := by
  induction events generalizing s given with
  | nil =>
    rw [pushes, List.append_nil]
    exact hkept
  | cons event events ih =>
    have hrest := ih (keepsNewest_afterEvent hkept event)
    rw [List.append_assoc] at hrest
    exact hrest

/-- A history holds the newest of all calls that have been registered, the last one among them. A
registration within a bound leaves as many calls as the bound allows, and one at least; without a
bound it drops none. Another policy alone drops none either. -/
theorem retention_law (guard : Guard σ) (retention : Retention) (callId : Nat → String) (state : σ)
    (events : List HistoryEvent) :
    let s := (start guard retention callId state).afterEvents events
    let pushes := (start guard retention callId state).pushes events
    (s.history.entries <:+ pushes ∧ s.history.last? = pushes.getLast? ∧
      ∀ newest, pushes.getLast? = some newest → newest ∈ s.history.entries) ∧
    ∀ event,
      (∀ call limit, s.pushed? event = some call → s.history.retention = .bounded limit →
        (s.afterEvent event).history.entries.length =
          min (s.history.entries.length + 1) (max limit 1)) ∧
      (∀ call, s.pushed? event = some call → s.history.retention = .unbounded →
        (s.afterEvent event).history.entries = s.history.entries ++ [call]) ∧
      (∀ policy, event = .retain policy →
        (s.afterEvent event).history = ⟨policy, s.history.entries⟩) := by
  intro s pushes
  have hstart : (start guard retention callId state).history.KeepsNewest [] :=
    ⟨List.suffix_refl [], rfl⟩
  have hkept : s.history.KeepsNewest pushes := keepsNewest_afterEvents hstart events
  refine ⟨⟨hkept.suffix, hkept.last?_eq, fun newest hnewest => ?_⟩,
    fun event => ⟨fun call limit hpushed hbound => ?_, fun call hpushed hbound => ?_, ?_⟩⟩
  · exact List.mem_of_mem_getLast? (hkept.last?_eq.trans hnewest)
  · rw [history_afterEvent_of_some hpushed]
    exact History.length_push_of_bounded hbound call
  · rw [history_afterEvent_of_some hpushed]
    exact History.entries_push_of_unbounded hbound call
  · rintro policy rfl
    rfl

/-- Three calls within a bound of 2; the first one once more, when the bound is lifted; and a bound
of 0, which drops nothing before the next registration. -/
theorem retention_law_of_lifted_bound :
    let guard : Guard Unit :=
      { id := "g", name := "g", description := none, schema := ⟨.string, .null, none⟩,
        references := [], validators := .empty, defaults := .none, retries := none,
        ofModel := false, service := none }
    let s := (start guard (.bounded 2) toString ()).afterEvents
      [.push 0, .push 1, .push 2, .retain .unbounded, .push 0, .retain (.bounded 0)]
    s.history.entries = [1, 2, 0] ∧ s.history.last? = some 0 ∧ s.pushed? (.push 3) = some 3 ∧
      (s.afterEvent (.push 3)).history.entries.length = 1 := by
  intro guard s
  obtain ⟨⟨-, hlast, -⟩, hevents⟩ := retention_law guard (.bounded 2) toString ()
    [.push 0, .push 1, .push 2, .retain .unbounded, .push 0, .retain (.bounded 0)]
  obtain ⟨hbounded, -, -⟩ := hevents (.push 3)
  exact ⟨rfl, hlast, rfl, hbounded 3 0 rfl rfl⟩

end Session
end Guardrail
