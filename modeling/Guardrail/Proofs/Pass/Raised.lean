import Guardrail.Proofs.Cycle.Verdict

/-!
# Aborted passes

A pass is aborted by the first validator that fails with the policy to abort, and by nothing else.
The log shows it: no such failure is on the record of a pass that comes to its end, and the record
of an aborted pass ends with the failure that aborted it, and has none before.

Results:
* `Leaves`, `leaves_run`: how a part of a pass may end, and that this adds up over its parts.
* `Ends`, `ends_run`: how a pass ends.
* `aborted_iff_raises`: a response aborts the evaluation exactly if the log has a failure that does.
-/

namespace Guardrail

/-- The error that a record makes of itself: that of a failure with the policy to abort. -/
def LogEntry.raised (l : LogEntry) : Option ValidationError :=
  match l.policy, l.verdict with
  | .exception, .fail failure => some ⟨l.validator, l.path, failure.message⟩
  | _, _ => none

theorem LogEntry.raised_eq_some_iff {l : LogEntry} {e : ValidationError} : l.raised = some e ↔
    ∃ failure, l.policy = .exception ∧ l.verdict = .fail failure ∧
      e = ⟨l.validator, l.path, failure.message⟩ := by
  unfold LogEntry.raised
  cases l.policy <;> cases l.verdict <;> simp [eq_comm]

namespace Pass

variable {α β : Type} {metadata : Metadata} {unit : String} {vs : List BoundValidator}
  {run : UnitRun} {logs : List LogEntry} {s : State} {v : BoundValidator}

/-- No record tells of a failure that aborts a pass. -/
def Quiet (logs : List LogEntry) : Prop := ∀ l ∈ logs, l.raised = none

/-- The record ends with a failure that aborts a pass, the only one of its kind. -/
def Raised (logs : List LogEntry) (e : ValidationError) : Prop :=
  ∃ quiet l, logs = quiet ++ [l] ∧ Quiet quiet ∧ l.raised = some e

theorem quiet_append {more : List LogEntry} :
    Quiet (logs ++ more) ↔ Quiet logs ∧ Quiet more :=
  List.forall_mem_append

theorem quiet_singleton {l : LogEntry} : Quiet [l] ↔ l.raised = none :=
  List.forall_mem_singleton

/-- Behind a quiet record the last failure is still the only one of its kind. -/
theorem Raised.behind {more : List LogEntry} {e : ValidationError} (h : Raised more e)
    (hlogs : Quiet logs) : Raised (logs ++ more) e := by
  obtain ⟨quiet, l, rfl, hquiet, hl⟩ := h
  exact ⟨logs ++ quiet, l, (List.append_assoc _ _ _).symm, quiet_append.2 ⟨hlogs, hquiet⟩, hl⟩

/-! ## Parts of a pass -/

section Leaves

variable {P : List LogEntry → Prop} {Q : Abort → Prop}

/-- How a part of a pass may end: with a result of whose record `P` holds, or aborted as `Q`
says. -/
def Leaves (P : List LogEntry → Prop) (Q : Abort → Prop) (logs : α → List LogEntry) :
    Except Abort α → Prop
  | .ok a => P (logs a)
  | .error abort => Q abort

/-- If every step of a fold may end like that, the fold may. -/
theorem leaves_foldlM {logs : β → List LogEntry} {f : β → α → Except Abort β} {as : List α}
    (hstep : ∀ b, ∀ a ∈ as, P (logs b) → Leaves P Q logs (f b a)) {b : β} (hb : P (logs b)) :
    Leaves P Q logs (as.foldlM f b) := by
  induction as generalizing b with
  | nil => exact hb
  | cons a as ih =>
    have hfirst := hstep b a List.mem_cons_self hb
    rw [List.foldlM_cons]
    cases hfa : f b a with
    | error abort =>
      rw [hfa] at hfirst
      exact hfirst
    | ok b₁ =>
      rw [hfa] at hfirst
      exact ih (fun b a ha => hstep b a (List.mem_cons_of_mem _ ha)) hfirst

/-- What may be said of records may be said of them and more, also in front of those of an abort. -/
structure Additive (P : List LogEntry → Prop) (Q : Abort → Prop) : Prop where
  nil : P []
  append : ∀ {logs more : List LogEntry}, P logs → P more → P (logs ++ more)
  behind : ∀ {logs : List LogEntry} {abort : Abort}, P logs → Q abort →
    Q { abort with logs := logs ++ abort.logs }

theorem leaves_visitUnit (hadd : Additive P Q) {unit : Path}
    (hunit : ∀ value, Leaves P Q UnitRun.logs (UnitRun.ofUnit unit.render metadata vs value))
    (h : P s.logs) : Leaves P Q State.logs (visitUnit metadata vs s unit) := by
  unfold visitUnit
  split
  · exact h
  · next found _ =>
    have hrun := hunit found
    split
    · next abort habort =>
      rw [habort] at hrun
      exact hadd.behind h hrun
    · next run hok =>
      rw [hok] at hrun
      show P (State.apply _ _ _ _).logs
      rw [logs_apply]
      exact hadd.append h hrun

theorem leaves_visitEntry (hadd : Additive P Q) {entry : Entry}
    (hunit : ∀ unit value, Leaves P Q UnitRun.logs (UnitRun.ofUnit unit metadata entry.2 value))
    (h : P s.logs) : Leaves P Q State.logs (visitEntry metadata s entry) := by
  have hunits : Leaves P Q State.logs
      ((entry.1.resolve s.validated).foldlM (visitUnit metadata entry.2) s) :=
    leaves_foldlM (fun s unit _ hs => leaves_visitUnit hadd (hunit unit.render) hs) h
  unfold visitEntry
  cases hfold : (entry.1.resolve s.validated).foldlM (visitUnit metadata entry.2) s with
  | error abort =>
    rw [hfold] at hunits
    exact hunits
  | ok s' =>
    rw [hfold] at hunits
    exact hunits

/-- A pass may end as its validators may on every unit. -/
theorem leaves_run (hadd : Additive P Q) {value : Json} {map : ValidatorMap}
    (hunit : ∀ e ∈ map.entries, ∀ unit value,
      Leaves P Q UnitRun.logs (UnitRun.ofUnit unit metadata e.2 value)) :
    Leaves P Q Pass.logs (Pass.run value map metadata) := by
  have hentries : Leaves P Q State.logs
      (map.processingOrder.foldlM (visitEntry metadata) (State.initial value)) :=
    leaves_foldlM
      (fun s e he hs => leaves_visitEntry hadd (hunit e (List.mem_mergeSort.1 he)) hs) hadd.nil
  unfold Pass.run
  cases hfold : map.processingOrder.foldlM (visitEntry metadata) (State.initial value) with
  | error abort =>
    rw [hfold] at hentries
    exact hentries
  | ok s =>
    rw [hfold] at hentries
    exact hentries

end Leaves

/-! ## Ends of a pass -/

/-- How a part of a pass ends: with a result whose record is quiet, or aborted by the last failure
on record. -/
def Ends (logs : α → List LogEntry) : Except Abort α → Prop :=
  Leaves Quiet (fun abort => Raised abort.logs abort.error) logs

theorem additive_quiet : Additive Quiet (fun abort => Raised abort.logs abort.error) where
  nil := by simp [Quiet]
  append h h' := quiet_append.2 ⟨h, h'⟩
  behind h h' := Raised.behind h' h

theorem raised_of_pass {l : LogEntry} (h : l.verdict = .pass) : l.raised = none := by
  unfold LogEntry.raised
  rw [h]
  cases l.policy <;> rfl

theorem raised_of_policy_ne {l : LogEntry} (h : l.policy ≠ .exception) : l.raised = none := by
  unfold LogEntry.raised
  split
  · next hpolicy _ => exact absurd hpolicy h
  · rfl

/-- A validator that does not abort the pass leaves a record that says so. -/
theorem raised_record_of_step {run' : UnitRun} (h : run.step unit metadata v = .ok run') :
    (run.record metadata unit v).raised = none := by
  obtain ⟨hpass, -⟩ | ⟨failure, -, hcase⟩ := UnitRun.step_cases h
  · exact raised_of_pass hpass
  · apply raised_of_policy_ne
    show v.policy ≠ .exception
    intro hpolicy
    rw [hpolicy] at hcase
    simp [Policy.isBlocking] at hcase

/-- A validator aborts the pass only by a failure with the policy to do so. Its record is the last
one then. -/
theorem step_eq_error {abort : Abort} (h : run.step unit metadata v = .error abort) :
    ∃ failure, v.validator.check run.value metadata = .fail failure ∧ v.policy = .exception ∧
      (run.record metadata unit v).raised = some abort.error ∧
      abort.logs = run.logs ++ [run.record metadata unit v] := by
  unfold UnitRun.step at h
  cases hcheck : v.validator.check run.value metadata with
  | pass =>
    simp only [hcheck] at h
    cases h
  | fail failure =>
    cases hpolicy : v.policy with
    | exception =>
      simp only [hcheck, hpolicy, Except.error.injEq] at h
      subst h
      exact ⟨failure, rfl, rfl, LogEntry.raised_eq_some_iff.2 ⟨failure, hpolicy, hcheck, rfl⟩,
        by rw [UnitRun.record, hcheck, hpolicy]⟩
    | _ => cases hblocking : run.blocking <;> simp [hcheck, hpolicy, hblocking] at h

/-- One more validator aborts the pass exactly if its own record says so. -/
theorem ends_step (run : UnitRun) (v : BoundValidator) (h : Quiet run.logs) :
    Ends UnitRun.logs (run.step unit metadata v) := by
  cases hstep : run.step unit metadata v with
  | ok run' =>
    show Quiet run'.logs
    rw [UnitRun.logs_of_step hstep]
    exact quiet_append.2 ⟨h, quiet_singleton.2 (raised_record_of_step hstep)⟩
  | error abort =>
    obtain ⟨failure, -, -, hraised, hlogs⟩ := step_eq_error hstep
    exact ⟨run.logs, _, hlogs, h, hraised⟩

theorem ends_ofUnit (unit : String) (metadata : Metadata) (vs : List BoundValidator)
    (value : Json) : Ends UnitRun.logs (UnitRun.ofUnit unit metadata vs value) :=
  leaves_foldlM (fun run v _ hrun => ends_step run v hrun) additive_quiet.nil

/-- A pass ends with a quiet record, or is aborted by the last failure on record. -/
theorem ends_run (value : Json) (map : ValidatorMap) (metadata : Metadata) :
    Ends Pass.logs (Pass.run value map metadata) :=
  leaves_run additive_quiet fun e _ unit value => ends_ofUnit unit metadata e.2 value

end Pass

/-! ## Evaluations -/

namespace Requirements

variable {r : Requirements} {metadata : Metadata} {response : Response} {outputs : Outputs}
  {e : ValidationError}

/-- The log of a response has the failure of a validator whose policy is to abort. -/
def Raises (r : Requirements) (response : Response) (metadata : Metadata)
    (e : ValidationError) : Prop :=
  ∃ l ∈ (r.evaluate response metadata).outputs.logs, ∃ failure, l.policy = .exception ∧
    l.verdict = .fail failure ∧ e = ⟨l.validator, l.path, failure.message⟩

theorem not_raises_of_quiet (h : Pass.Quiet (r.evaluate response metadata).outputs.logs) :
    ¬ r.Raises response metadata e := by
  rintro ⟨l, hl, hraised⟩
  have hnone := h l hl
  rw [LogEntry.raised_eq_some_iff.2 hraised] at hnone
  cases hnone

/-- A checked response has a quiet record. -/
theorem not_raises_of_checked {annotated : Json} {corrections : List Correction}
    (h : r.evaluate response metadata = .checked outputs annotated corrections) :
    ¬ r.Raises response metadata e := by
  apply not_raises_of_quiet
  rw [h]
  obtain ⟨rfl, -⟩ | ⟨value, pass, -, hrun, rfl, -⟩ := checked_cases h
  · intro l hl
    cases hl
  · have hends := Pass.ends_run value r.validators metadata
    rw [hrun] at hends
    exact hends

/-- A value over which the validators run to the end raises nothing. -/
theorem not_raises_of_run {value : Json} {pass : Pass}
    (hvalue : Extraction.extract? r.schema.shape response.text = some value)
    (hrun : Pass.run value r.validators metadata = .ok pass) :
    ¬ r.Raises response metadata e :=
  not_raises_of_checked (evaluate_of_run_ok hvalue hrun)

/-- An aborted evaluation found a value, and its record ends with the failure that aborted it. -/
theorem raised_of_aborted (h : r.evaluate response metadata = .aborted outputs e) :
    Pass.Raised outputs.logs e := by
  cases hvalue : Extraction.extract? r.schema.shape response.text with
  | none =>
    rw [evaluate_of_unreadable hvalue] at h
    cases h
  | some value =>
    have hends := Pass.ends_run value r.validators metadata
    cases hrun : Pass.run value r.validators metadata with
    | ok pass =>
      rw [evaluate_of_run_ok hvalue hrun] at h
      cases h
    | error abort =>
      rw [evaluate_of_run_error hvalue hrun] at h
      rw [hrun] at hends
      cases h
      exact hends

/-- An evaluation is aborted exactly if a validator fails whose policy is to abort, with the error
that its failure makes. -/
theorem aborted_iff_raises :
    (∃ outputs, r.evaluate response metadata = .aborted outputs e) ↔
      r.Raises response metadata e := by
  constructor
  · rintro ⟨outputs, h⟩
    obtain ⟨quiet, l, hlogs, -, hl⟩ := raised_of_aborted h
    refine ⟨l, ?_, LogEntry.raised_eq_some_iff.1 hl⟩
    rw [h]
    show l ∈ outputs.logs
    rw [hlogs]
    exact List.mem_append_right _ (List.mem_singleton_self l)
  · intro hraises
    cases heval : r.evaluate response metadata with
    | checked outputs annotated corrections => exact absurd hraises (not_raises_of_checked heval)
    | aborted outputs e' =>
      obtain ⟨quiet, last, hlogs, hquiet, hlast⟩ := raised_of_aborted heval
      obtain ⟨l, hl, hraised⟩ := hraises
      rw [heval] at hl
      have hl' : l ∈ quiet ++ [last] := hlogs ▸ hl
      have hsome := LogEntry.raised_eq_some_iff.2 hraised
      rcases List.mem_append.1 hl' with hmem | hmem
      · rw [hquiet l hmem] at hsome
        cases hsome
      · rw [List.mem_singleton.1 hmem, hlast] at hsome
        rw [Option.some.inj hsome]
        exact ⟨outputs, rfl⟩

/-- A response that raises nothing is checked. -/
theorem checked_of_not_raises (h : ∀ e, ¬ r.Raises response metadata e) :
    ∃ outputs annotated corrections,
      r.evaluate response metadata = .checked outputs annotated corrections := by
  cases heval : r.evaluate response metadata with
  | checked outputs annotated corrections => exact ⟨outputs, annotated, corrections, rfl⟩
  | aborted outputs e => exact absurd (aborted_iff_raises.1 ⟨outputs, heval⟩) (h e)

end Requirements
end Guardrail
