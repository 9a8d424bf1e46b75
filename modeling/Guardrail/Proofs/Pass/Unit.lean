import Mathlib.Data.List.Forall2
import Mathlib.Data.List.TakeWhile
import Guardrail.Pass

/-!
# The validators of an entry on one unit

A run of validators over a unit leaves one log entry for each validator, in order of attachment, and
everything else that the run comes to can be read off these entries: the policy of the first
blocking failure and the failures from there on. What is left of the unit follows from its value and
the validators alone.

Results:
* `forall₂_records_of_foldlM`: one record for each validator, also after failures.
* `consistent_of_ofUnit`: blocking policy and failures are those of the log.
* `left_of_ofUnit`: what is left of the unit is what `settle` says.
* `correction_of_ofUnit`, `reask_of_ofUnit`: what is to be corrected, and asked for again, is what
  the log says.
-/

namespace Guardrail.Pass

/-! ## Reading a unit's log -/

/-- The entry is the record of the validator on a unit: the validator's verdict on the value that it
saw. -/
def Records (metadata : Metadata) (unit : String) (v : BoundValidator) (l : LogEntry) : Prop :=
  l.validator = v.name ∧ l.path = unit ∧ l.policy = v.policy ∧
    l.verdict = v.validator.check l.before metadata

/-- The first blocking failure on record. -/
def blocking? (records : List LogEntry) : Option LogEntry := records.find? (·.isBlockingFailure)

/-- All failures on record from the first blocking one on, whatever their policies. -/
def failuresFrom (records : List LogEntry) : List Failure :=
  (records.dropWhile (!·.isBlockingFailure)).filterMap (·.verdict.failure?)

/-- The correction of a unit with these records, if one of them is a blocking failure. -/
def correction? (records : List LogEntry) : Option Correction :=
  match records.head?, blocking? records with
  | some first, some _ => some ⟨first.before, first.path, failuresFrom records⟩
  | _, _ => none

/-- Whether the first blocking failure on record asks for the unit again. -/
def asksAgain (records : List LogEntry) : Bool :=
  (blocking? records).any (·.policy == .reask)

/-! ## What is left of a unit -/

/-- The failures of the validators on a value. -/
def failuresOn (metadata : Metadata) (value : Json) (vs : List BoundValidator) : List Failure :=
  vs.filterMap fun v => (v.validator.check value metadata).failure?

/-- What the validators leave of a unit at which `found` stands, `value` being what the fixes so far
have made of it; nothing, if the unit goes. A value equal to the one found is the one found. -/
def settle (metadata : Metadata) (found : Json) : List BoundValidator → Json → Option Json
  | [], value => some (if value == found then found else value)
  | v :: vs, value =>
    match v.validator.check value metadata with
    | .pass => settle metadata found vs value
    | .fail failure =>
      match v.policy with
      | .noop | .exception => settle metadata found vs value
      | .fix => settle metadata found vs (failure.fix.getD value)
      | .refrain => some .null
      | .filter => none
      | .reask => (failure :: failuresOn metadata value vs).findSome? (·.fix)

/-- What a disposition leaves of a unit at which `found` stands. -/
def Disposition.left (found : Json) : Disposition → Option Json
  | .keep value => some (if value == found then found else value)
  | .block .filter _ => none
  | .block .refrain _ => some .null
  | .block _ c => c.fix?

/-- The correction that a disposition asks for. -/
def Disposition.correction? : Disposition → Option Correction
  | .keep _ => none
  | .block _ c => some c

/-- The correction with which a disposition asks for the unit again. -/
def Disposition.reask? : Disposition → Option Correction
  | .keep _ | .block .filter _ | .block .refrain _ => none
  | .block _ c => some c

/-! ## One validator -/

section Step

variable {metadata : Metadata} {unit : String} {v : BoundValidator} {vs : List BoundValidator}
  {run run' : UnitRun} {found : Json}

/-- The record that the next validator leaves. -/
def UnitRun.record (metadata : Metadata) (unit : String) (run : UnitRun) (v : BoundValidator) :
    LogEntry :=
  ⟨v.name, unit, v.policy, run.value, v.validator.check run.value metadata⟩

/-- All that one more validator can do, unless it aborts the pass. -/
theorem UnitRun.step_cases (h : run.step unit metadata v = .ok run') :
    (v.validator.check run.value metadata = .pass ∧
      run' = { run with logs := run.logs ++ [run.record metadata unit v] }) ∨
    ∃ failure, v.validator.check run.value metadata = .fail failure ∧
      ((run.blocking = none ∧ v.policy = .fix ∧
          run' = { run with
            value := failure.fix.getD run.value
            logs := run.logs ++ [run.record metadata unit v] }) ∨
        (run.blocking = none ∧ v.policy = .noop ∧
          run' = { run with logs := run.logs ++ [run.record metadata unit v] }) ∨
        (run.blocking = none ∧ v.policy.isBlocking ∧
          run' = { run with
            blocking := some v.policy
            failures := [failure]
            logs := run.logs ++ [run.record metadata unit v] }) ∨
        (run.blocking.isSome ∧ v.policy ≠ .exception ∧
          run' = { run with
            failures := run.failures ++ [failure]
            logs := run.logs ++ [run.record metadata unit v] })) := by
  unfold step at h
  unfold record
  cases hcheck : v.validator.check run.value metadata with
  | pass =>
    simp only [hcheck, Except.ok.injEq] at h
    exact .inl ⟨rfl, h.symm⟩
  | fail failure =>
    refine .inr ⟨failure, rfl, ?_⟩
    cases hblocking : run.blocking <;> cases hpolicy : v.policy <;>
      simp only [hcheck, hblocking, hpolicy, Except.ok.injEq, reduceCtorEq] at h <;>
      simp [← h, Policy.isBlocking]

theorem UnitRun.logs_of_step (h : run.step unit metadata v = .ok run') :
    run'.logs = run.logs ++ [run.record metadata unit v] := by
  obtain ⟨-, rfl⟩ | ⟨failure, -, ⟨-, -, rfl⟩ | ⟨-, -, rfl⟩ | ⟨-, -, rfl⟩ | ⟨-, -, rfl⟩⟩ :=
    step_cases h <;> rfl

/-! ## All validators of an entry -/

theorem foldlM_cons_eq_ok {α β ε : Type} {f : β → α → Except ε β} {a : α} {as : List α}
    {b b' : β} (h : (a :: as).foldlM f b = .ok b') :
    ∃ b₁, f b a = .ok b₁ ∧ as.foldlM f b₁ = .ok b' := by
  rw [List.foldlM_cons] at h
  cases hfa : f b a with
  | error e => rw [hfa] at h; cases h
  | ok b₁ => rw [hfa] at h; exact ⟨b₁, rfl, h⟩

/-- The run adds one record for each validator, in order, and the first record is about the value
that the run starts with. -/
theorem forall₂_records_of_foldlM (h : vs.foldlM (UnitRun.step unit metadata) run = .ok run') :
    ∃ records, run'.logs = run.logs ++ records ∧
      List.Forall₂ (Records metadata unit) vs records ∧
      ∀ first ∈ records.head?, first.before = run.value := by
  induction vs generalizing run with
  | nil => exact ⟨[], by cases h; simp, .nil, by simp⟩
  | cons v vs ih =>
    obtain ⟨run₁, hstep, hrest⟩ := foldlM_cons_eq_ok h
    obtain ⟨records, hlogs, hall, -⟩ := ih hrest
    refine ⟨run.record metadata unit v :: records, ?_, .cons ⟨rfl, rfl, rfl, rfl⟩ hall, ?_⟩
    · rw [hlogs, UnitRun.logs_of_step hstep, List.append_assoc, List.singleton_append]
    · rintro first hfirst
      cases hfirst
      rfl

/-- The blocking policy and the failures of a run are those of its log. -/
structure UnitRun.Consistent (run : UnitRun) : Prop where
  blocking_eq : run.blocking = (blocking? run.logs).map (·.policy)
  failures_eq : run.failures = failuresFrom run.logs

theorem blocking?_append (logs : List LogEntry) (l : LogEntry) :
    blocking? (logs ++ [l]) =
      (blocking? logs).or (if l.isBlockingFailure then some l else none) := by
  unfold blocking?
  rw [List.find?_append, List.find?_singleton]

theorem dropWhile_eq_nil_of_blocking? {logs : List LogEntry} (h : blocking? logs = none) :
    logs.dropWhile (!·.isBlockingFailure) = [] := by
  rw [List.dropWhile_eq_nil_iff]
  intro x hx
  simpa using List.find?_eq_none.1 h x hx

/-- Before the first blocking failure nothing is kept. -/
theorem failuresFrom_append_of_none {logs : List LogEntry} {l : LogEntry}
    (h : blocking? logs = none) :
    failuresFrom (logs ++ [l]) =
      if l.isBlockingFailure then l.verdict.failure?.toList else [] := by
  unfold failuresFrom
  rw [List.dropWhile_append, dropWhile_eq_nil_of_blocking? h]
  cases hl : l.isBlockingFailure with
  | false => simp [hl]
  | true => cases hf : l.verdict.failure? <;> simp [hl, hf]

/-- After the first blocking failure every failure is kept. -/
theorem failuresFrom_append_of_isSome {logs : List LogEntry} {l : LogEntry}
    (h : (blocking? logs).isSome) :
    failuresFrom (logs ++ [l]) = failuresFrom logs ++ l.verdict.failure?.toList := by
  have hne : (logs.dropWhile (!·.isBlockingFailure)).isEmpty = false := by
    obtain ⟨x, hx⟩ := Option.isSome_iff_exists.1 h
    rw [List.isEmpty_eq_false_iff, Ne, List.dropWhile_eq_nil_iff]
    intro hall
    have hxl := hall x (List.mem_of_find?_eq_some hx)
    simp [List.find?_some hx] at hxl
  unfold failuresFrom
  rw [List.dropWhile_append, hne]
  cases hf : l.verdict.failure? <;> simp [hf]

theorem failuresFrom_of_none {logs : List LogEntry} (h : blocking? logs = none) :
    failuresFrom logs = [] := by
  rw [failuresFrom, dropWhile_eq_nil_of_blocking? h]
  rfl

/-! ### One more record -/

theorem UnitRun.isBlockingFailure_of_pass (h : v.validator.check run.value metadata = .pass) :
    (run.record metadata unit v).isBlockingFailure = false := by
  simp [record, h, LogEntry.isBlockingFailure, LogEntry.isFailure, Verdict.isPass]

theorem UnitRun.isBlockingFailure_of_fail {failure : Failure}
    (h : v.validator.check run.value metadata = .fail failure) :
    (run.record metadata unit v).isBlockingFailure = v.policy.isBlocking := by
  simp [record, h, LogEntry.isBlockingFailure, LogEntry.isFailure, Verdict.isPass]

/-- As long as nothing blocks, a failure is kept exactly if its policy blocks. -/
theorem UnitRun.Consistent.step_of_none (hr : run.Consistent) (hl : blocking? run.logs = none)
    (h : run.step unit metadata v = .ok run') : run'.Consistent := by
  have hb : run.blocking = none := by rw [hr.blocking_eq, hl]; rfl
  have hf : run.failures = [] := by rw [hr.failures_eq, failuresFrom_of_none hl]
  obtain ⟨hpass, rfl⟩ | ⟨failure, hfail, hcase⟩ := step_cases h
  · have hrecord : (run.record metadata unit v).isBlockingFailure = false :=
      isBlockingFailure_of_pass hpass
    constructor <;>
      simp [blocking?_append, failuresFrom_append_of_none hl, hrecord, hl, hb, hf]
  · have hrecord : (run.record metadata unit v).isBlockingFailure = v.policy.isBlocking :=
      isBlockingFailure_of_fail hfail
    obtain ⟨-, hp, rfl⟩ | ⟨-, hp, rfl⟩ | ⟨-, hp, rfl⟩ | ⟨hsome, -⟩ := hcase
    · constructor <;>
        simp [blocking?_append, failuresFrom_append_of_none hl, hrecord, hp, hl, hb, hf,
          Policy.isBlocking]
    · constructor <;>
        simp [blocking?_append, failuresFrom_append_of_none hl, hrecord, hp, hl, hb, hf,
          Policy.isBlocking]
    · have hpolicy : (run.record metadata unit v).policy = v.policy := rfl
      have hfailure : (run.record metadata unit v).verdict.failure? = some failure := by
        simp [record, hfail, Verdict.failure?]
      constructor <;>
        simp [blocking?_append, failuresFrom_append_of_none hl, hrecord, hp, hl, hpolicy, hfailure]
    · rw [hb] at hsome
      cases hsome

/-- Once a failure blocks, every failure is kept. -/
theorem UnitRun.Consistent.step_of_isSome (hr : run.Consistent) (hl : (blocking? run.logs).isSome)
    (h : run.step unit metadata v = .ok run') : run'.Consistent := by
  obtain ⟨l, hfirst⟩ := Option.isSome_iff_exists.1 hl
  have hb : run.blocking = some l.policy := by rw [hr.blocking_eq, hfirst]; rfl
  have hf := hr.failures_eq
  obtain ⟨hpass, rfl⟩ | ⟨failure, hfail, hcase⟩ := step_cases h
  · have hnone : (run.record metadata unit v).verdict.failure? = none := by
      simp [record, hpass, Verdict.failure?]
    constructor
    · simp [blocking?_append, hfirst, hb]
    · simp [failuresFrom_append_of_isSome hl, hnone, hf]
  · have hfailure : (run.record metadata unit v).verdict.failure? = some failure := by
      simp [record, hfail, Verdict.failure?]
    obtain ⟨hnone, -⟩ | ⟨hnone, -⟩ | ⟨hnone, -⟩ | ⟨-, -, rfl⟩ := hcase
    · rw [hb] at hnone; cases hnone
    · rw [hb] at hnone; cases hnone
    · rw [hb] at hnone; cases hnone
    · constructor
      · simp [blocking?_append, hfirst, hb]
      · simp [failuresFrom_append_of_isSome hl, hfailure, hf]

theorem UnitRun.Consistent.step (hr : run.Consistent) (h : run.step unit metadata v = .ok run') :
    run'.Consistent := by
  cases hl : blocking? run.logs with
  | none => exact hr.step_of_none hl h
  | some l => exact hr.step_of_isSome (by rw [hl]; rfl) h

theorem consistent_of_foldlM (hr : run.Consistent)
    (h : vs.foldlM (UnitRun.step unit metadata) run = .ok run') : run'.Consistent := by
  induction vs generalizing run with
  | nil => cases h; exact hr
  | cons v vs ih =>
    obtain ⟨run₁, hstep, hrest⟩ := foldlM_cons_eq_ok h
    exact ih (hr.step hstep) hrest

theorem consistent_of_ofUnit (h : UnitRun.ofUnit unit metadata vs found = .ok run) :
    run.Consistent :=
  consistent_of_foldlM ⟨rfl, rfl⟩ h

/-! ## What a run comes to -/

/-- Once a failure blocks, the value stays as it is, and every later failure is added. -/
theorem failures_of_blocked {policy : Policy} (hb : run.blocking = some policy)
    (h : vs.foldlM (UnitRun.step unit metadata) run = .ok run') :
    run'.blocking = some policy ∧
      run'.failures = run.failures ++ failuresOn metadata run.value vs := by
  induction vs generalizing run with
  | nil =>
    cases h
    exact ⟨hb, by simp [failuresOn]⟩
  | cons v vs ih =>
    obtain ⟨run₁, hstep, hrest⟩ := foldlM_cons_eq_ok h
    obtain ⟨hcheck, rfl⟩ | ⟨failure, hcheck, hcase⟩ := UnitRun.step_cases hstep
    · obtain ⟨hb', hf'⟩ := ih (by exact hb) hrest
      exact ⟨hb', by simpa [failuresOn, hcheck, Verdict.failure?] using hf'⟩
    · obtain ⟨hnone, -⟩ | ⟨hnone, -⟩ | ⟨hnone, -⟩ | ⟨-, -, rfl⟩ := hcase
      · simp [hb] at hnone
      · simp [hb] at hnone
      · simp [hb] at hnone
      · obtain ⟨hb', hf'⟩ := ih (by exact hb) hrest
        exact ⟨hb', by simpa [failuresOn, hcheck, Verdict.failure?] using hf'⟩

theorem disposition_of_blocked {policy : Policy} {failures : List Failure}
    (hb : run.blocking = some policy) (hf : run.failures = failures) :
    run.disposition unit found = .block policy ⟨found, unit, failures⟩ := by
  unfold UnitRun.disposition
  rw [hb, hf]

/-- As long as nothing has blocked, what will be left depends on the value and the validators to
come. -/
theorem left_of_foldlM (hb : run.blocking = none)
    (h : vs.foldlM (UnitRun.step unit metadata) run = .ok run') :
    (run'.disposition unit found).left found = settle metadata found vs run.value := by
  induction vs generalizing run with
  | nil =>
    cases h
    unfold UnitRun.disposition
    rw [hb]
    rfl
  | cons v vs ih =>
    obtain ⟨run₁, hstep, hrest⟩ := foldlM_cons_eq_ok h
    obtain ⟨hcheck, rfl⟩ | ⟨failure, hcheck, hcase⟩ := UnitRun.step_cases hstep
    · rw [ih (by exact hb) hrest]
      simp [settle, hcheck]
    · obtain ⟨-, hp, rfl⟩ | ⟨-, hp, rfl⟩ | ⟨-, hp, rfl⟩ | ⟨hsome, -⟩ := hcase
      · rw [ih (by exact hb) hrest]
        simp [settle, hcheck, hp]
      · rw [ih (by exact hb) hrest]
        simp [settle, hcheck, hp]
      · obtain ⟨hb', hf'⟩ := failures_of_blocked rfl hrest
        rw [disposition_of_blocked hb' hf']
        cases hpolicy : v.policy <;> simp [hpolicy, Policy.isBlocking] at hp <;>
          simp [Disposition.left, Correction.fix?, settle, hcheck, hpolicy]
      · simp [hb] at hsome

/-- What is left of a unit follows from the value found there and the validators. -/
theorem left_of_ofUnit (h : UnitRun.ofUnit unit metadata vs found = .ok run) :
    (run.disposition unit found).left found = settle metadata found vs found :=
  left_of_foldlM rfl h

/-- Only fixes change the value of a run. -/
theorem value_of_foldlM (hfix : ∀ v ∈ vs, v.policy ≠ .fix)
    (h : vs.foldlM (UnitRun.step unit metadata) run = .ok run') : run'.value = run.value := by
  induction vs generalizing run with
  | nil => cases h; rfl
  | cons v vs ih =>
    obtain ⟨hv, hvs⟩ := List.forall_mem_cons.1 hfix
    obtain ⟨run₁, hstep, hrest⟩ := foldlM_cons_eq_ok h
    rw [ih hvs hrest]
    obtain ⟨-, rfl⟩ | ⟨failure, -, ⟨-, hp, -⟩ | ⟨-, -, rfl⟩ | ⟨-, -, rfl⟩ | ⟨-, -, rfl⟩⟩ :=
      UnitRun.step_cases hstep
    · rfl
    · exact absurd hp hv
    · rfl
    · rfl
    · rfl

/-- The log of a run on a unit: a record for each validator, the first about the value found. -/
theorem forall₂_records_of_ofUnit (h : UnitRun.ofUnit unit metadata vs found = .ok run) :
    List.Forall₂ (Records metadata unit) vs run.logs ∧
      ∀ first ∈ run.logs.head?, first.before = found := by
  obtain ⟨records, hlogs, hall, hfirst⟩ := forall₂_records_of_foldlM h
  have heq : run.logs = records := by simpa using hlogs
  rw [heq]
  exact ⟨hall, hfirst⟩

/-- A run blocks its unit exactly if its log holds a blocking failure, and the correction is the one
on record. -/
theorem correction_of_ofUnit (h : UnitRun.ofUnit unit metadata vs found = .ok run) :
    (run.disposition unit found).correction? = correction? run.logs := by
  have hrun := consistent_of_ofUnit h
  obtain ⟨hall, hfirst⟩ := forall₂_records_of_ofUnit h
  unfold UnitRun.disposition correction?
  rw [hrun.blocking_eq, hrun.failures_eq]
  cases hl : blocking? run.logs with
  | none => cases run.logs <;> rfl
  | some l =>
    cases hlogs : run.logs with
    | nil => simp [hlogs, blocking?] at hl
    | cons first rest =>
      have hbefore : first.before = found := hfirst first (by rw [hlogs]; rfl)
      have hpath : first.path = unit := by
        rw [hlogs] at hall
        obtain ⟨w, -, hw, -⟩ := List.forall₂_cons_right_iff.1 hall
        exact hw.2.1
      simp [Disposition.correction?, hbefore, hpath]

/-- A run asks for its unit again exactly if the first blocking failure on record does. -/
theorem reask_of_ofUnit (h : UnitRun.ofUnit unit metadata vs found = .ok run) :
    (run.disposition unit found).reask? =
      if asksAgain run.logs then correction? run.logs else none := by
  have hrun := consistent_of_ofUnit h
  rw [← correction_of_ofUnit h]
  unfold asksAgain UnitRun.disposition
  rw [hrun.blocking_eq]
  cases hl : blocking? run.logs with
  | none => rfl
  | some l =>
    unfold blocking? at hl
    have hblock : l.isBlockingFailure = true := by simpa using List.find?_some hl
    obtain ⟨-, hpolicy⟩ := (Bool.and_eq_true _ _).mp hblock
    cases hp : l.policy <;> rw [hp] at hpolicy <;>
      simp_all [Policy.isBlocking, Disposition.reask?, Disposition.correction?]

end Step

end Guardrail.Pass
