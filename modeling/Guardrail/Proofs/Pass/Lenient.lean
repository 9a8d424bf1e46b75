import Guardrail.Proofs.Pass.Audit
import Guardrail.Proofs.Pass.Raised

/-!
# Passes that nothing aborts

Where every policy to abort is replaced by the one that only logs, a pass always comes to its end.
Its log tells how the strict pass goes, the one with the policies as they are: the two do the same
up to the first failure of a validator that is to abort, there the strict pass ends, and if there is
no such failure it has the same result. For a validator that passes, or has not run yet, its policy
makes no difference.

The two passes are taken side by side, part by part: validator by validator, unit by unit and entry
by entry.

Results:
* `Parallel`, `Parallel.bind`: how a part of a pass goes strict and lenient, and that this adds up.
* `parallel_step`, `parallel_visitUnit`, `parallel_visitEntry`: the parts.
* `run_lenient_law`: whole passes.
-/

namespace Guardrail

/-! ## Lenient policies -/

/-- The policy that only logs in place of the one that aborts. -/
def Policy.lenient : Policy → Policy
  | .exception => .noop
  | policy => policy

/-- The validator with a lenient policy. -/
def BoundValidator.lenient (v : BoundValidator) : BoundValidator :=
  { v with policy := v.policy.lenient }

@[simp] theorem BoundValidator.lenient_validator (v : BoundValidator) :
    v.lenient.validator = v.validator := rfl

@[simp] theorem BoundValidator.lenient_policy (v : BoundValidator) :
    v.lenient.policy = v.policy.lenient := rfl

@[simp] theorem BoundValidator.lenient_name (v : BoundValidator) : v.lenient.name = v.name := rfl

/-- The entry with lenient policies. -/
def Entry.lenient (e : Entry) : Entry := (e.1, e.2.map BoundValidator.lenient)

/-- The map with lenient policies. Nothing is dropped, even if validators become interchangeable. -/
def ValidatorMap.lenient (m : ValidatorMap) : ValidatorMap := ⟨m.entries.map Entry.lenient⟩

/-- The record that a validator leaves under its lenient policy. -/
def LogEntry.lenient (l : LogEntry) : LogEntry := { l with policy := l.policy.lenient }

theorem ValidatorMap.processingOrder_lenient (m : ValidatorMap) :
    m.lenient.processingOrder = m.processingOrder.map Entry.lenient :=
  Pass.processingOrder_map m fun _ => rfl

namespace Pass

/-- The run with its records under lenient policies. -/
def UnitRun.lenient (run : UnitRun) : UnitRun := { run with logs := run.logs.map LogEntry.lenient }

/-- The state with its records under lenient policies. -/
def State.lenient (s : State) : State := { s with logs := s.logs.map LogEntry.lenient }

variable {metadata : Metadata} {value : Json} {vs : List BoundValidator} {map : ValidatorMap}
  {unit : Path} {found : Json} {s : State} {e : Entry} {es earlier : List Entry} {text : String}
  {run : UnitRun} {v : BoundValidator}

/-! ### What does not depend on the policy to abort -/

theorem failuresOn_lenient (metadata : Metadata) (value : Json) (vs : List BoundValidator) :
    failuresOn metadata value (vs.map BoundValidator.lenient) = failuresOn metadata value vs := by
  unfold failuresOn
  rw [List.filterMap_map]
  rfl

/-- Lenient validators leave the same of a unit. -/
theorem settle_lenient (metadata : Metadata) (found : Json) (vs : List BoundValidator)
    (value : Json) :
    settle metadata found (vs.map BoundValidator.lenient) value =
      settle metadata found vs value := by
  induction vs generalizing value with
  | nil => rfl
  | cons v vs ih =>
    have hcheck : v.lenient.validator = v.validator := rfl
    have hpolicy : v.lenient.policy = v.policy.lenient := rfl
    rw [List.map_cons, settle, settle, hcheck, hpolicy]
    cases v.validator.check value metadata with
    | pass => exact ih value
    | fail failure =>
      cases v.policy <;>
        simp only [Policy.lenient, ih, failuresOn_lenient]

theorem rewriteEntry_lenient (metadata : Metadata) (d : Json) (e : Entry) :
    rewriteEntry metadata d e.lenient = rewriteEntry metadata d e := by
  have hanswer : answer metadata e.lenient.2 = answer metadata e.2 :=
    funext fun found => settle_lenient metadata found e.2 found
  unfold rewriteEntry
  rw [hanswer]
  rfl

theorem lenient_apply (s : State) (unit : Path) (found : Json) (d : Disposition) :
    s.lenient.apply unit found d = (s.apply unit found d).lenient := by
  cases d with
  | keep value =>
    rw [apply_keep, apply_keep]
    split <;> rfl
  | block policy c =>
    cases policy <;> cases hfix : c.fix? <;>
      simp [State.apply, State.lenient, State.mark, State.put, State.drop, hfix]

/-! ## Side by side -/

/-- How a part of a pass ends that would come to an end with `b` and leave some records behind those
at its start, if nothing aborted it: with `b`, if the records are quiet, and otherwise aborted
behind the first failure that does so. -/
def CutShort {β : Type} (start records : List LogEntry) (b : β) : Except Abort β → Prop
  | .ok b' => Quiet records ∧ b' = b
  | .error abort => ∃ before l after, records = before ++ l :: after ∧ Quiet before ∧
      l.raised = some abort.error ∧ abort.logs = start ++ before ++ [l]

section CutShort

variable {β : Type} {start records before after : List LogEntry} {b : β} {x : Except Abort β}
  {l : LogEntry} {error : ValidationError}

theorem CutShort.eq_ok (h : CutShort start records b x) (hquiet : Quiet records) : x = .ok b := by
  cases x with
  | ok b' => exact congrArg Except.ok h.2
  | error abort =>
    obtain ⟨before, l, after, rfl, -, hl, -⟩ := h
    rw [hquiet l (by simp)] at hl
    cases hl

/-- The first failure that aborts is the one there is. -/
theorem CutShort.eq_error (h : CutShort start (before ++ l :: after) b x) (hbefore : Quiet before)
    (hl : l.raised = some error) : x = .error ⟨error, start ++ before ++ [l]⟩ := by
  cases x with
  | ok b' =>
    have hnone := h.1 l (by simp)
    rw [hl] at hnone
    cases hnone
  | error abort =>
    obtain ⟨before', l', after', hsplit, hbefore', hl', hlogs⟩ := h
    -- were one of the two behind the other, it would stand in a quiet part
    obtain ⟨rfl, rfl⟩ : before' = before ∧ l' = l := by
      obtain ⟨mid, rfl, hmid⟩ | ⟨mid, rfl, hmid⟩ := List.append_eq_append_iff.1 hsplit
      · cases mid with
        | nil => simp_all
        | cons x mid =>
          obtain ⟨rfl, -⟩ := List.cons.inj hmid
          simp [hbefore' l (by simp)] at hl
      · cases mid with
        | nil => simp_all
        | cons x mid =>
          obtain ⟨rfl, -⟩ := List.cons.inj hmid
          simp [hbefore l' (by simp)] at hl'
    rw [hl] at hl'
    rw [Option.some.inj hl', ← hlogs]

theorem CutShort.error_iff (h : CutShort start records b x) :
    (∃ abort, x = .error abort) ↔ ∃ l ∈ records, l.policy = .exception ∧ l.isFailure := by
  have hraised : ∀ l : LogEntry, l.raised.isSome ↔ l.policy = .exception ∧ l.isFailure := by
    intro l
    unfold LogEntry.raised LogEntry.isFailure Verdict.isPass
    cases l.policy <;> cases l.verdict <;> simp
  simp only [← hraised]
  cases x with
  | ok b' =>
    refine iff_of_false (by simp) ?_
    rintro ⟨l, hl, hsome⟩
    rw [h.1 l hl] at hsome
    cases hsome
  | error abort =>
    obtain ⟨before, l, after, rfl, -, hl, -⟩ := h
    exact iff_of_true ⟨abort, rfl⟩ ⟨l, by simp, by rw [hl]; rfl⟩

end CutShort

/-- A part of a pass, strict and lenient. The lenient one comes to its end; the strict one is cut
short as the records say that the part leaves. What these are about is said by `P`. -/
def Parallel {β : Type} (logs : β → List LogEntry) (lenient : β → β) (P : List LogEntry → Prop)
    (b : β) (strict mild : Except Abort β) : Prop :=
  ∃ b₁ records, logs b₁ = logs b ++ records ∧ P records ∧ mild = .ok (lenient b₁) ∧
    CutShort (logs b) records b₁ strict

section Parallel

variable {α α' β : Type} {logs : β → List LogEntry} {lenient : β → β} {b : β}
  {strict mild : Except Abort β} {P P' P'' : List LogEntry → Prop} {k k' : β → Except Abort β}

/-- One part after another. The later part of the lenient pass also follows where the strict pass
has been aborted. -/
theorem Parallel.bind (h : Parallel logs lenient P b strict mild)
    (hk : ∀ b₁, mild = .ok (lenient b₁) →
      Parallel logs lenient P' b₁ (k b₁) (k' (lenient b₁)))
    (hP : ∀ {records more}, P records → P' more → P'' (records ++ more)) :
    Parallel logs lenient P'' b (strict >>= k) (mild >>= k') := by
  obtain ⟨b₁, records, hlogs, hrecords, hmild, hstrict⟩ := h
  obtain ⟨b₂, more, hlogs', hmore, hmild', hstrict'⟩ := hk b₁ hmild
  refine ⟨b₂, records ++ more, ?_, hP hrecords hmore, ?_, ?_⟩
  · rw [hlogs', hlogs, List.append_assoc]
  · rw [hmild]
    exact hmild'
  · cases strict with
    | error abort =>
      obtain ⟨before, l, after, rfl, hrest⟩ := hstrict
      exact ⟨before, l, after ++ more, by simp, hrest⟩
    | ok b' =>
      obtain ⟨hquiet, rfl⟩ := hstrict
      show CutShort (logs b) (records ++ more) b₂ (k b')
      cases hkb : k b' with
      | ok b'' =>
        rw [hkb] at hstrict'
        exact ⟨quiet_append.2 ⟨hquiet, hstrict'.1⟩, hstrict'.2⟩
      | error abort =>
        rw [hkb] at hstrict'
        obtain ⟨before, l, after, rfl, hbefore, hl, habort⟩ := hstrict'
        refine ⟨records ++ before, l, after, by simp, quiet_append.2 ⟨hquiet, hbefore⟩, hl, ?_⟩
        rw [habort, hlogs, List.append_assoc (logs b)]

/-- A part that leaves no record and aborts nothing. -/
theorem parallel_ok {b₁ : β} (hlogs : logs b₁ = logs b) (hP : P []) :
    Parallel logs lenient P b (.ok b₁) (.ok (lenient b₁)) :=
  ⟨b₁, [], by rw [hlogs, List.append_nil], hP, rfl, by simp [Quiet], rfl⟩

/-- A fold whose steps go side by side. What they rely on is kept up by the lenient one. -/
theorem parallel_foldlM {f : β → α → Except Abort β} {f' : β → α' → Except Abort β} {g : α → α'}
    {I : List α → β → Prop} {Q : α → List LogEntry → Prop} {R : List α → List LogEntry → Prop}
    (hnil : R [] []) (hcons : ∀ {a as records more}, Q a records → R as more →
      R (a :: as) (records ++ more))
    (hstep : ∀ {a as b}, I (a :: as) b →
      Parallel logs lenient (Q a) b (f b a) (f' (lenient b) (g a)) ∧
        ∀ b₁, f' (lenient b) (g a) = .ok (lenient b₁) → I as b₁)
    (as : List α) (hI : I as b) :
    Parallel logs lenient (R as) b (as.foldlM f b) ((as.map g).foldlM f' (lenient b)) := by
  induction as generalizing b with
  | nil => exact parallel_ok rfl hnil
  | cons a as ih =>
    obtain ⟨hhere, hnext⟩ := hstep hI
    rw [List.foldlM_cons, List.map_cons, List.foldlM_cons]
    exact hhere.bind (fun b₁ hb₁ => ih (hnext b₁ hb₁)) hcons

end Parallel

/-! ## One validator -/

/-- A validator that does not abort the pass does the same under its lenient policy. -/
theorem step_lenient_of_ok {run' : UnitRun} (h : run.step text metadata v = .ok run') :
    run.lenient.step text metadata v.lenient = .ok run'.lenient := by
  unfold UnitRun.step at h ⊢
  simp only [BoundValidator.lenient_validator, BoundValidator.lenient_name,
    BoundValidator.lenient_policy, UnitRun.lenient] at h ⊢
  cases hcheck : v.validator.check run.value metadata with
  | pass =>
    simp only [hcheck, Except.ok.injEq] at h ⊢
    subst h
    simp [LogEntry.lenient]
  | fail failure =>
    cases hblocking : run.blocking <;> cases hpolicy : v.policy <;>
      simp only [hcheck, hblocking, hpolicy, Policy.lenient, Except.ok.injEq, reduceCtorEq]
        at h ⊢ <;>
      simp [← h, LogEntry.lenient, Policy.lenient]

/-- Where the strict pass is aborted, the lenient one goes on behind the same record. -/
theorem step_lenient_of_exception {failure : Failure}
    (hfail : v.validator.check run.value metadata = .fail failure)
    (hpolicy : v.policy = .exception) :
    ∃ run' : UnitRun, run'.logs = run.logs ++ [run.record metadata text v] ∧
      run.lenient.step text metadata v.lenient = .ok run'.lenient := by
  cases hblocking : run.blocking with
  | none =>
    refine ⟨{ run with logs := run.logs ++ [run.record metadata text v] }, rfl, ?_⟩
    simp [UnitRun.step, UnitRun.lenient, LogEntry.lenient, UnitRun.record, hfail, hpolicy,
      hblocking, Policy.lenient]
  | some policy =>
    refine ⟨{ run with
      failures := run.failures ++ [failure]
      logs := run.logs ++ [run.record metadata text v] }, rfl, ?_⟩
    simp [UnitRun.step, UnitRun.lenient, LogEntry.lenient, UnitRun.record, hfail, hpolicy,
      hblocking, Policy.lenient]

theorem parallel_step (run : UnitRun) (v : BoundValidator) :
    Parallel UnitRun.logs UnitRun.lenient
      (fun records => ∃ l, records = [l] ∧ Records metadata text v l) run
      (run.step text metadata v) (run.lenient.step text metadata v.lenient) := by
  have hrecords : ∃ l, [run.record metadata text v] = [l] ∧ Records metadata text v l :=
    ⟨_, rfl, rfl, rfl, rfl, rfl⟩
  cases hstep : run.step text metadata v with
  | ok run' =>
    exact ⟨run', [run.record metadata text v], UnitRun.logs_of_step hstep, hrecords,
      step_lenient_of_ok hstep, quiet_singleton.2 (raised_record_of_step hstep), rfl⟩
  | error abort =>
    obtain ⟨failure, hfail, hpolicy, hraised, hlogs⟩ := step_eq_error hstep
    obtain ⟨run', hlogs', hmild⟩ := step_lenient_of_exception hfail hpolicy
    exact ⟨run', [run.record metadata text v], hlogs', hrecords, hmild, [], _, [], rfl,
      by simp [Quiet], hraised, by rw [hlogs, List.append_nil]⟩

/-! ## One unit -/

theorem parallel_ofUnit (text : String) (metadata : Metadata) (vs : List BoundValidator)
    (found : Json) :
    Parallel UnitRun.logs UnitRun.lenient (List.Forall₂ (Records metadata text) vs)
      ⟨found, none, [], []⟩ (UnitRun.ofUnit text metadata vs found)
      (UnitRun.ofUnit text metadata (vs.map BoundValidator.lenient) found) := by
  refine parallel_foldlM (I := fun _ _ => True) .nil ?_
    (fun _ => ⟨parallel_step _ _, fun _ _ => trivial⟩) vs trivial
  rintro v vs records more ⟨l, rfl, hl⟩ hmore
  exact .cons hl hmore

/-- The validators of an entry on a unit, the strict and the lenient ones. The first record is about
the value that stands there. -/
theorem parallel_visitUnit (hfound : unit.get? s.validated = some found) :
    Parallel State.logs State.lenient
      (fun records => List.Forall₂ (Records metadata unit.render) vs records ∧
        ∀ first ∈ records.head?, first.before = found) s
      (visitUnit metadata vs s unit)
      (visitUnit metadata (vs.map BoundValidator.lenient) s.lenient unit) := by
  obtain ⟨run, records, hlogs, hrecords, hmild, hstrict⟩ :=
    parallel_ofUnit unit.render metadata vs found
  obtain rfl : run.logs = records := hlogs
  have hfound' : unit.get? s.lenient.validated = some found := hfound
  refine ⟨State.apply { s with logs := s.logs ++ run.logs } unit found
    (run.disposition unit.render found), run.logs, logs_apply, ⟨hrecords, ?_⟩, ?_, ?_⟩
  · intro first hfirst
    obtain ⟨-, hbefore⟩ := forall₂_records_of_ofUnit hmild
    refine hbefore first.lenient ?_
    show first.lenient ∈ (run.logs.map LogEntry.lenient).head?
    rw [List.head?_map]
    exact Option.mem_map_of_mem _ hfirst
  · unfold visitUnit
    simp only [hfound', hmild]
    rw [← lenient_apply]
    simp [State.lenient, UnitRun.lenient, UnitRun.disposition]
  · unfold visitUnit
    cases hrun : UnitRun.ofUnit unit.render metadata vs found with
    | ok run' =>
      rw [hrun] at hstrict
      obtain ⟨hquiet, rfl⟩ := hstrict
      simp only [hfound, hrun]
      exact ⟨hquiet, rfl⟩
    | error abort =>
      rw [hrun] at hstrict
      obtain ⟨before, l, after, hcut, hbefore, hl, habort⟩ := hstrict
      simp only [hfound, hrun]
      refine ⟨before, l, after, hcut, hbefore, hl, ?_⟩
      show s.logs ++ abort.logs = _
      rw [habort, List.nil_append, List.append_assoc]

/-! ## One entry -/

/-- The records of visits, group by group. -/
def Grouped (metadata : Metadata) (value : Json) (visits : List Visit)
    (records : List LogEntry) : Prop :=
  ∃ groups, List.Forall₂ (Visit.Recorded metadata value) visits groups ∧ records = groups.flatten

theorem Grouped.append {here later : List Visit} {records more : List LogEntry}
    (h : Grouped metadata value here records) (h' : Grouped metadata value later more) :
    Grouped metadata value (here ++ later) (records ++ more) := by
  obtain ⟨groups, hall, rfl⟩ := h
  obtain ⟨groups', hall', rfl⟩ := h'
  exact ⟨groups ++ groups', List.rel_append hall hall', List.flatten_append.symm⟩

/-- The units of an entry, each found as the entry found the document. -/
theorem parallel_foldlM_visitUnit {us : List Path} (hus : us.Pairwise Path.Before)
    (hget : ∀ u ∈ us, ∃ found, u.get? (earlier.foldl (rewriteEntry metadata) value) = some found ∧
      u.get? s.validated = some found) :
    Parallel State.logs State.lenient (Grouped metadata value (us.map (⟨earlier, e, ·⟩))) s
      (us.foldlM (visitUnit metadata e.2) s)
      (us.foldlM (visitUnit metadata (e.2.map BoundValidator.lenient)) s.lenient) := by
  induction us generalizing s with
  | nil => exact parallel_ok rfl ⟨[], .nil, rfl⟩
  | cons u us ih =>
    obtain ⟨hu, hus⟩ := List.pairwise_cons.1 hus
    obtain ⟨⟨found, hdocument, hfound⟩, hget⟩ := List.forall_mem_cons.1 hget
    rw [List.foldlM_cons, List.foldlM_cons]
    refine (parallel_visitUnit hfound).bind (fun s₁ hmild => ih hus fun w hw => ?_) ?_
    · -- the visit of the first unit leaves the units apart from it as they are
      obtain ⟨found', hdocument', hfound'⟩ := hget w hw
      obtain ⟨-, hsame⟩ | ⟨_, _, -, hvisited⟩ := visitUnit_cases hmild
      · exact ⟨found', hdocument', (congrArg (w.get? ·.validated) hsame).trans hfound'⟩
      · exact ⟨found', hdocument', (hvisited.get?_of_apart (hu w hw).apart.symm).trans hfound'⟩
    · rintro records more ⟨hrecords, hfirst⟩ ⟨groups, hgroups, rfl⟩
      refine ⟨records :: groups, .cons ⟨hrecords, fun first hmem => ?_⟩ hgroups, rfl⟩
      rw [hfirst first hmem]
      exact hdocument

/-- The entry's units, then the removals at its end. -/
theorem parallel_visitEntry (hs : s.validated = earlier.foldl (rewriteEntry metadata) value)
    (hd : s.validated.OrderedTo e.1.length) :
    Parallel State.logs State.lenient
      (Grouped metadata value ((e.1.resolve s.validated).map (⟨earlier, e, ·⟩))) s
      (visitEntry metadata s e) (visitEntry metadata s.lenient e.lenient) := by
  have hget : ∀ u ∈ e.1.resolve s.validated, ∃ found,
      u.get? (earlier.foldl (rewriteEntry metadata) value) = some found ∧
        u.get? s.validated = some found := fun u hu => by
    obtain ⟨found, hfound⟩ := Option.isSome_iff_exists.1 (Path.get?_isSome_of_mem_resolve hd hu)
    exact ⟨found, hs ▸ hfound, hfound⟩
  have hflush : ∀ s₁ : State, Parallel State.logs State.lenient (· = []) s₁
      (.ok s₁.flush) (.ok s₁.lenient.flush) := fun s₁ => parallel_ok rfl rfl
  refine (parallel_foldlM_visitUnit (Path.resolve_pairwise hd) hget).bind
    (fun s₁ _ => hflush s₁) ?_
  rintro records more hrecords rfl
  rwa [List.append_nil]

/-! ## The pass -/

/-- Entries from deep to shallow. -/
theorem parallel_foldlM_visitEntry
    (hs : s.validated = earlier.foldl (rewriteEntry metadata) value)
    (hes : es.Pairwise fun a b => b.1.length ≤ a.1.length)
    (hd : ∀ e ∈ es, s.validated.OrderedTo e.1.length) (hr : s.removals = []) :
    Parallel State.logs State.lenient (Grouped metadata value (visits metadata value earlier es)) s
      (es.foldlM (visitEntry metadata) s)
      ((es.map Entry.lenient).foldlM (visitEntry metadata) s.lenient) := by
  induction es generalizing s earlier with
  | nil => exact parallel_ok rfl ⟨[], .nil, rfl⟩
  | cons e es ih =>
    obtain ⟨hdeep, hes⟩ := List.pairwise_cons.1 hes
    have he := hd e List.mem_cons_self
    have hnext : ∀ s₁ : State, visitEntry metadata s.lenient e.lenient = .ok s₁.lenient →
        Parallel State.logs State.lenient
          (Grouped metadata value (visits metadata value (earlier ++ [e]) es)) s₁
          (es.foldlM (visitEntry metadata) s₁)
          ((es.map Entry.lenient).foldlM (visitEntry metadata) s₁.lenient) := by
      intro s₁ hmild
      -- the document that the lenient entry leaves is the one that the next entry starts with
      obtain ⟨hval, hrem⟩ := visitEntry_ok (s := s.lenient) (e := e.lenient) he hr hmild
      have hval₁ : s₁.validated = rewriteEntry metadata s.validated e :=
        hval.trans (rewriteEntry_lenient metadata s.validated e)
      refine ih ?_ hes (fun e' he' => ?_) hrem
      · rw [hval₁, hs, List.foldl_append]
        rfl
      · rw [hval₁]
        exact (orderedTo_rewriteEntry he).mono (hdeep e' he')
    rw [List.map_cons, List.foldlM_cons, List.foldlM_cons]
    refine (parallel_visitEntry hs he).bind hnext fun hrecords hmore => ?_
    rw [hs] at hrecords
    exact hrecords.append hmore

/-- How the strict pass goes, told from the lenient one. The lenient pass comes to its end, with one
group of records for each visit; `records` are these under the policies as they are. The strict pass
is aborted exactly if one of them is a failure with the policy to abort, by the first such failure,
behind the records up to there; else it comes to the same end. -/
theorem run_lenient_law (hv : value.WellFormed) :
    ∃ pass records, Pass.run value map.lenient metadata = .ok pass ∧
      pass.logs = records.map LogEntry.lenient ∧
      Grouped metadata value (visits metadata value [] map.processingOrder) records ∧
      ((∃ abort, Pass.run value map metadata = .error abort) ↔
        ∃ l ∈ records, l.policy = .exception ∧ l.isFailure) ∧
      (∀ before l after e, records = before ++ l :: after →
        Quiet before → l.raised = some e →
        Pass.run value map metadata = .error ⟨e, before ++ [l]⟩) ∧
      (Quiet records → Pass.run value map metadata = .ok { pass with logs := records }) := by
  have hstart : (State.initial value).validated =
      ([] : List Entry).foldl (rewriteEntry metadata) value := rfl
  obtain ⟨s, records, hlogs, hgrouped, hmild, hstrict⟩ :=
    parallel_foldlM_visitEntry hstart (processingOrder_pairwise map)
      (fun e _ => Json.orderedTo_of_wellFormed hv e.1.length) rfl
  obtain rfl : s.logs = records := hlogs
  have hrun : CutShort [] s.logs
      ⟨if s.validated.isNull then none else some s.validated, s.annotated, s.reasks, s.corrections,
        s.logs⟩ (Pass.run value map metadata) := by
    unfold Pass.run
    cases hfold : map.processingOrder.foldlM (visitEntry metadata) (State.initial value) with
    | ok s' =>
      rw [hfold] at hstrict
      obtain ⟨hquiet, rfl⟩ := hstrict
      exact ⟨hquiet, rfl⟩
    | error abort =>
      rw [hfold] at hstrict
      exact hstrict
  refine ⟨⟨if s.validated.isNull then none else some s.validated, s.annotated, s.reasks,
    s.corrections, s.lenient.logs⟩, s.logs, ?_, rfl, hgrouped, hrun.error_iff, ?_, hrun.eq_ok⟩
  · unfold Pass.run
    rw [map.processingOrder_lenient]
    exact congrArg (· >>= _) hmild
  · intro before l after e hsplit hbefore hl
    rw [hsplit] at hrun
    exact hrun.eq_error hbefore hl

/-- The first validator blocks the item and the second one aborts the strict pass. The lenient one
goes on to the whole value. -/
theorem run_lenient_law_of_blocked_item :
    let value := Json.arr [.str "x"]
    let map : ValidatorMap := ⟨[([.index 0], [⟨.choices [.str "a"], .reask⟩,
      ⟨.choices [.str "b"], .exception⟩]), ([], [⟨.oneLine, .exception⟩])]⟩
    value.WellFormed ∧ ∃ (pass : Pass) (records : List LogEntry) (abort : Pass.Abort),
      Pass.run value map.lenient [] = .ok pass ∧ pass.logs = records.map LogEntry.lenient ∧
      pass.reasks.length = 1 ∧ records.length = 3 ∧
      (∃ l ∈ records, l.policy = .exception ∧ l.isFailure) ∧
      Pass.run value map [] = .error abort ∧ abort.logs.length = 2 := by
  intro value map
  have hsort : map.processingOrder = map.entries := List.mergeSort_of_pairwise (by decide)
  have hv : value.WellFormed := ⟨trivial, trivial⟩
  have hstrict : ∃ abort, Pass.run value map [] = .error abort ∧ abort.logs.length = 2 := by
    unfold Pass.run
    rw [hsort]
    exact ⟨_, rfl, rfl⟩
  have hmild : ∃ pass, Pass.run value map.lenient [] = .ok pass ∧ pass.reasks.length = 1 ∧
      pass.logs.length = 3 := by
    unfold Pass.run
    rw [map.processingOrder_lenient, hsort]
    exact ⟨_, rfl, rfl, rfl⟩
  obtain ⟨abort, hstrict, htwo⟩ := hstrict
  obtain ⟨pass, hmild, hone, hthree⟩ := hmild
  obtain ⟨pass', records, hmild', hlogs, -, hiff, -⟩ := run_lenient_law hv
  obtain rfl : pass = pass' := Except.ok.inj (hmild.symm.trans hmild')
  exact ⟨hv, pass, records, abort, hmild, hlogs, hone, by rw [← hthree, hlogs, List.length_map],
    hiff.1 ⟨abort, hstrict⟩, hstrict, htwo⟩

end Pass
end Guardrail
