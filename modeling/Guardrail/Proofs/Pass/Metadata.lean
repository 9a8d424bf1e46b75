import Mathlib.Data.List.Induction
import Guardrail.Proofs.Pass.Raised

/-!
# The metadata that validators need

A map of validators is equipped by metadata that have every key that one of its validators needs.
The check of a call's metadata finds out whether they do, and names the keys that are missing. In
an equipped map no validator runs without its metadata: what a validator would do without them makes
no difference to any pass.

Results:
* `pairwise_idxOf_eraseDups`: without repetitions, keys stand in the order in which they come up.
* `checkMetadata_eq_ok_iff`, `missing_of_checkMetadata`: what the check finds.
* `ran_of_evaluate`: every record of an evaluation is that of a validator on the metadata.
* `evaluate_otherwise`: validators without their metadata play no part in an evaluation.
-/

namespace Guardrail

/-! ## Keys -/

/-- Without repetitions, elements stand in the order in which they first come up. -/
theorem pairwise_idxOf_eraseDups (l : List String) :
    l.eraseDups.Pairwise fun a b => l.idxOf a < l.idxOf b := by
  induction l using List.reverseRecOn with
  | nil => exact .nil
  | append_singleton l a ih =>
    have hkept : ∀ x ∈ l.eraseDups, (l ++ [a]).idxOf x = l.idxOf x := fun x hx =>
      List.idxOf_append_of_mem (List.mem_eraseDups.1 hx)
    have hfront : l.eraseDups.Pairwise fun x y => (l ++ [a]).idxOf x < (l ++ [a]).idxOf y :=
      ih.imp_of_mem fun hx hy hlt => by rwa [hkept _ hx, hkept _ hy]
    rw [List.eraseDups_append]
    by_cases ha : a ∈ l
    · have hnone : [a].removeAll l = [] := by simp [List.removeAll, ha]
      rw [hnone, List.eraseDups_nil, List.append_nil]
      exact hfront
    · have hone : [a].removeAll l = [a] := by simp [List.removeAll, ha]
      rw [hone]
      refine List.pairwise_append.2 ⟨hfront, ?_, fun x hx y hy => ?_⟩
      · simp [List.eraseDups_cons]
      · obtain rfl : y = a := by simpa [List.eraseDups_cons] using hy
        rw [hkept x hx, List.idxOf_append_of_notMem ha]
        exact Nat.lt_add_right _ (List.idxOf_lt_length_of_mem (List.mem_eraseDups.1 hx))

/-- The metadata have all keys that the validator needs. -/
def Validator.Equipped (v : Validator) (metadata : Metadata) : Prop :=
  ∀ key ∈ v.requiredKeys, metadata.contains key = true

namespace ValidatorMap

variable {m : ValidatorMap} {metadata : Metadata} {keys : List String} {key : String}

/-- The metadata have all keys that validators of the map need. -/
def Equipped (m : ValidatorMap) (metadata : Metadata) : Prop :=
  ∀ e ∈ m.entries, ∀ v ∈ e.2, v.validator.Equipped metadata

/-- A validator of the map needs the key. -/
def Requires (m : ValidatorMap) (key : String) : Prop :=
  ∃ e ∈ m.entries, ∃ v ∈ e.2, key ∈ v.validator.requiredKeys

/-- The keys that validators of the map need, path by path in the order of insertion, and validator
by validator in the order of attachment. -/
def keySequence (m : ValidatorMap) : List String :=
  m.entries.flatMap fun e => e.2.flatMap (·.validator.requiredKeys)

theorem mem_keySequence : key ∈ m.keySequence ↔ m.Requires key := by
  simp [keySequence, Requires]

/-- The keys are those that are needed and missing, each once, in the order in which they come
up. -/
structure Missing (m : ValidatorMap) (metadata : Metadata) (keys : List String) : Prop where
  mem_iff : ∀ key, key ∈ keys ↔ m.Requires key ∧ metadata.contains key = false
  nodup : keys.Nodup
  inOrder : keys.Pairwise fun a b => m.keySequence.idxOf a < m.keySequence.idxOf b

theorem missing_missingKeys (m : ValidatorMap) (metadata : Metadata) :
    m.Missing metadata (m.missingKeys metadata) := by
  have horder : (m.missingKeys metadata).Pairwise
      fun a b => m.keySequence.idxOf a < m.keySequence.idxOf b :=
    (pairwise_idxOf_eraseDups m.keySequence).filter _
  refine ⟨fun key => ?_, ?_, horder⟩
  · unfold missingKeys requiredKeys
    rw [List.mem_filter, List.mem_eraseDups]
    exact and_congr mem_keySequence (by simp)
  · refine horder.imp fun hlt heq => ?_
    rw [heq] at hlt
    exact Nat.lt_irrefl _ hlt

/-- The check names the missing keys. -/
theorem missing_of_checkMetadata (h : m.checkMetadata metadata = .error (.missingMetadata keys)) :
    m.Missing metadata keys := by
  unfold checkMetadata at h
  split at h
  · cases h
  · cases h
    exact m.missing_missingKeys metadata

/-- The check succeeds exactly if all keys are there. -/
theorem checkMetadata_eq_ok_iff : m.checkMetadata metadata = .ok () ↔ m.Equipped metadata := by
  have hmissing := m.missing_missingKeys metadata
  have hnone : m.missingKeys metadata = [] ↔ m.Equipped metadata := by
    rw [List.eq_nil_iff_forall_not_mem]
    simp only [hmissing.mem_iff]
    constructor
    · intro h e he v hv key hkey
      simpa [show m.Requires key from ⟨e, he, v, hv, hkey⟩] using h key
    · rintro h key ⟨⟨e, he, v, hv, hkey⟩, hfalse⟩
      rw [h e he v hv key hkey] at hfalse
      cases hfalse
  rw [← hnone]
  unfold checkMetadata
  split
  · next hnil => exact iff_of_true rfl hnil
  · next hne => exact iff_of_false (by simp) hne

end ValidatorMap

/-! ## Records -/

/-- The record is that of a validator of the map that ran on the metadata and had all that it
needs. -/
def ValidatorMap.Ran (m : ValidatorMap) (metadata : Metadata) (l : LogEntry) : Prop :=
  ∃ e ∈ m.entries, ∃ v ∈ e.2, v.validator.Equipped metadata ∧ Pass.Records metadata l.path v l

namespace Pass

variable {m : ValidatorMap} {metadata : Metadata} {P : LogEntry → Prop}

/-- What may be said of every record may be said of parts of a log. -/
theorem additive_forall_mem (P : LogEntry → Prop) :
    Additive (fun logs => ∀ l ∈ logs, P l) (fun abort => ∀ l ∈ abort.logs, P l) where
  nil := by simp
  append h h' := List.forall_mem_append.2 ⟨h, h'⟩
  behind h h' := List.forall_mem_append.2 ⟨h, h'⟩

/-- Validators on a unit leave their own records. -/
theorem leaves_ofUnit {vs : List BoundValidator} (unit : String) (value : Json)
    (h : ∀ v ∈ vs, ∀ l, Records metadata unit v l → P l) :
    Leaves (fun logs => ∀ l ∈ logs, P l) (fun abort => ∀ l ∈ abort.logs, P l) UnitRun.logs
      (UnitRun.ofUnit unit metadata vs value) := by
  refine leaves_foldlM (fun run v hv hrun => ?_) (additive_forall_mem P).nil
  have hrecord : ∀ l ∈ run.logs ++ [run.record metadata unit v], P l :=
    List.forall_mem_append.2 ⟨hrun, List.forall_mem_singleton.2 (h v hv _ ⟨rfl, rfl, rfl, rfl⟩)⟩
  cases hstep : run.step unit metadata v with
  | ok run' =>
    show ∀ l ∈ run'.logs, P l
    rwa [UnitRun.logs_of_step hstep]
  | error abort =>
    obtain ⟨-, -, -, -, hlogs⟩ := step_eq_error hstep
    show ∀ l ∈ abort.logs, P l
    rwa [hlogs]

/-- In an equipped map all records of a pass are those of validators that had their metadata. -/
theorem leaves_run_ran (h : m.Equipped metadata) (value : Json) :
    Leaves (fun logs => ∀ l ∈ logs, m.Ran metadata l)
      (fun abort => ∀ l ∈ abort.logs, m.Ran metadata l) Pass.logs (Pass.run value m metadata) := by
  refine leaves_run (additive_forall_mem _) fun e he unit value => leaves_ofUnit unit value ?_
  rintro v hv l ⟨hname, rfl, hpolicy, hverdict⟩
  exact ⟨e, he, v, hv, h e he v hv, hname, rfl, hpolicy, hverdict⟩

end Pass

/-- All records of an evaluation are those of validators that had their metadata. -/
theorem Requirements.ran_of_evaluate {r : Requirements} {metadata : Metadata}
    (h : r.validators.Equipped metadata) (response : Response) :
    ∀ l ∈ (r.evaluate response metadata).outputs.logs, r.validators.Ran metadata l := by
  cases hvalue : Extraction.extract? r.schema.shape response.text with
  | none =>
    rw [evaluate_of_unreadable hvalue]
    intro l hl
    cases hl
  | some value =>
    have hleaves := Pass.leaves_run_ran h value
    cases hrun : Pass.run value r.validators metadata with
    | ok pass =>
      rw [hrun] at hleaves
      rw [evaluate_of_run_ok hvalue hrun]
      exact hleaves
    | error abort =>
      rw [hrun] at hleaves
      rw [evaluate_of_run_error hvalue hrun]
      exact hleaves

/-! ## Validators without their metadata -/

section Otherwise

variable {metadata : Metadata} (other : Validator → Json → Metadata → Verdict)

/-- The validator that does something else where it lacks metadata. -/
def Validator.otherwise (v : Validator) : Validator :=
  { v with
    check := fun value metadata =>
      if v.requiredKeys.all metadata.contains then v.check value metadata
      else other v value metadata }

/-- The bound validator that does something else where it lacks metadata. -/
def BoundValidator.otherwise (v : BoundValidator) : BoundValidator :=
  { v with validator := v.validator.otherwise other }

/-- The entry whose validators do something else where they lack metadata. -/
def Entry.otherwise (e : Entry) : Entry := (e.1, e.2.map (·.otherwise other))

/-- The map whose validators do something else where they lack metadata. -/
def ValidatorMap.otherwise (m : ValidatorMap) : ValidatorMap :=
  ⟨m.entries.map (Entry.otherwise other)⟩

/-- The requirements whose validators do something else where they lack metadata. -/
def Requirements.otherwise (r : Requirements) : Requirements :=
  { r with validators := r.validators.otherwise other }

theorem Validator.check_otherwise {v : Validator} (h : v.Equipped metadata) (value : Json) :
    (v.otherwise other).check value metadata = v.check value metadata :=
  if_pos (List.all_eq_true.2 h)

/-- Two folds whose steps agree agree. -/
theorem foldlM_congr {α β ε : Type} {f g : β → α → Except ε β} {as : List α}
    (h : ∀ b, ∀ a ∈ as, f b a = g b a) (b : β) : as.foldlM f b = as.foldlM g b := by
  induction as generalizing b with
  | nil => rfl
  | cons a as ih =>
    rw [List.foldlM_cons, List.foldlM_cons, h b a List.mem_cons_self]
    have hrest : ∀ b, as.foldlM f b = as.foldlM g b := fun b =>
      ih (fun b a ha => h b a (List.mem_cons_of_mem _ ha)) b
    rw [funext hrest]

namespace Pass

theorem step_otherwise {v : BoundValidator} (h : v.validator.Equipped metadata) (unit : String)
    (run : UnitRun) :
    run.step unit metadata (v.otherwise other) = run.step unit metadata v := by
  have hcheck : (v.otherwise other).validator.check run.value metadata =
      v.validator.check run.value metadata := Validator.check_otherwise other h run.value
  unfold UnitRun.step
  rw [hcheck]
  rfl

theorem ofUnit_otherwise {vs : List BoundValidator} (h : ∀ v ∈ vs, v.validator.Equipped metadata)
    (unit : String) (value : Json) :
    UnitRun.ofUnit unit metadata (vs.map (·.otherwise other)) value =
      UnitRun.ofUnit unit metadata vs value := by
  unfold UnitRun.ofUnit
  rw [List.foldlM_map]
  exact foldlM_congr (fun run v hv => step_otherwise other (h v hv) unit run) _

theorem visitEntry_otherwise {e : Entry} (h : ∀ v ∈ e.2, v.validator.Equipped metadata)
    (s : State) : visitEntry metadata s (e.otherwise other) = visitEntry metadata s e := by
  have hunit : visitUnit metadata (e.otherwise other).2 = visitUnit metadata e.2 := by
    funext s unit
    unfold visitUnit Entry.otherwise
    simp only [ofUnit_otherwise other h]
  unfold visitEntry
  rw [hunit]
  rfl

/-- In an equipped map, what validators do without their metadata makes no difference. -/
theorem run_otherwise {m : ValidatorMap} (h : m.Equipped metadata) (value : Json) :
    Pass.run value (m.otherwise other) metadata = Pass.run value m metadata := by
  have horder : (m.otherwise other).processingOrder =
      m.processingOrder.map (Entry.otherwise other) := processingOrder_map m fun _ => rfl
  unfold Pass.run
  rw [horder, List.foldlM_map]
  congr 1
  exact foldlM_congr
    (fun s e he => visitEntry_otherwise other (h e (List.mem_mergeSort.1 he)) s) _

end Pass

/-- Where validators have their metadata, what they do otherwise makes no difference. -/
theorem Requirements.evaluate_otherwise {r : Requirements} (h : r.validators.Equipped metadata)
    (response : Response) :
    (r.otherwise other).evaluate response metadata = r.evaluate response metadata := by
  unfold evaluate otherwise
  simp only [Pass.run_otherwise other h]

end Otherwise

end Guardrail
