import Guardrail.Proofs.Pass.Metadata
import Guardrail.Proofs.Validator.Inserted
import Guardrail.Proofs.Validator.Remade

/-!
# The metadata keys of inserted validators

Of interchangeable validators on a path only the first is attached, and being interchangeable does
not look at the metadata keys that a validator needs. A validator made from a check may be copied
and the copy be said to need more keys; it runs the same check, so that the two are interchangeable.
If the copy comes second, its keys are needed by the check that runs and by nobody asked for.

Results:
* `requires_insert`, `requires_insertAll`: the keys that a map needs after an insertion, and after
  a sequence of them.
* `exists_twin`: next to what is turned down an interchangeable validator is attached.
* `requiredKeys_law`: which keys a map needs, and exactly when none is lost.
* `key_lost_of_copy`: a key that is lost.
-/

namespace Guardrail

/-- A copy of a validator that needs more metadata keys. -/
def Validator.requiring (v : Validator) (keys : List String) : Validator :=
  { v with requiredKeys := v.requiredKeys ++ keys }

/-- Validators that are built in need no metadata. -/
theorem Validator.requiredKeys_of_builtin {v : Validator} (h : v.Builtin) :
    v.requiredKeys = [] := by
  cases h with
  | _ => rfl

namespace ValidatorMap

variable {m : ValidatorMap} {inserts : List (Path × BoundValidator)} {path : Path}
  {v w : BoundValidator} {key : String} {added : Bool}

/-! ## Insertions and their answers -/

/-- Insertions one after another, each with its answer: whether the validator was added. -/
def answered (m : ValidatorMap) :
    List (Path × BoundValidator) → List ((Path × BoundValidator) × Bool)
  | [] => []
  | (path, v) :: rest => ((path, v), (m.insert path v).2) :: (m.insert path v).1.answered rest

theorem map_fst_answered (m : ValidatorMap) (inserts : List (Path × BoundValidator)) :
    (m.answered inserts).map (·.1) = inserts := by
  induction inserts generalizing m with
  | nil => rfl
  | cons e rest ih => rw [answered, List.map_cons, ih]

/-- Every insertion is answered, and only insertions are. -/
theorem exists_answered_iff {e : Path × BoundValidator} :
    (∃ added, (e, added) ∈ m.answered inserts) ↔ e ∈ inserts := by
  have hmap := map_fst_answered m inserts
  constructor
  · rintro ⟨added, hmem⟩
    rw [← hmap]
    exact List.mem_map.2 ⟨_, hmem, rfl⟩
  · intro hmem
    rw [← hmap] at hmem
    obtain ⟨⟨_, added⟩, hanswered, rfl⟩ := List.mem_map.1 hmem
    exact ⟨added, hanswered⟩

/-- One more validator on a path. -/
theorem lookup_insertIn (entries : List Entry) (p path : Path) (v : BoundValidator) :
    ((insertIn p v entries).lookup path).getD [] =
      (entries.lookup path).getD [] ++ if path = p then [v] else [] := by
  induction entries with
  | nil =>
    rw [insertIn, List.lookup_cons]
    cases hbeq : path == p with
    | true => simp [eq_of_beq hbeq]
    | false => simp [ne_of_beq_false hbeq]
  | cons e rest ih =>
    obtain ⟨q, vs⟩ := e
    rw [insertIn]
    split
    · next hq =>
      subst hq
      rw [List.lookup_cons, List.lookup_cons]
      cases hbeq : path == q with
      | true => simp [eq_of_beq hbeq]
      | false => simp [ne_of_beq_false hbeq]
    · next hq =>
      rw [List.lookup_cons, List.lookup_cons]
      cases hbeq : path == q with
      | true =>
        have hp : path ≠ p := fun h => hq ((eq_of_beq hbeq).symm.trans h)
        simp [hp]
      | false => exact ih

/-- What is on a path after an insertion was there before it or has been added by it. -/
theorem mem_get?_insert {p : Path}
    (h : w ∈ (((m.insert p v).1.get? path).getD [])) :
    w ∈ (m.get? path).getD [] ∨ (m.insert p v).2 = true ∧ path = p ∧ w = v := by
  rw [insert] at h ⊢
  split at h
  · exact .inl h
  · next hnew =>
    rw [if_neg hnew]
    change w ∈ ((insertIn p v m.entries).lookup path).getD [] at h
    rw [lookup_insertIn] at h
    rcases List.mem_append.1 h with hold | hadded
    · exact .inl hold
    · split at hadded
      · next hp => exact .inr ⟨rfl, hp, List.mem_singleton.1 hadded⟩
      · cases hadded

/-- What is turned down is interchangeable with a validator that was on the path at first or that
has been added to it. -/
theorem exists_sameAs_of_answered (h : ((path, v), false) ∈ m.answered inserts) :
    (∃ w ∈ (m.get? path).getD [], w.sameAs v = true) ∨
      ∃ w, ((path, w), true) ∈ m.answered inserts ∧ w.sameAs v = true := by
  induction inserts generalizing m with
  | nil => cases h
  | cons e rest ih =>
    obtain ⟨p, u⟩ := e
    rw [answered] at h ⊢
    rcases List.mem_cons.1 h with hhead | htail
    · obtain ⟨⟨rfl, rfl⟩, hfalse⟩ : (path = p ∧ v = u) ∧ false = (m.insert p u).2 := by
        simpa using hhead
      rw [insert] at hfalse
      split at hfalse
      · next hany => exact .inl (List.any_eq_true.1 hany)
      · cases hfalse
    · rcases ih htail with ⟨w, hw, hsame⟩ | ⟨w, hw, hsame⟩
      · rcases mem_get?_insert hw with hold | ⟨hadded, rfl, rfl⟩
        · exact .inl ⟨w, hold, hsame⟩
        · refine .inr ⟨w, ?_, hsame⟩
          rw [hadded]
          exact List.mem_cons_self
      · exact .inr ⟨w, List.mem_cons_of_mem _ hw, hsame⟩

/-- Next to a validator that is turned down, one is attached that is interchangeable with it. -/
theorem exists_twin (h : ((path, v), false) ∈ empty.answered inserts) :
    ∃ w, ((path, w), true) ∈ empty.answered inserts ∧ w.sameAs v = true := by
  rcases exists_sameAs_of_answered h with ⟨w, hw, -⟩ | htwin
  · cases hw
  · exact htwin

/-! ## Needed keys -/

theorem mem_requiredKeys : key ∈ m.requiredKeys ↔ m.Requires key := by
  rw [requiredKeys, List.mem_eraseDups]
  exact mem_keySequence

/-- With one more validator, entries need its keys besides. -/
theorem requires_insertIn (entries : List Entry) :
    (ValidatorMap.mk (insertIn path v entries)).Requires key ↔
      (ValidatorMap.mk entries).Requires key ∨ key ∈ v.validator.requiredKeys := by
  induction entries with
  | nil => simp [Requires, insertIn]
  | cons e rest ih =>
    obtain ⟨p, vs⟩ := e
    simp only [Requires] at ih ⊢
    rw [insertIn]
    split
    · simp only [List.exists_mem_cons_iff, List.mem_append, List.mem_singleton, or_and_right,
        exists_or, exists_eq_left]
      exact or_right_comm
    · simp only [List.exists_mem_cons_iff, ih, or_assoc]

/-- A map needs the keys of a validator that is added to it, and not those of one that is turned
down. -/
theorem requires_insert :
    (m.insert path v).1.Requires key ↔
      m.Requires key ∨ (m.insert path v).2 = true ∧ key ∈ v.validator.requiredKeys := by
  rw [insert]
  split
  · simp
  · rw [requires_insertIn]
    simp

theorem requires_insertAll (m : ValidatorMap) (inserts : List (Path × BoundValidator)) :
    (m.insertAll inserts).Requires key ↔
      m.Requires key ∨
        ∃ path v, ((path, v), true) ∈ m.answered inserts ∧ key ∈ v.validator.requiredKeys := by
  induction inserts generalizing m with
  | nil => simp [insertAll, answered]
  | cons e rest ih =>
    obtain ⟨path, v⟩ := e
    have hstep : m.insertAll ((path, v) :: rest) = (m.insert path v).1.insertAll rest := rfl
    rw [hstep, ih, requires_insert, answered]
    simp only [List.mem_cons, Prod.mk.injEq, or_assoc]
    constructor
    · rintro (hm | ⟨hadded, hkey⟩ | ⟨p, w, hmem, hkey⟩)
      · exact .inl hm
      · exact .inr ⟨path, v, .inl ⟨⟨rfl, rfl⟩, hadded.symm⟩, hkey⟩
      · exact .inr ⟨p, w, .inr hmem, hkey⟩
    · rintro (hm | ⟨p, w, ⟨⟨rfl, rfl⟩, hadded⟩ | hmem, hkey⟩)
      · exact .inl hm
      · exact .inr (.inl ⟨hadded.symm, hkey⟩)
      · exact .inr (.inr ⟨p, w, hmem, hkey⟩)

/-- A key is asked for exactly if a validator that was added needs it. -/
theorem mem_requiredKeys_ofInserts :
    key ∈ (ofInserts inserts).requiredKeys ↔
      ∃ path v, ((path, v), true) ∈ empty.answered inserts ∧ key ∈ v.validator.requiredKeys := by
  rw [mem_requiredKeys, ofInserts, requires_insertAll]
  simp [Requires, empty]

/-- No validator that was turned down needs a key that none that was added needs. -/
def Lossless (inserts : List (Path × BoundValidator)) : Prop :=
  ∀ path v, ((path, v), false) ∈ empty.answered inserts → ∀ key ∈ v.validator.requiredKeys,
    ∃ p w, ((p, w), true) ∈ empty.answered inserts ∧ key ∈ w.validator.requiredKeys

theorem mem_requiredKeys_of_lossless (h : Lossless inserts) (hmem : (path, v) ∈ inserts)
    (hkey : key ∈ v.validator.requiredKeys) : key ∈ (ofInserts inserts).requiredKeys := by
  rw [mem_requiredKeys_ofInserts]
  obtain ⟨added, hanswered⟩ := (exists_answered_iff (m := empty)).2 hmem
  cases added with
  | true => exact ⟨path, v, hanswered, hkey⟩
  | false => exact h path v hanswered key hkey

theorem lossless_iff :
    Lossless inserts ↔ ∀ path v, (path, v) ∈ inserts → ∀ key ∈ v.validator.requiredKeys,
      key ∈ (ofInserts inserts).requiredKeys := by
  constructor
  · intro h path v hmem key hkey
    exact mem_requiredKeys_of_lossless h hmem hkey
  · intro h path v hdown key hkey
    exact mem_requiredKeys_ofInserts.1 (h path v (exists_answered_iff.1 ⟨false, hdown⟩) key hkey)

/-- Metadata that have the keys that a map asks for and no others. -/
def leastMetadata (m : ValidatorMap) : Metadata :=
  .ofList (m.requiredKeys.map fun key => (key, .null))

theorem contains_leastMetadata : m.leastMetadata.contains key = true ↔ key ∈ m.requiredKeys := by
  rw [leastMetadata, Dict.contains_ofList, List.map_map]
  exact iff_of_eq (congrArg (key ∈ ·) (List.map_id _))

theorem checkMetadata_eq_ok_iff_forall {metadata : Metadata} :
    m.checkMetadata metadata = .ok () ↔ ∀ key ∈ m.requiredKeys, metadata.contains key = true := by
  simp only [checkMetadata_eq_ok_iff, mem_requiredKeys, Equipped, Validator.Equipped, Requires]
  constructor
  · rintro h key ⟨e, he, v, hv, hkey⟩
    exact h e he v hv key hkey
  · intro h e he v hv key hkey
    exact h key ⟨e, he, v, hv, hkey⟩

/-! ## Keys that are lost -/

/-- What is asked for after a sequence of insertions: the keys that the validators that were added
need. No key that an inserted validator needs is lost exactly if the sequence is lossless; and
exactly then the check of a call's metadata asks for the keys of every inserted validator. It is
lossless in particular if interchangeable validators on a path need the same keys. A validator that
loses a key is not built in, and one on its path is interchangeable with it and does not need the
key. -/
theorem requiredKeys_law (inserts : List (Path × BoundValidator)) :
    let m := ofInserts inserts
    (∀ key, key ∈ m.requiredKeys ↔
        ∃ path v, ((path, v), true) ∈ empty.answered inserts ∧ key ∈ v.validator.requiredKeys) ∧
      ((∀ key, key ∈ m.requiredKeys ↔
          ∃ path v, (path, v) ∈ inserts ∧ key ∈ v.validator.requiredKeys) ↔ Lossless inserts) ∧
      ((∀ metadata, m.checkMetadata metadata = .ok () →
          ∀ path v, (path, v) ∈ inserts → v.validator.Equipped metadata) ↔ Lossless inserts) ∧
      ((∀ path v w, (path, v) ∈ inserts → (path, w) ∈ inserts → v.sameAs w = true →
          ∀ key, key ∈ v.validator.requiredKeys ↔ key ∈ w.validator.requiredKeys) →
        Lossless inserts) ∧
      ∀ path v key, (path, v) ∈ inserts → key ∈ v.validator.requiredKeys → key ∉ m.requiredKeys →
        ¬ v.validator.Builtin ∧ ∃ w, ((path, w), true) ∈ empty.answered inserts ∧
          w.sameAs v = true ∧ key ∉ w.validator.requiredKeys := by
  intro m
  have hadded : ∀ {path v}, ((path, v), true) ∈ empty.answered inserts → (path, v) ∈ inserts :=
    fun hmem => exists_answered_iff.1 ⟨true, hmem⟩
  refine ⟨fun key => mem_requiredKeys_ofInserts, ?_, ?_, ?_, ?_⟩
  · rw [lossless_iff]
    constructor
    · intro h path v hmem key hkey
      exact (h key).2 ⟨path, v, hmem, hkey⟩
    · refine fun h key => ⟨fun hkey => ?_, fun ⟨path, v, hmem, hkey⟩ => h path v hmem key hkey⟩
      obtain ⟨path, v, hmem, hneeds⟩ := mem_requiredKeys_ofInserts.1 hkey
      exact ⟨path, v, hadded hmem, hneeds⟩
  · rw [lossless_iff]
    simp only [checkMetadata_eq_ok_iff_forall]
    constructor
    · intro h path v hmem key hkey
      have hleast := h m.leastMetadata (fun key hkey => contains_leastMetadata.2 hkey) path v hmem
      exact contains_leastMetadata.1 (hleast key hkey)
    · intro h metadata hcheck path v hmem key hkey
      exact hcheck key (h path v hmem key hkey)
  · intro h path v hdown key hkey
    obtain ⟨w, hw, hsame⟩ := exists_twin hdown
    have hmem : (path, v) ∈ inserts := exists_answered_iff.1 ⟨false, hdown⟩
    exact ⟨path, w, hw, (h path w v (hadded hw) hmem hsame key).2 hkey⟩
  · intro path v key hmem hkey hlost
    obtain ⟨added, hanswered⟩ := (exists_answered_iff (m := empty)).2 hmem
    have hnone : ∀ {p w}, ((p, w), true) ∈ empty.answered inserts →
        key ∉ w.validator.requiredKeys :=
      fun hw hneeds => hlost (mem_requiredKeys_ofInserts.2 ⟨_, _, hw, hneeds⟩)
    cases added with
    | true => exact absurd hkey (hnone hanswered)
    | false =>
      obtain ⟨w, hw, hsame⟩ := exists_twin hanswered
      refine ⟨fun hbuiltin => ?_, w, hw, hsame, hnone hw⟩
      rw [Validator.requiredKeys_of_builtin hbuiltin] at hkey
      cases hkey

/-- A check that reads the metadata key `language` without a claim to it. -/
def languageCheck : Validator :=
  .ofCheck "in-language" (.given "language") [] fun _ metadata =>
    if metadata.contains "language" then .pass else .reject "wrong language"

/-- A copy that claims the key and comes first keeps it. -/
theorem requiredKeys_law_of_copy_first :
    let copy := languageCheck.requiring ["language"]
    let inserts : List (Path × BoundValidator) := [([], ⟨copy, .noop⟩), ([], ⟨languageCheck, .noop⟩)]
    "language" ∈ (ofInserts inserts).requiredKeys ∧ Lossless inserts := by
  intro copy inserts
  obtain ⟨hkeys, hall, -, -, -⟩ := requiredKeys_law inserts
  have hmem : "language" ∈ (ofInserts inserts).requiredKeys :=
    (hkeys "language").2 ⟨[], ⟨copy, .noop⟩, List.mem_cons_self, List.mem_cons_self⟩
  refine ⟨hmem, hall.1 fun key => ⟨fun hkey => ?_, ?_⟩⟩
  · exact ⟨[], ⟨copy, .noop⟩, List.mem_cons_self, hkey⟩
  · rintro ⟨path, v, hv, hkey⟩
    rcases List.mem_cons.1 hv with hcopy | hcheck
    · cases hcopy
      exact hkey
    · cases List.mem_singleton.1 hcheck
      cases hkey

/-- A copy that claims the key and comes second is turned down with it: the check of the metadata
finds nothing missing. -/
theorem key_lost_of_copy :
    let copy := languageCheck.requiring ["language"]
    let inserts : List (Path × BoundValidator) := [([], ⟨languageCheck, .noop⟩), ([], ⟨copy, .noop⟩)]
    let m := ofInserts inserts
    ([], ⟨copy, .noop⟩) ∈ inserts ∧ "language" ∈ copy.requiredKeys ∧ "language" ∉ m.requiredKeys ∧
      m.checkMetadata [] = .ok () ∧ ¬ copy.Equipped [] := by
  intro copy inserts m
  have hkeys : m.requiredKeys = [] := rfl
  refine ⟨by simp [inserts], List.mem_cons_self, by simp [hkeys], rfl, fun h => ?_⟩
  exact Bool.false_ne_true (h "language" List.mem_cons_self)

end ValidatorMap
end Guardrail
