import Mathlib.Data.List.Induction
import Guardrail.Proofs.Json.Equality
import Guardrail.ValidatorMap

/-!
# Maps made by insertions

Whatever is inserted into a map of validators, and in whatever order, the map has the paths in the
order of their first insertion, and with each path the validators that were inserted on it, in
order, without those that are interchangeable with an earlier one. This form depends on nothing else
than the insertions, and all that is said of a map follows from it.

Results:
* `BoundValidator.sameAs_self`, `BoundValidator.sameAs_symm`, `BoundValidator.sameAs_trans`: being
  interchangeable is an equivalence.
* `entries_ofInserts`: the entries after a sequence of insertions.
* `insert_snd_eq_false_iff`: which insertions are turned down.
* `insertAll_ofInserts_of_subset`: what is inserted again changes nothing.
-/

namespace Guardrail

/-! ## Interchangeable validators -/

namespace BoundValidator

variable {u v w : BoundValidator}

theorem sameAs_iff :
    v.sameAs w = true ↔ v.policy = w.policy ∧ v.name = w.name ∧
      v.validator.checkId = w.validator.checkId ∧
        (Json.obj v.validator.args).beq (Json.obj w.validator.args) = true := by
  simp only [sameAs, Bool.and_eq_true, beq_iff_eq, and_assoc]
  rfl

theorem sameAs_self (v : BoundValidator) : v.sameAs v = true :=
  sameAs_iff.2 ⟨rfl, rfl, rfl, Json.beq_self _⟩

theorem sameAs_symm (h : v.sameAs w = true) : w.sameAs v = true := by
  obtain ⟨hpolicy, hname, hcheck, hargs⟩ := sameAs_iff.1 h
  exact sameAs_iff.2 ⟨hpolicy.symm, hname.symm, hcheck.symm, Json.beq_symm hargs⟩

theorem sameAs_trans (h : u.sameAs v = true) (h' : v.sameAs w = true) : u.sameAs w = true := by
  obtain ⟨hpolicy, hname, hcheck, hargs⟩ := sameAs_iff.1 h
  obtain ⟨hpolicy', hname', hcheck', hargs'⟩ := sameAs_iff.1 h'
  exact sameAs_iff.2 ⟨hpolicy.trans hpolicy', hname.trans hname', hcheck.trans hcheck',
    Json.beq_trans hargs hargs'⟩

/-- The validators that are not interchangeable with an earlier one, after some earlier ones. -/
def firstsAfter (earlier : List BoundValidator) : List BoundValidator → List BoundValidator
  | [] => []
  | v :: vs =>
    if earlier.any (·.sameAs v) then firstsAfter (earlier ++ [v]) vs
    else v :: firstsAfter (earlier ++ [v]) vs

/-- The validators of a list that are not interchangeable with an earlier one. -/
def firsts (vs : List BoundValidator) : List BoundValidator := firstsAfter [] vs

variable {vs earlier : List BoundValidator}

theorem firstsAfter_concat (earlier vs : List BoundValidator) (v : BoundValidator) :
    firstsAfter earlier (vs ++ [v]) =
      firstsAfter earlier vs ++ if (earlier ++ vs).any (·.sameAs v) then [] else [v] := by
  induction vs generalizing earlier with
  | nil => simp [firstsAfter]
  | cons w vs ih =>
    have hearlier : earlier ++ [w] ++ vs = earlier ++ w :: vs := by simp
    rw [List.cons_append, firstsAfter, firstsAfter, ih, hearlier]
    split
    · rfl
    · rfl

theorem firsts_concat (vs : List BoundValidator) (v : BoundValidator) :
    firsts (vs ++ [v]) = if vs.any (·.sameAs v) then firsts vs else firsts vs ++ [v] := by
  rw [firsts, firsts, firstsAfter_concat, List.nil_append]
  split
  · rw [List.append_nil]
  · rfl

/-- A validator that is interchangeable with any is so with one that comes first. -/
theorem any_firsts (vs : List BoundValidator) (v : BoundValidator) :
    (firsts vs).any (·.sameAs v) = vs.any (·.sameAs v) := by
  induction vs using List.reverseRecOn with
  | nil => rfl
  | append_singleton vs w ih =>
    rw [firsts_concat, List.any_append]
    split
    · next hw =>
      rw [ih]
      cases hv : vs.any (·.sameAs v) with
      | true => rfl
      | false =>
        -- what is interchangeable with the new one is so with the earlier one it repeats
        obtain ⟨u, hu, huw⟩ := List.any_eq_true.1 hw
        have huv : ¬ u.sameAs v = true := by
          rw [List.any_eq_false] at hv
          exact hv u hu
        have hwv : w.sameAs v = false := by
          rw [Bool.eq_false_iff]
          intro hwv
          exact huv (sameAs_trans huw hwv)
        simp [hwv]
    · rw [List.any_append, ih]

theorem firsts_pairwise (vs : List BoundValidator) :
    (firsts vs).Pairwise fun v w => v.sameAs w = false ∧ w.sameAs v = false := by
  induction vs using List.reverseRecOn with
  | nil => exact .nil
  | append_singleton vs w ih =>
    rw [firsts_concat]
    split
    · exact ih
    · next hw =>
      have hnew : ∀ u ∈ firsts vs, u.sameAs w = false := by
        rw [← any_firsts, List.any_eq_true] at hw
        intro u hu
        rw [Bool.eq_false_iff]
        intro huw
        exact hw ⟨u, hu, huw⟩
      refine List.pairwise_append.2 ⟨ih, List.pairwise_singleton _ _, ?_⟩
      intro u hu x hx
      obtain rfl := List.mem_singleton.1 hx
      have huw := hnew u hu
      refine ⟨huw, ?_⟩
      rw [Bool.eq_false_iff] at huw ⊢
      intro hwu
      exact huw (sameAs_symm hwu)

theorem firsts_ne_nil (h : vs ≠ []) : firsts vs ≠ [] := by
  obtain ⟨v, hv⟩ := List.exists_mem_of_ne_nil vs h
  intro hnil
  have hany : (firsts vs).any (·.sameAs v) = true := by
    rw [any_firsts, List.any_eq_true]
    exact ⟨v, hv, sameAs_self v⟩
  rw [hnil] at hany
  cases hany

end BoundValidator

/-! ## Insertions -/

namespace ValidatorMap

open BoundValidator (firsts firsts_concat any_firsts)

/-- The map after insertions, one after another. -/
def insertAll (m : ValidatorMap) (inserts : List (Path × BoundValidator)) : ValidatorMap :=
  inserts.foldl (fun m e => (m.insert e.1 e.2).1) m

/-- The map made by insertions. -/
def ofInserts (inserts : List (Path × BoundValidator)) : ValidatorMap := empty.insertAll inserts

/-- The paths of insertions, each once, in the order of their first insertion. -/
def insertedPaths (inserts : List (Path × BoundValidator)) : List Path :=
  (inserts.map (·.1)).eraseDups

/-- The validators that are inserted on a path, in order. -/
def insertedOn (path : Path) (inserts : List (Path × BoundValidator)) : List BoundValidator :=
  (inserts.filter (·.1 == path)).map (·.2)

variable {m : ValidatorMap} {inserts : List (Path × BoundValidator)} {path p : Path}
  {v : BoundValidator} {paths : List Path} {f : Path → List BoundValidator}

theorem insert_of_not_added (h : (m.insert path v).2 = false) : (m.insert path v).1 = m := by
  rw [insert] at h ⊢
  split
  · rfl
  · next hnew =>
    rw [if_neg hnew] at h
    cases h

theorem insertAll_append (m : ValidatorMap) (before after : List (Path × BoundValidator)) :
    m.insertAll (before ++ after) = (m.insertAll before).insertAll after :=
  List.foldl_append

/-- The validators on a path of a map that lists them path by path. -/
theorem lookup_map_mk (paths : List Path) (f : Path → List BoundValidator) (path : Path) :
    (paths.map fun p => (p, f p)).lookup path = if path ∈ paths then some (f path) else none := by
  induction paths with
  | nil => rfl
  | cons p paths ih =>
    rw [List.map_cons, List.lookup_cons, ih]
    by_cases hp : path = p
    · simp [hp]
    · have hbeq : (path == p) = false := by simpa using hp
      simp [hp, hbeq]

/-- One more validator in a list of entries. -/
theorem insertIn_map_mk (hpaths : paths.Nodup) (hf : path ∉ paths → f path = []) :
    insertIn path v (paths.map fun p => (p, f p)) =
      (if path ∈ paths then paths else paths ++ [path]).map fun p =>
        (p, if p = path then f p ++ [v] else f p) := by
  induction paths with
  | nil => simp [insertIn, hf]
  | cons p paths ih =>
    obtain ⟨hp, hpaths⟩ := List.nodup_cons.1 hpaths
    rw [List.map_cons, insertIn]
    by_cases heq : p = path
    · subst heq
      have hrest : ∀ q ∈ paths, (q, if q = p then f q ++ [v] else f q) = (q, f q) := by
        intro q hq
        have hne : q ≠ p := fun h => hp (h ▸ hq)
        rw [if_neg hne]
      simp [List.map_congr_left hrest]
    · have hmem : path ∈ p :: paths ↔ path ∈ paths := by simp [Ne.symm heq]
      rw [if_neg heq, ih hpaths (fun h => hf (mt hmem.1 h))]
      simp only [hmem]
      split
      · simp [heq]
      · simp [heq]

/-! ## The entries -/

theorem mem_insertedPaths : path ∈ insertedPaths inserts ↔ ∃ v, (path, v) ∈ inserts := by
  simp [insertedPaths, List.mem_eraseDups]

theorem insertedPaths_concat (inserts : List (Path × BoundValidator)) (path : Path)
    (v : BoundValidator) :
    insertedPaths (inserts ++ [(path, v)]) =
      if path ∈ insertedPaths inserts then insertedPaths inserts
      else insertedPaths inserts ++ [path] := by
  simp only [insertedPaths, List.map_append, List.map_cons, List.map_nil, List.eraseDups_append,
    List.mem_eraseDups]
  split
  · next hmem => simp [List.removeAll, hmem]
  · next hmem => simp [List.removeAll, hmem, List.eraseDups_cons]

theorem nodup_insertedPaths (inserts : List (Path × BoundValidator)) :
    (insertedPaths inserts).Nodup := by
  induction inserts using List.reverseRecOn with
  | nil => exact List.nodup_nil
  | append_singleton inserts e ih =>
    rw [insertedPaths_concat]
    split
    · exact ih
    · next hnew =>
      rw [List.nodup_append]
      refine ⟨ih, by simp, ?_⟩
      intro p hp q hq heq
      rw [List.mem_singleton.1 hq] at heq
      exact hnew (heq ▸ hp)

theorem mem_insertedOn : v ∈ insertedOn path inserts ↔ (path, v) ∈ inserts := by
  simp [insertedOn]

theorem insertedOn_concat (inserts : List (Path × BoundValidator)) (path p : Path)
    (v : BoundValidator) :
    insertedOn p (inserts ++ [(path, v)]) =
      if p = path then insertedOn p inserts ++ [v] else insertedOn p inserts := by
  by_cases hp : p = path
  · simp [insertedOn, hp]
  · simp [insertedOn, hp, Ne.symm hp]

theorem insertedOn_eq_nil (h : path ∉ insertedPaths inserts) : insertedOn path inserts = [] := by
  rw [List.eq_nil_iff_forall_not_mem]
  intro v hv
  exact h (mem_insertedPaths.2 ⟨v, mem_insertedOn.1 hv⟩)

/-- The map that lists, path by path, what comes first of the validators inserted there. -/
def listed (inserts : List (Path × BoundValidator)) : ValidatorMap :=
  ⟨(insertedPaths inserts).map fun p => (p, firsts (insertedOn p inserts))⟩

theorem get?_listed (inserts : List (Path × BoundValidator)) (path : Path) :
    ((listed inserts).get? path).getD [] = firsts (insertedOn path inserts) := by
  rw [get?, listed, lookup_map_mk]
  split
  · rfl
  · next hnew => simp [insertedOn_eq_nil hnew, firsts, BoundValidator.firstsAfter]

/-- The entries of one more insertion, if it is not turned down. -/
theorem insertIn_listed (h : (insertedOn path inserts).any (·.sameAs v) = false) :
    insertIn path v (listed inserts).entries = (listed (inserts ++ [(path, v)])).entries := by
  have hnew : path ∉ insertedPaths inserts → firsts (insertedOn path inserts) = [] := by
    intro hpath
    rw [insertedOn_eq_nil hpath]
    rfl
  have hfirsts : ∀ p, firsts (insertedOn p (inserts ++ [(path, v)])) =
      if p = path then firsts (insertedOn p inserts) ++ [v] else firsts (insertedOn p inserts) := by
    intro p
    rw [insertedOn_concat]
    split
    · next hp => rw [firsts_concat, hp, h, if_neg Bool.false_ne_true]
    · rfl
  simp only [listed, hfirsts, insertedPaths_concat]
  exact insertIn_map_mk (nodup_insertedPaths inserts) hnew

/-- An insertion that is turned down leaves the entries as they are. -/
theorem listed_concat_of_any (h : (insertedOn path inserts).any (·.sameAs v) = true) :
    listed (inserts ++ [(path, v)]) = listed inserts := by
  have hpath : path ∈ insertedPaths inserts := by
    by_contra hnew
    rw [insertedOn_eq_nil hnew] at h
    cases h
  have hfirsts : ∀ p, firsts (insertedOn p (inserts ++ [(path, v)])) =
      firsts (insertedOn p inserts) := by
    intro p
    rw [insertedOn_concat]
    split
    · next hp => rw [firsts_concat, hp, h, if_pos rfl]
    · rfl
  simp only [listed, hfirsts, insertedPaths_concat, if_pos hpath]

/-- An insertion is turned down if what is inserted on the path is interchangeable with it. -/
theorem insert_listed (inserts : List (Path × BoundValidator)) (path : Path) (v : BoundValidator) :
    (listed inserts).insert path v =
      (listed (inserts ++ [(path, v)]), !(insertedOn path inserts).any (·.sameAs v)) := by
  rw [insert, get?_listed, any_firsts]
  cases h : (insertedOn path inserts).any (·.sameAs v) with
  | true => rw [if_pos rfl, listed_concat_of_any h, Bool.not_true]
  | false => rw [if_neg Bool.false_ne_true, insertIn_listed h, Bool.not_false]

/-- The map made by insertions lists them path by path. -/
theorem ofInserts_eq_listed (inserts : List (Path × BoundValidator)) :
    ofInserts inserts = listed inserts := by
  induction inserts using List.reverseRecOn with
  | nil => rfl
  | append_singleton inserts e ih =>
    obtain ⟨path, v⟩ := e
    have hstep : ofInserts (inserts ++ [(path, v)]) = ((ofInserts inserts).insert path v).1 :=
      insertAll_append empty inserts [(path, v)]
    rw [hstep, ih, insert_listed]

/-- The entries after a sequence of insertions. -/
theorem entries_ofInserts (inserts : List (Path × BoundValidator)) :
    (ofInserts inserts).entries =
      (insertedPaths inserts).map fun p => (p, firsts (insertedOn p inserts)) := by
  rw [ofInserts_eq_listed, listed]

theorem map_fst_entries_ofInserts (inserts : List (Path × BoundValidator)) :
    (ofInserts inserts).entries.map (·.1) = insertedPaths inserts := by
  rw [entries_ofInserts, List.map_map]
  exact List.map_id _

/-- The insertions that are turned down are those of validators that are interchangeable with one
inserted earlier on the same path. -/
theorem insert_snd_eq_false_iff :
    ((ofInserts inserts).insert path v).2 = false ↔
      ∃ w, (path, w) ∈ inserts ∧ w.sameAs v = true := by
  rw [ofInserts_eq_listed, insert_listed, Bool.not_eq_false', List.any_eq_true]
  simp only [mem_insertedOn]

/-- Insertions that were all made before change nothing. -/
theorem insertAll_ofInserts_of_subset {again : List (Path × BoundValidator)}
    (h : ∀ e ∈ again, e ∈ inserts) : (ofInserts inserts).insertAll again = ofInserts inserts := by
  induction again with
  | nil => rfl
  | cons e again ih =>
    obtain ⟨he, hagain⟩ := List.forall_mem_cons.1 h
    have hsame : ((ofInserts inserts).insert e.1 e.2).1 = ofInserts inserts := by
      apply insert_of_not_added
      exact insert_snd_eq_false_iff.2 ⟨e.2, he, e.2.sameAs_self⟩
    show ((ofInserts inserts).insert e.1 e.2).1.insertAll again = _
    rw [hsame, ih hagain]

end ValidatorMap
end Guardrail
