import Guardrail.Proofs.Pass.Structural
import Guardrail.Proofs.Path.Units
import Guardrail.Proofs.Validator.Inserted

/-!
# The order in which entries are validated

The entries of a map are validated from deep to shallow, and those of equal depth in the order in
which their paths were inserted. What a path addresses below the units of another path is deeper
than they are, so its entry comes first.

Results:
* `filter_processingOrder`: entries of equal depth keep their order.
* `pair_sublist_processingOrder`: an entry comes after every entry of a deeper path.
* `ofInserts_law`: what insertions make of a map, and in which order its entries are validated.
-/

namespace Guardrail.ValidatorMap

variable {m : ValidatorMap} {a b : Entry} {u w : Path}

theorem processingOrder_perm (m : ValidatorMap) : m.processingOrder.Perm m.entries :=
  List.mergeSort_perm _ _

/-- Entries of equal depth keep the order of insertion. -/
theorem filter_processingOrder (m : ValidatorMap) (n : Nat) :
    m.processingOrder.filter (·.1.depth == n) = m.entries.filter (·.1.depth == n) := by
  let level := m.entries.filter (·.1.depth == n)
  have hlevel : level.Pairwise fun a b => decide (b.1.depth ≤ a.1.depth) = true := by
    apply List.pairwise_of_forall_mem_list
    intro a ha b hb
    have ha' : a.1.depth = n := by simpa using (List.mem_filter.1 ha).2
    have hb' : b.1.depth = n := by simpa using (List.mem_filter.1 hb).2
    simp only [decide_eq_true_eq]
    omega
  have hsub : level.Sublist m.processingOrder := by
    apply List.sublist_mergeSort _ _ hlevel List.filter_sublist
    · intro a b c hab hbc
      simp only [decide_eq_true_eq] at hab hbc ⊢
      omega
    · intro a b
      simp only [Bool.or_eq_true, decide_eq_true_eq]
      omega
  have hkept : level.filter (·.1.depth == n) = level := by simp [level, List.filter_filter]
  have hfilter : level.Sublist (m.processingOrder.filter (·.1.depth == n)) := by
    rw [← hkept]
    exact hsub.filter _
  have hlength : level.length = (m.processingOrder.filter (·.1.depth == n)).length :=
    ((processingOrder_perm m).filter _).length_eq.symm
  exact (hfilter.eq_of_length hlength).symm

/-- An entry comes after every entry of a deeper path. -/
theorem pair_sublist_processingOrder (ha : a ∈ m.entries) (hb : b ∈ m.entries)
    (hdeep : a.1.depth < b.1.depth) : [b, a].Sublist m.processingOrder := by
  have hmem : b ∈ m.processingOrder := (processingOrder_perm m).mem_iff.2 hb
  obtain ⟨before, after, hsplit⟩ := List.append_of_mem hmem
  have ha' : a ∈ before ++ b :: after := hsplit ▸ (processingOrder_perm m).mem_iff.2 ha
  have hsorted := Pass.processingOrder_pairwise m
  rw [hsplit] at hsorted ⊢
  rcases List.mem_append.1 ha' with hfront | hback
  · -- the deeper one would come after
    have hle := (List.pairwise_append.1 hsorted).2.2 a hfront b List.mem_cons_self
    simp only [Path.depth] at hdeep
    omega
  · rcases List.mem_cons.1 hback with rfl | hafter
    · omega
    · have hrest : [b, a].Sublist (b :: after) := by
        simpa using hafter
      exact hrest.trans (List.sublist_append_right before _)

/-- What insertions make of a map. No path is without validators, and no two validators of a path
are interchangeable. The paths stand in the order of their first insertion, each with the validators
inserted there that are not interchangeable with an earlier one. Those are the insertions that are
not turned down, and one that is turned down changes nothing; so the same insertions all over again
change nothing. The entries are validated once each, from deep to shallow, those of equal depth in
the order of insertion, and an entry comes after every entry with a unit below one of its own. -/
theorem ofInserts_law (inserts : List (Path × BoundValidator)) :
    let m := ofInserts inserts
    (∀ e ∈ m.entries, e.2 ≠ [] ∧ e.2.Pairwise fun v w => v.sameAs w = false ∧ w.sameAs v = false) ∧
      m.entries.map (·.1) = (inserts.map (·.1)).eraseDups ∧
      (∀ path, (m.get? path).getD [] = BoundValidator.firsts (insertedOn path inserts)) ∧
      (∀ path v,
        ((m.insert path v).2 = false ↔ ∃ w, (path, w) ∈ inserts ∧ w.sameAs v = true) ∧
          ((m.insert path v).2 = false → (m.insert path v).1 = m)) ∧
      ofInserts (inserts ++ inserts) = m ∧
      m.processingOrder.Perm m.entries ∧ (m.processingOrder.map (·.1)).Nodup ∧
      (m.processingOrder.Pairwise fun a b => b.1.depth ≤ a.1.depth) ∧
      (∀ n, m.processingOrder.filter (·.1.depth == n) = m.entries.filter (·.1.depth == n)) ∧
      ∀ a ∈ m.entries, ∀ b ∈ m.entries, ∀ u w, a.1.StandsFor u → b.1.StandsFor w →
        u <+: w → u ≠ w → [b, a].Sublist m.processingOrder := by
  intro m
  have hperm := processingOrder_perm m
  have hpaths : m.entries.map (·.1) = insertedPaths inserts := map_fst_entries_ofInserts inserts
  refine ⟨?_, hpaths, ?_, ?_, ?_, hperm, ?_, Pass.processingOrder_pairwise m,
    filter_processingOrder m, ?_⟩
  · intro e he
    rw [entries_ofInserts] at he
    obtain ⟨path, hpath, rfl⟩ := List.mem_map.1 he
    obtain ⟨v, hv⟩ := mem_insertedPaths.1 hpath
    refine ⟨BoundValidator.firsts_ne_nil ?_, BoundValidator.firsts_pairwise _⟩
    exact List.ne_nil_of_mem (mem_insertedOn.2 hv)
  · intro path
    show ((ofInserts inserts).get? path).getD [] = _
    rw [ofInserts_eq_listed, get?_listed]
  · intro path v
    exact ⟨insert_snd_eq_false_iff, insert_of_not_added⟩
  · show (empty.insertAll (inserts ++ inserts)) = _
    rw [insertAll_append]
    exact insertAll_ofInserts_of_subset fun e he => he
  · have hnodup : (m.entries.map (·.1)).Nodup := hpaths ▸ nodup_insertedPaths inserts
    exact (hperm.map _).nodup_iff.2 hnodup
  · intro a ha b hb u w hu hw huw hne
    have hlen : u.length < w.length := by
      apply Nat.lt_of_le_of_ne huw.length_le
      intro heq
      exact hne (huw.eq_of_length heq)
    apply pair_sublist_processingOrder ha hb
    unfold Path.depth
    rw [← hu.length_eq, ← hw.length_eq]
    exact hlen

end Guardrail.ValidatorMap
