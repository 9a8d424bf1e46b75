import Guardrail.Proofs.Path.Restore
import Guardrail.Proofs.Path.Rewrite

/-!
# Where the parts of a rewritten value come from

What stands at a path in a rewritten value stood somewhere in the value before, and if that was an
end point of the rewrite it is the answer given there.

Results:
* `get?_foldr_answerAt_restore`: what stands at a path after units were answered.
-/

namespace Guardrail.Path

variable {answer : Json → Option Json} {us : List Path} {u w : Path} {d : Json} {n : Nat}

/-- The units that go, in document order. -/
def dropped (answer : Json → Option Json) (d : Json) (us : List Path) : List Path :=
  us.filter fun w => ((get? w d).bind answer).isNone

theorem dropped_subset {r : Path} (h : r ∈ dropped answer d us) : r ∈ us :=
  (List.mem_filter.1 h).1

theorem dropped_cons_of_some {found v : Json} (hfound : get? w d = some found)
    (hanswer : answer found = some v) : dropped answer d (w :: us) = dropped answer d us :=
  List.filter_cons_of_neg (by simp [hfound, hanswer])

theorem dropped_cons_of_none {found : Json} (hfound : get? w d = some found)
    (hanswer : answer found = none) : dropped answer d (w :: us) = w :: dropped answer d us :=
  List.filter_cons_of_pos (by simp [hfound, hanswer])

/-- What stands at a path after one unit of its depth got a value. -/
theorem get?_answerAt_of_some {found v : Json} (hlen : u.length = w.length)
    (hfound : get? w d = some found) (hanswer : answer found = some v) :
    get? u (answerAt answer w d) = if u = w then some v else get? u d := by
  unfold answerAt
  simp only [hfound, hanswer]
  split_ifs with huw
  · subst huw
    exact get?_set_self (by rw [hfound]; rfl)
  · exact get?_set_of_apart (apart_of_length_eq hlen huw)

/-- What stands at a path after one unit of its depth went. -/
theorem get?_answerAt_of_none {found : Json} (hlen : u.length = w.length) (hw : w ≠ [])
    (hd : d.OrderedTo w.length) (hfound : get? w d = some found) (hanswer : answer found = none)
    (hu : (get? u (answerAt answer w d)).isSome) :
    get? u (answerAt answer w d) = get? (restore w u) d ∧ restore w u ≠ w := by
  unfold answerAt at hu ⊢
  simp only [hfound, hanswer] at hu ⊢
  exact get?_remove hd hlen hw (by rw [hfound]; rfl) hu

/-- What stands at a path after units of its depth were answered is what stood at the restored path
before, or the answer to it. -/
theorem get?_foldr_answerAt_restore (hus : us.Pairwise Before)
    (hunit : ∀ w ∈ us, w.length = n ∧ (get? w d).isSome) (hn : 0 < n) (hd : d.OrderedTo n)
    (hlen : u.length = n) (hu : (get? u (us.foldr (answerAt answer) d)).isSome) :
    get? u (us.foldr (answerAt answer) d) =
      (get? (restoreAll (dropped answer d us) u) d).bind
        (if restoreAll (dropped answer d us) u ∈ us then answer else some) := by
  induction us generalizing u with
  | nil => simp [dropped, restoreAll]
  | cons w ws ih =>
    obtain ⟨hw, hws⟩ := List.pairwise_cons.1 hus
    obtain ⟨hwlen, hwsome⟩ := hunit w List.mem_cons_self
    have hunit' : ∀ w' ∈ ws, w'.length = n ∧ (get? w' d).isSome :=
      fun w' hw' => hunit w' (List.mem_cons_of_mem _ hw')
    obtain ⟨found, hfound⟩ := Option.isSome_iff_exists.1 hwsome
    have hsame : get? w (ws.foldr (answerAt answer) d) = some found := by
      rw [get?_foldr_answerAt hw, hfound]
    have hlen' : u.length = w.length := hlen.trans hwlen.symm
    -- what stood elsewhere was not at the unit itself
    have hother : ∀ u', u' ≠ w → restoreAll (dropped answer d ws) u' ≠ w := fun u' hne heq =>
      hne (eq_of_restoreAll_eq (fun r hr => hw r (dropped_subset hr)) heq)
    rw [List.foldr_cons] at hu ⊢
    cases hanswer : answer found with
    | some v =>
      rw [get?_answerAt_of_some hlen' hsame hanswer] at hu ⊢
      rw [dropped_cons_of_some hfound hanswer]
      by_cases huw : u = w
      · subst huw
        have hstays : restoreAll (dropped answer d ws) u = u :=
          restoreAll_eq_self_iff.2 fun r hr => not_moves_of_before (hw r (dropped_subset hr))
        rw [if_pos rfl, hstays, if_pos List.mem_cons_self, hfound, Option.bind_some, hanswer]
      · rw [if_neg huw] at hu ⊢
        rw [ih hws hunit' hlen hu]
        simp only [List.mem_cons, hother u huw, false_or]
    | none =>
      have hne : w ≠ [] := by
        rintro rfl
        simp at hwlen
        omega
      have hordered : (ws.foldr (answerAt answer) d).OrderedTo w.length := by
        rw [hwlen]
        exact orderedTo_foldr_answerAt (fun w' hw' => (hunit' w' hw').1) hd
      obtain ⟨heq, hrestore⟩ := get?_answerAt_of_none hlen' hne hordered hsame hanswer hu
      rw [heq] at hu ⊢
      rw [dropped_cons_of_none hfound hanswer, restoreAll_cons,
        ih hws hunit' ((length_restore w u).trans hlen) hu]
      simp only [List.mem_cons, hother _ hrestore, false_or]

end Guardrail.Path
