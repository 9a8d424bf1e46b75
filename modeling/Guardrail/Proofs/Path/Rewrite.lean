import Guardrail.Proofs.Path.Units

/-!
# Rewriting a value at the end points of a path

An answer gives for each value met at an end point what takes its place, or that it goes. A rewrite
follows the path through the structure of the value and answers at each end point; what goes is
dropped from its array or object, and all other children stay where they are.

The same comes about unit by unit: the units of the path are answered in place, from the last to the
first, so that a removal never moves a unit that is still to be answered.

Results:
* `foldr_answerAt_resolve`: answering the units of a path from the last to the first is the rewrite.
* `foldr_answerAt_of_pairwise`: on units in document order, replacing on the way forward and
  removing on the way back is the same as answering from the last to the first.
* `orderedTo_foldr_answerAt`: answering units keeps objects in key order down to their depth.
-/

namespace Guardrail

/-- The value with the child at a step replaced, or without it. -/
def Segment.update (t : Segment) (left : Option Json) (j : Json) : Json :=
  match left with
  | some c => t.replaceChild c j
  | none => t.eraseChild j

namespace Path

/-! ## The structural rewrite -/

/-- What is left of a value when each end point of a path is answered; nothing, if the value itself
goes. Where the shape of the value does not match the path, nothing is rewritten. -/
def rewrite (answer : Json → Option Json) : Path → Json → Option Json
  | [], j => answer j
  | s :: p, .arr items =>
    some (.arr (items.zipIdx.filterMap fun e =>
      if s.reaches (.index e.2) then rewrite answer p e.1 else some e.1))
  | s :: p, .obj members =>
    some (.obj (members.filterMap fun e =>
      if s.reaches (.key e.1) then (rewrite answer p e.2).map (e.1, ·) else some e))
  | _ :: _, j => some j

/-- The unit gets its answer in place. -/
def answerAt (answer : Json → Option Json) (u : Path) (j : Json) : Json :=
  match get? u j with
  | none => j
  | some found =>
    match answer found with
    | some v => set u v j
    | none => remove u j

/-- The units get their answers one after another, those that go only at the end, the last one
first. -/
def answerForward (answer : Json → Option Json) : List Path → Json → Json
  | [], j => j
  | u :: us, j =>
    match get? u j with
    | none => answerForward answer us j
    | some found =>
      match answer found with
      | some v => answerForward answer us (set u v j)
      | none => remove u (answerForward answer us j)

variable {answer : Json → Option Json} {s t : Segment} {p u w : Path} {us : List Path}
  {j c v : Json}

theorem rewrite_cons_isSome : (rewrite answer (s :: p) j).isSome := by
  cases j <;> rfl

/-! ## Answering forwards and backwards -/

theorem get?_answerAt_of_before (h : Before u w) : get? u (answerAt answer w j) = get? u j := by
  unfold answerAt
  split
  · rfl
  · split
    · exact get?_set_of_apart h.apart
    · exact get?_remove_of_before h

theorem set_answerAt_comm (h : Before u w) :
    set u v (answerAt answer w j) = answerAt answer w (set u v j) := by
  unfold answerAt
  rw [get?_set_of_apart h.apart.symm]
  split
  · rfl
  · split
    · exact set_set_comm h.apart
    · exact set_remove_comm h

theorem get?_foldr_answerAt (h : ∀ w ∈ us, Before u w) :
    get? u (us.foldr (answerAt answer) j) = get? u j := by
  induction us with
  | nil => rfl
  | cons w us ih =>
    rw [List.foldr_cons, get?_answerAt_of_before (h w List.mem_cons_self),
      ih fun w' hw => h w' (List.mem_cons_of_mem _ hw)]

theorem set_foldr_answerAt (h : ∀ w ∈ us, Before u w) :
    us.foldr (answerAt answer) (set u v j) = set u v (us.foldr (answerAt answer) j) := by
  induction us with
  | nil => rfl
  | cons w us ih =>
    rw [List.foldr_cons, List.foldr_cons, ih fun w' hw => h w' (List.mem_cons_of_mem _ hw),
      set_answerAt_comm (h w List.mem_cons_self)]

/-- On units in document order a removal put off to the end finds its unit where it was. -/
theorem foldr_answerAt_of_pairwise (h : us.Pairwise Before) (j : Json) :
    us.foldr (answerAt answer) j = answerForward answer us j := by
  induction us generalizing j with
  | nil => rfl
  | cons u us ih =>
    obtain ⟨hu, hus⟩ := List.pairwise_cons.1 h
    rw [List.foldr_cons, answerAt, answerForward, get?_foldr_answerAt hu]
    cases hfound : get? u j with
    | none => exact ih hus j
    | some found =>
      dsimp only
      cases answer found with
      | some v => exact (set_foldr_answerAt hu).symm.trans (ih hus _)
      | none => exact congrArg (remove u) (ih hus j)

/-! ## Answering below one child -/

theorem answerAt_singleton (h : t.child? j = some c) :
    answerAt answer [t] j = t.update (answer c) j := by
  have hget : get? [t] j = some c := by rw [get?_cons h, get?]
  unfold answerAt Segment.update
  rw [hget]
  dsimp only
  cases answer c with
  | some v => exact set_cons h
  | none => exact remove_singleton

theorem answerAt_cons (hu : u ≠ []) (h : t.child? j = some c) :
    answerAt answer (t :: u) j = t.replaceChild (answerAt answer u c) j := by
  unfold answerAt
  rw [get?_cons h]
  cases get? u c with
  | none => exact (Segment.replaceChild_eq_self h).symm
  | some found =>
    dsimp only
    cases answer found with
    | some v => exact set_cons h
    | none => exact remove_cons hu h

theorem foldr_answerAt_cons (hus : ∀ u ∈ us, u ≠ []) (h : t.child? j = some c) :
    (us.map (t :: ·)).foldr (answerAt answer) j =
      t.replaceChild (us.foldr (answerAt answer) c) j := by
  induction us with
  | nil => exact (Segment.replaceChild_eq_self h).symm
  | cons u us ih =>
    rw [List.map_cons, List.foldr_cons, List.foldr_cons,
      ih fun w hw => hus w (List.mem_cons_of_mem _ hw),
      answerAt_cons (hus u List.mem_cons_self) (Segment.child?_replaceChild_self h),
      Segment.replaceChild_replaceChild_self]

/-- The units of a path below one child rewrite that child. -/
theorem foldr_answerAt_child (h : t.child? j = some c)
    (ih : (resolve p c).foldr (answerAt answer) c = (rewrite answer p c).getD .null) :
    ((resolve p c).map (t :: ·)).foldr (answerAt answer) j =
      t.update (rewrite answer p c) j := by
  cases p with
  | nil => exact answerAt_singleton h
  | cons s p =>
    have hsome : (rewrite answer (s :: p) c).isSome := rewrite_cons_isSome
    obtain ⟨c', hc'⟩ := Option.isSome_iff_exists.1 hsome
    have hne : ∀ u ∈ resolve (s :: p) c, u ≠ [] := by
      rintro u hu rfl
      exact absurd (length_of_mem_resolve hu) (by simp)
    rw [foldr_answerAt_cons hne h, ih, hc']
    rfl

/-! ## All children -/

/-- The items of an array are updated from the last to the first. -/
theorem foldr_update_items (f : Segment → Json → Option Json) (F : Segment → Json → Json → Json)
    (before items : List Json)
    (hF : ∀ x ∈ items, ∀ t j, t.child? j = some x → F t x j = t.update (f t x) j) :
    (items.zipIdx before.length).foldr (fun e j => F (.index e.2) e.1 j)
        (.arr (before ++ items)) =
      .arr (before ++ (items.zipIdx before.length).filterMap fun e => f (.index e.2) e.1) := by
  induction items generalizing before with
  | nil => rfl
  | cons x rest ih =>
    have hrest := ih (before ++ [x]) fun y hy => hF y (List.mem_cons_of_mem _ hy)
    simp only [List.append_assoc, List.singleton_append, List.length_append,
      List.length_singleton] at hrest
    rw [List.zipIdx_cons, List.foldr_cons, hrest]
    have hchild : ∀ done : List Json,
        Segment.child? (.index before.length) (.arr (before ++ x :: done)) = some x := by
      intro done
      simp [Segment.child?]
    rw [hF x List.mem_cons_self _ _ (hchild _)]
    cases hfx : f (.index before.length) x with
    | none =>
      rw [List.filterMap_cons_none (by exact hfx)]
      simp [Segment.update, Segment.eraseChild, List.eraseIdx_append_of_length_le]
    | some y =>
      rw [List.filterMap_cons_some (by exact hfx)]
      simp [Segment.update, Segment.replaceChild]

/-- The members of an object in key order are updated from the last to the first. -/
theorem foldr_update_members (f : Segment → Json → Option Json) (F : Segment → Json → Json → Json)
    (before members : Dict Json) (hd : Dict.Sorted (before ++ members))
    (hF : ∀ e ∈ members, ∀ t j, t.child? j = some e.2 → F t e.2 j = t.update (f t e.2) j) :
    members.foldr (fun e j => F (.key e.1) e.2 j) (.obj (before ++ members)) =
      .obj (before ++ members.filterMap fun e => (f (.key e.1) e.2).map (e.1, ·)) := by
  induction members generalizing before with
  | nil => rfl
  | cons e rest ih =>
    obtain ⟨k, x⟩ := e
    have hrest := ih (before ++ [(k, x)]) (by simpa using hd)
      fun y hy => hF y (List.mem_cons_of_mem _ hy)
    simp only [List.append_assoc, List.singleton_append] at hrest
    have hnew : ∀ e ∈ before, e.1 ≠ k := Dict.ne_of_sorted_append_cons hd
    have hchild : ∀ done : Dict Json,
        Segment.child? (.key k) (.obj (before ++ (k, x) :: done)) = some x := fun done => by
      simp [Segment.child?, Dict.find?_append_of_ne hnew, Dict.find?]
    rw [List.foldr_cons, hrest, hF (k, x) List.mem_cons_self _ _ (hchild _)]
    cases hfx : f (.key k) x with
    | none =>
      rw [List.filterMap_cons_none (by simp only [hfx, Option.map_none])]
      simp [Segment.update, Segment.eraseChild, Dict.erase_append_of_ne hnew, Dict.erase]
    | some y =>
      rw [List.filterMap_cons_some (b := (k, y)) (by simp only [hfx, Option.map_some])]
      simp [Segment.update, Segment.replaceChild, Dict.replace_append_of_ne hnew, Dict.replace]

/-! ## The units of a path -/

/-- What is left of the child at a step when a path is rewritten whose first step reaches some of
the children. -/
def rewriteChild (answer : Json → Option Json) (s : Segment) (p : Path) (t : Segment) (c : Json) :
    Option Json :=
  if s.reaches t then rewrite answer p c else some c

/-- The value with the units below the child at a step answered. -/
def answerChild (answer : Json → Option Json) (s : Segment) (p : Path) (t : Segment) (c j : Json) :
    Json :=
  if s.reaches t then ((resolve p c).map (t :: ·)).foldr (answerAt answer) j else j

theorem answerChild_eq_update (h : t.child? j = some c)
    (ih : (resolve p c).foldr (answerAt answer) c = (rewrite answer p c).getD .null) :
    answerChild answer s p t c j = t.update (rewriteChild answer s p t c) j := by
  unfold answerChild rewriteChild
  by_cases ht : s.reaches t = true
  · rw [if_pos ht, if_pos ht]
    exact foldr_answerAt_child h ih
  · rw [if_neg ht, if_neg ht]
    exact (Segment.replaceChild_eq_self h).symm

theorem rewrite_obj {members : Dict Json} :
    rewrite answer (s :: p) (.obj members) =
      some (.obj (members.filterMap fun e =>
        (rewriteChild answer s p (.key e.1) e.2).map (e.1, ·))) := by
  rw [rewrite]
  congr 3
  funext e
  unfold rewriteChild
  by_cases he : s.reaches (.key e.1) = true
  · rw [if_pos he, if_pos he]
  · rw [if_neg he, if_neg he, Option.map_some]

/-- The units of a path are answered child by child, those of the last child first. -/
theorem foldr_answerAt_resolve_cons (hj : j.OrderedTo (p.length + 1)) (d : Json) :
    (resolve (s :: p) j).foldr (answerAt answer) d =
      (Segment.wildcard.children j).foldr (fun e => answerChild answer s p e.1 e.2) d := by
  rw [resolve, List.foldr_flatMap, Segment.children_eq_filter hj, List.foldr_filter]
  rfl

/-- Answering the units of a path from the last to the first rewrites the value at the end points of
the path. Of the value itself null remains. -/
theorem foldr_answerAt_resolve (hj : j.OrderedTo p.length) :
    (resolve p j).foldr (answerAt answer) j = (rewrite answer p j).getD .null := by
  induction p generalizing j with
  | nil =>
    simp only [resolve, List.foldr_cons, List.foldr_nil, answerAt, get?, rewrite]
    cases answer j <;> rfl
  | cons s p ih =>
    have hchild : ∀ x, x.OrderedTo p.length → ∀ t j, t.child? j = some x →
        answerChild answer s p t x j = t.update (rewriteChild answer s p t x) j :=
      fun x hx t j h => answerChild_eq_update h (ih hx)
    rw [foldr_answerAt_resolve_cons hj]
    cases j with
    | arr items =>
      rw [Segment.children_wildcard_arr, List.foldr_map]
      exact foldr_update_items _ _ [] items fun x hx => hchild x (hj x hx)
    | obj members =>
      rw [Segment.children_wildcard_obj, List.foldr_map, rewrite_obj]
      exact foldr_update_members _ _ [] members hj.1 fun e he => hchild e.2 (hj.2 e he)
    | null | bool | num | str => rfl

/-! ## Key order -/

theorem orderedTo_answerAt (hj : j.OrderedTo u.length) :
    (answerAt answer u j).OrderedTo u.length := by
  unfold answerAt
  split
  · exact hj
  · split
    · exact orderedTo_set hj
    · exact orderedTo_remove hj

/-- Answering units of one depth keeps objects in key order down to that depth, whatever the answers
are. -/
theorem orderedTo_foldr_answerAt {n : Nat} (hus : ∀ u ∈ us, u.length = n) (hj : j.OrderedTo n) :
    (us.foldr (answerAt answer) j).OrderedTo n := by
  induction us with
  | nil => exact hj
  | cons u us ih =>
    have hrest := ih fun w hw => hus w (List.mem_cons_of_mem _ hw)
    rw [← hus u List.mem_cons_self] at hrest ⊢
    exact orderedTo_answerAt hrest

end Path
end Guardrail
