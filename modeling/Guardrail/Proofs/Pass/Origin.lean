import Guardrail.Proofs.Pass.Audit
import Guardrail.Proofs.Path.Origin

/-!
# What a unit was in the parsed value

The entries of a map resolve their paths one after another in the document that the earlier ones
left, so an item removed for one entry moves the later items of its array up for the next one of the
same depth. What the validators find at a unit is what earlier validators left of some part of the
parsed value, and that part need not be the one that the path of the unit stands for there.

Results:
* `get?_foldl_rewriteEntry`: what stands at a path after entries of one depth, traced back to the
  parsed value.
* `get?_document_eq_iff`: when a unit is found as it was parsed, although earlier entries were
  through.
* `first_before_eq_parsed_iff`: what the log shows of it.
-/

namespace Guardrail.Pass

variable {metadata : Metadata} {value d : Json} {e : Entry} {es earlier : List Entry} {u : Path}
  {n : Nat} {visit : Visit} {map : ValidatorMap} {pass : Pass}

/-! ## Tracing back -/

/-- The units that an entry removes, in document order. -/
def dropped (metadata : Metadata) (d : Json) (e : Entry) : List Path :=
  Path.dropped (answer metadata e.2) d (e.1.resolve d)

/-- The units that entries remove, the last entry's first. -/
def removals (metadata : Metadata) : List Entry → Json → List Path
  | [], _ => []
  | e :: es, d => removals metadata es (rewriteEntry metadata d e) ++ dropped metadata d e

/-- Where something that stands at a path after entries were through stood before. -/
def origin (metadata : Metadata) (es : List Entry) (d : Json) (u : Path) : Path :=
  Path.restoreAll (removals metadata es d) u

/-- The validators that ran on what stands at a path after entries were through, entry by entry. -/
def handlers (metadata : Metadata) : List Entry → Json → Path → List (List BoundValidator)
  | [], _, _ => []
  | e :: es, d, u =>
    if origin metadata (e :: es) d u ∈ e.1.resolve d then
      e.2 :: handlers metadata es (rewriteEntry metadata d e) u
    else handlers metadata es (rewriteEntry metadata d e) u

/-- What entries leave of the part of a value that stands at a path once they are through. -/
def leftover (metadata : Metadata) (es : List Entry) (d : Json) (u : Path) : Option Json :=
  ((origin metadata es d u).get? d).bind fun v =>
    (handlers metadata es d u).foldlM (fun v vs => answer metadata vs v) v

theorem origin_cons :
    origin metadata (e :: es) d u =
      Path.restoreAll (dropped metadata d e) (origin metadata es (rewriteEntry metadata d e) u) :=
  Path.restoreAll_append

theorem length_origin : (origin metadata es d u).length = u.length := Path.length_restoreAll _ _

/-- What stands at a path after one entry. -/
theorem get?_rewriteEntry (hn : 0 < n) (he : e.1.length = n) (hd : d.OrderedTo n)
    (hlen : u.length = n) (hu : (u.get? (rewriteEntry metadata d e)).isSome) :
    u.get? (rewriteEntry metadata d e) =
      ((Path.restoreAll (dropped metadata d e) u).get? d).bind
        (if Path.restoreAll (dropped metadata d e) u ∈ e.1.resolve d then answer metadata e.2
          else some) := by
  subst he
  rw [rewriteEntry_eq_foldr hd] at hu ⊢
  exact Path.get?_foldr_answerAt_restore (Path.resolve_pairwise hd)
    (fun w hw => ⟨Path.length_of_mem_resolve hw, Path.get?_isSome_of_mem_resolve hd hw⟩)
    hn hd hlen hu

theorem orderedTo_rewriteEntry_of_length (he : e.1.length = n) (hd : d.OrderedTo n) :
    (rewriteEntry metadata d e).OrderedTo n := by
  subst he
  exact orderedTo_rewriteEntry hd

theorem orderedTo_foldl_rewriteEntry (hes : ∀ e ∈ es, e.1.length = n) (hd : d.OrderedTo n) :
    (es.foldl (rewriteEntry metadata) d).OrderedTo n := by
  induction es generalizing d with
  | nil => exact hd
  | cons e es ih =>
    obtain ⟨he, hes⟩ := List.forall_mem_cons.1 hes
    exact ih hes (orderedTo_rewriteEntry_of_length he hd)

/-- What stands at a path after entries of its depth is what they left of what stood at its
origin. -/
theorem get?_foldl_rewriteEntry (hn : 0 < n) (hes : ∀ e ∈ es, e.1.length = n) (hd : d.OrderedTo n)
    (hlen : u.length = n) (hu : (u.get? (es.foldl (rewriteEntry metadata) d)).isSome) :
    u.get? (es.foldl (rewriteEntry metadata) d) = leftover metadata es d u := by
  induction es generalizing d with
  | nil => simp [leftover, origin, removals, handlers, Path.restoreAll]
  | cons e es ih =>
    obtain ⟨he, hes⟩ := List.forall_mem_cons.1 hes
    rw [List.foldl_cons] at hu ⊢
    have hrest := ih hes (orderedTo_rewriteEntry_of_length he hd) hu
    rw [hrest] at hu ⊢
    unfold leftover at hu ⊢
    cases hmid : (origin metadata es (rewriteEntry metadata d e) u).get?
        (rewriteEntry metadata d e) with
    | none => simp [hmid] at hu
    | some v =>
      have hstep := get?_rewriteEntry hn he hd (length_origin.trans hlen) (by rw [hmid]; rfl)
      rw [← origin_cons, hmid] at hstep
      rw [Option.bind_some, handlers]
      cases horigin : (origin metadata (e :: es) d u).get? d with
      | none => simp [horigin] at hstep
      | some v₀ =>
        rw [horigin, Option.bind_some] at hstep
        by_cases hmem : origin metadata (e :: es) d u ∈ e.1.resolve d
        · rw [if_pos hmem] at hstep
          rw [if_pos hmem, Option.bind_some, List.foldlM_cons, ← hstep]
          rfl
        · rw [if_neg hmem] at hstep
          rw [if_neg hmem, Option.bind_some, Option.some.inj hstep]

/-! ## Units that nothing moved -/

/-- A path that no removal moved and no entry stood for keeps what it had. -/
theorem get?_foldl_of_not_moved (hn : 0 < n) (hes : ∀ e ∈ es, e.1.length = n) (hd : d.OrderedTo n)
    (hlen : u.length = n) (hu : (u.get? (es.foldl (rewriteEntry metadata) d)).isSome)
    (hmoved : ∀ r ∈ removals metadata es d, ¬ r.Moves u) (hnew : ∀ e ∈ es, u ∉ e.1.resolve d) :
    u.get? (es.foldl (rewriteEntry metadata) d) = u.get? d := by
  induction es generalizing d with
  | nil => rfl
  | cons e es ih =>
    obtain ⟨he, hes⟩ := List.forall_mem_cons.1 hes
    obtain ⟨hnewe, hnew⟩ := List.forall_mem_cons.1 hnew
    obtain ⟨hlater, hhere⟩ := List.forall_mem_append.1 hmoved
    have hordered : (rewriteEntry metadata d e).OrderedTo n :=
      orderedTo_rewriteEntry_of_length he hd
    rw [List.foldl_cons] at hu ⊢
    have hthere : (u.get? (rewriteEntry metadata d e)).isSome := by
      have hrest := get?_foldl_rewriteEntry hn hes hordered hlen hu
      rw [hrest, leftover, origin, Path.restoreAll_eq_self_iff.2 hlater] at hu
      exact Option.isSome_of_isSome_bind hu
    have hsame : u.get? (rewriteEntry metadata d e) = u.get? d := by
      rw [get?_rewriteEntry hn he hd hlen hthere, Path.restoreAll_eq_self_iff.2 hhere, if_neg hnewe,
        Option.bind_fun_some]
    rw [ih hes hordered hu hlater ?_, hsame]
    -- an entry that stood for the path now would have stood for it before
    intro e' he' hmem
    have hlen' := hes e' he'
    subst hlen'
    obtain ⟨hall, hsome⟩ := (Path.mem_resolve_iff hordered).1 hmem
    rw [hsame] at hsome
    exact hnew e' he' ((Path.mem_resolve_iff hd).2 ⟨hall, hsome⟩)

/-! ## Visits -/

/-- A unit that no earlier entry stood for in the parsed value is found as it was parsed exactly if
no removal moved it, or what moved there was left as what had been there. -/
theorem get?_document_eq_iff (hv : value.WellFormed) (hes : ∀ e ∈ es, e.1.depth = n)
    (hvisit : visit ∈ visits metadata value [] es)
    (hnew : ∀ e ∈ visit.earlier, visit.unit ∉ e.1.resolve value) :
    visit.unit.get? value = visit.unit.get? (visit.document metadata value) ↔
      (∀ r ∈ removals metadata visit.earlier value, ¬ r.Moves visit.unit) ∨
        leftover metadata visit.earlier value visit.unit = visit.unit.get? value := by
  obtain ⟨mid, rest, rfl, hearlier, hunit⟩ := mem_visits hvisit
  have hentry : visit.entry.1.length = n := hes _ (by simp)
  have hdepth : ∀ e ∈ visit.earlier, e.1.length = n := fun e he =>
    hes e (by rw [hearlier] at he; simp at he; simp [he])
  have hlen : visit.unit.length = n := (Path.length_of_mem_resolve hunit).trans hentry
  have hd : value.OrderedTo n := Json.orderedTo_of_wellFormed hv n
  rcases Nat.eq_zero_or_pos n with rfl | hn
  · -- an earlier entry would have stood for the root as well
    have hnone : visit.earlier = [] := by
      rw [List.eq_nil_iff_forall_not_mem]
      intro e he
      have hroot := List.eq_nil_of_length_eq_zero (hdepth e he)
      have hunit := List.eq_nil_of_length_eq_zero hlen
      exact hnew e he (by rw [hroot, hunit]; simp [Path.resolve])
    simp [Visit.document, hnone, removals]
  · have hordered : (visit.document metadata value).OrderedTo n :=
      orderedTo_foldl_rewriteEntry hdepth hd
    have hsome : (visit.unit.get? (visit.document metadata value)).isSome :=
      Path.get?_isSome_of_mem_resolve (by rw [hentry]; exact hordered) hunit
    have htrace := get?_foldl_rewriteEntry hn hdepth hd hlen hsome
    constructor
    · intro heq
      exact .inr (htrace.symm.trans heq.symm)
    · rintro (hmoved | hleft)
      · exact (get?_foldl_of_not_moved hn hdepth hd hlen hsome hmoved hnew).symm
      · exact (htrace.trans hleft).symm

/-- The first record that an entry leaves at a unit that no earlier entry stood for shows the value
that was parsed there exactly if no removal moved the unit, or what moved there was left as what had
been there. -/
theorem first_before_eq_parsed_iff (hv : value.WellFormed)
    (h : Pass.run value map metadata = .ok pass) (hdepth : ∀ e ∈ map.entries, e.1.depth = n) :
    ∃ groups, pass.logs = groups.flatten ∧
      List.Forall₂ (fun visit records =>
        visit.Recorded metadata value records ∧
          ((∀ e ∈ visit.earlier, visit.unit ∉ e.1.resolve value) →
            ∀ first ∈ records.head?, (visit.unit.get? value = some first.before ↔
              (∀ r ∈ removals metadata visit.earlier value, ¬ r.Moves visit.unit) ∨
                leftover metadata visit.earlier value visit.unit = visit.unit.get? value)))
        (visits metadata value [] map.processingOrder) groups := by
  obtain ⟨groups, hall, hlogs, -⟩ := run_adds hv h
  have horder : ∀ e ∈ map.processingOrder, e.1.depth = n := fun e he =>
    hdepth e (List.mem_mergeSort.1 he)
  refine ⟨groups, hlogs, ?_⟩
  have hmem := (List.forall₂_and_left _ groups).2 ⟨fun visit hvisit => hvisit, hall⟩
  refine hmem.imp fun visit records ⟨hvisit, hrecorded⟩ => ⟨hrecorded, fun hnew first hfirst => ?_⟩
  rw [← hrecorded.2 first hfirst]
  exact get?_document_eq_iff hv horder hvisit hnew

/-- The removal of the second item leaves the first one where it was. -/
theorem first_before_eq_parsed_of_removal_behind :
    let value := Json.arr [.str "x", .str "y"]
    let map : ValidatorMap :=
      ⟨[([.index 1], [⟨.choices [.null], .filter⟩]), ([.index 0], [⟨.choices [.null], .noop⟩])]⟩
    value.WellFormed ∧ (∀ e ∈ map.entries, e.1.depth = 1) ∧
      ∃ pass behind here, Pass.run value map [] = .ok pass ∧ pass.logs = [behind, here] ∧
        Path.get? [.index 0] value = some here.before := by
  intro value map
  have hsort : map.processingOrder = map.entries := List.mergeSort_of_pairwise (by decide)
  have hv : value.WellFormed := ⟨trivial, trivial, trivial⟩
  have hdepth : ∀ e ∈ map.entries, e.1.depth = 1 := by decide
  have hrun : ∃ pass, Pass.run value map [] = .ok pass := by
    unfold Pass.run
    rw [hsort]
    exact ⟨_, rfl⟩
  obtain ⟨pass, hpass⟩ := hrun
  obtain ⟨groups, hlogs, hall⟩ := first_before_eq_parsed_iff hv hpass hdepth
  have hvisits : visits [] value [] map.processingOrder =
      [⟨[], map.entries[0], [.index 1]⟩, ⟨[map.entries[0]], map.entries[1], [.index 0]⟩] := by
    rw [hsort]
    rfl
  rw [hvisits] at hall
  obtain ⟨first, more, ⟨⟨hfirst, -⟩, -⟩, hmore, rfl⟩ := List.forall₂_cons_left_iff.1 hall
  obtain ⟨second, none, ⟨⟨hsecond, -⟩, hparsed⟩, hnone, rfl⟩ := List.forall₂_cons_left_iff.1 hmore
  obtain rfl := List.forall₂_nil_left_iff.1 hnone
  -- each entry has one validator
  obtain ⟨behind, hbehind⟩ := List.length_eq_one_iff.1 hfirst.length_eq.symm
  obtain ⟨here, hhere⟩ := List.length_eq_one_iff.1 hsecond.length_eq.symm
  subst hbehind hhere
  have hremovals : removals [] [map.entries[0]] value = [[.index 1]] := rfl
  refine ⟨hv, hdepth, pass, behind, here, hpass, hlogs, ?_⟩
  refine (hparsed (by decide) here rfl).2 (.inl fun r hr => ?_)
  rw [hremovals, List.mem_singleton] at hr
  rw [hr]
  exact Nat.not_succ_le_zero 0

/-- After the first item is removed, the validators of the second one run on the third. -/
theorem first_before_ne_parsed :
    let value := Json.arr [.str "x", .str "y", .str "z"]
    let map : ValidatorMap :=
      ⟨[([.index 0], [⟨.choices [.null], .filter⟩]), ([.index 1], [⟨.choices [.null], .noop⟩])]⟩
    value.WellFormed ∧ (∀ e ∈ map.entries, e.1.depth = 1) ∧
      ([.index 1] : Path) ∉ Path.resolve [.index 0] value ∧
      ∃ pass first second, Pass.run value map [] = .ok pass ∧ pass.logs = [first, second] ∧
        second.path = Path.render [.index 1] ∧ second.before = .str "z" ∧
        Path.get? [.index 1] value = some (.str "y") := by
  intro value map
  have hsort : map.processingOrder = map.entries := List.mergeSort_of_pairwise (by decide)
  refine ⟨⟨trivial, trivial, trivial, trivial⟩, by decide, by decide, ?_⟩
  unfold Pass.run
  rw [hsort]
  exact ⟨_, _, _, rfl, rfl, rfl, rfl, rfl⟩

end Guardrail.Pass
