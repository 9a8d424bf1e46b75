import Guardrail.Proofs.Pass.Visit
import Guardrail.Proofs.Path.Rewrite

/-!
# A pass as a rewrite of the document

A pass collects the units of each entry, updates the document in place while it walks through them,
and removes at the end what has to go, from the last unit to the first. The validated document is
nevertheless what comes of rewriting the parsed one at the end points of one path after the other,
by answers that depend on the value found at the end point and on nothing else.

Results:
* `foldlM_visitUnit`: the visits of an entry answer its units one after another.
* `visitEntry_ok`: an entry rewrites the document at the end points of its path.
* `foldlM_visitEntry`: entries from deep to shallow rewrite the document one after another.
* `validated_eq_foldl_rewrite`: the validated value is the parsed one rewritten by all entries.
-/

namespace Guardrail.Pass

variable {metadata : Metadata} {vs : List BoundValidator} {s s' : State} {us : List Path}
  {e : Entry} {es : List Entry} {d value : Json} {map : ValidatorMap} {pass : Pass}

/-! ## The rewrite -/

/-- What the validators of an entry answer about a value: what takes its place, or that it goes. -/
def answer (metadata : Metadata) (vs : List BoundValidator) (found : Json) : Option Json :=
  settle metadata found vs found

/-- The value rewritten at the end points of an entry's path. Of the value itself null remains. -/
def rewriteEntry (metadata : Metadata) (d : Json) (e : Entry) : Json :=
  (Path.rewrite (answer metadata e.2) e.1 d).getD .null

/-- The rewrite comes about by answering the units of the entry from the last to the first. -/
theorem rewriteEntry_eq_foldr (hd : d.OrderedTo e.1.length) :
    rewriteEntry metadata d e =
      (e.1.resolve d).foldr (Path.answerAt (answer metadata e.2)) d :=
  (Path.foldr_answerAt_resolve hd).symm

/-- A rewrite keeps objects in key order down to the depth of the entry. -/
theorem orderedTo_rewriteEntry (hd : d.OrderedTo e.1.length) :
    (rewriteEntry metadata d e).OrderedTo e.1.length := by
  rw [rewriteEntry_eq_foldr hd]
  exact Path.orderedTo_foldr_answerAt (fun _ hu => Path.length_of_mem_resolve hu) hd

/-! ## The units of an entry -/

/-- What the visits leave, once what is to be removed is removed, is what the answers leave. -/
theorem foldlM_visitUnit (h : us.foldlM (visitUnit metadata vs) s = .ok s') :
    s'.removals.foldr Path.remove s'.validated =
      s.removals.foldr Path.remove (Path.answerForward (answer metadata vs) us s.validated) := by
  induction us generalizing s with
  | nil => cases h; rfl
  | cons u us ih =>
    obtain ⟨s₁, hvisit, hrest⟩ := foldlM_cons_eq_ok h
    rw [ih hrest, Path.answerForward]
    obtain ⟨hnone, rfl⟩ | ⟨found, records, hfound, hvisited⟩ := visitUnit_cases hvisit
    · rw [hnone]
    · rw [hfound]
      dsimp only [answer]
      cases hleft : settle metadata found vs found with
      | some v =>
        obtain ⟨hval, hrem⟩ := hvisited.put_eq v hleft
        rw [hval, hrem]
      | none =>
        -- the unit is the last one to be removed so far, so it is the first one that goes
        obtain ⟨hval, hrem⟩ := hvisited.drop_eq hleft
        rw [hval, hrem, List.foldr_append]
        rfl

/-! ## The entries of a map -/

/-- An entry that does not abort the pass rewrites the document at the end points of its path. -/
theorem visitEntry_ok (hd : s.validated.OrderedTo e.1.length) (hr : s.removals = [])
    (h : visitEntry metadata s e = .ok s') :
    s'.validated = rewriteEntry metadata s.validated e ∧ s'.removals = [] := by
  unfold visitEntry at h
  cases hunits : (e.1.resolve s.validated).foldlM (visitUnit metadata e.2) s with
  | error abort => rw [hunits] at h; cases h
  | ok s₁ =>
    rw [hunits] at h
    obtain rfl := Except.ok.inj h
    refine ⟨?_, rfl⟩
    show s₁.removals.foldr Path.remove s₁.validated = _
    rw [foldlM_visitUnit hunits, hr, List.foldr_nil, rewriteEntry_eq_foldr hd,
      Path.foldr_answerAt_of_pairwise (Path.resolve_pairwise hd)]

/-- Entries from deep to shallow rewrite the document one after another. -/
theorem foldlM_visitEntry (hes : es.Pairwise fun a b => b.1.length ≤ a.1.length)
    (hd : ∀ e ∈ es, s.validated.OrderedTo e.1.length) (hr : s.removals = [])
    (h : es.foldlM (visitEntry metadata) s = .ok s') :
    s'.validated = es.foldl (rewriteEntry metadata) s.validated := by
  induction es generalizing s with
  | nil => cases h; rfl
  | cons e es ih =>
    obtain ⟨hdeep, hes⟩ := List.pairwise_cons.1 hes
    obtain ⟨s₁, hentry, hrest⟩ := foldlM_cons_eq_ok h
    have he := hd e List.mem_cons_self
    obtain ⟨hval, hrem⟩ := visitEntry_ok he hr hentry
    have hd₁ : ∀ e' ∈ es, s₁.validated.OrderedTo e'.1.length := fun e' he' => by
      rw [hval]
      exact (orderedTo_rewriteEntry he).mono (hdeep e' he')
    rw [ih hes hd₁ hrem hrest, hval, List.foldl_cons]

theorem processingOrder_pairwise (map : ValidatorMap) :
    map.processingOrder.Pairwise fun a b => b.1.length ≤ a.1.length := by
  have htrans : ∀ a b c : Entry, b.1.depth ≤ a.1.depth → c.1.depth ≤ b.1.depth →
      c.1.depth ≤ a.1.depth := fun a b c hab hbc => hbc.trans hab
  have htotal : ∀ a b : Entry, b.1.depth ≤ a.1.depth ∨ a.1.depth ≤ b.1.depth :=
    fun a b => Nat.le_total _ _
  have hsorted : map.processingOrder.Pairwise fun a b => decide (b.1.depth ≤ a.1.depth) :=
    List.pairwise_mergeSort (by simpa using htrans) (by simpa using htotal) map.entries
  exact hsorted.imp fun hab => of_decide_eq_true hab

/-- What is done to the validators of entries leaves their order as it is. -/
theorem processingOrder_map (map : ValidatorMap) {f : Entry → Entry} (hf : ∀ e, (f e).1 = e.1) :
    (ValidatorMap.mk (map.entries.map f)).processingOrder = map.processingOrder.map f := by
  have hdepth : ∀ a ∈ map.entries, ∀ b ∈ map.entries,
      decide (b.1.depth ≤ a.1.depth) = decide ((f b).1.depth ≤ (f a).1.depth) := by
    intro a _ b _
    rw [hf, hf]
  exact (List.map_mergeSort hdepth).symm

/-! ## The pass -/

/-- The state in which a pass that is not aborted ends, and what the pass reads off it. -/
theorem run_ok (h : Pass.run value map metadata = .ok pass) :
    ∃ s, map.processingOrder.foldlM (visitEntry metadata) (State.initial value) = .ok s ∧
      pass = ⟨if s.validated.isNull then none else some s.validated, s.annotated, s.reasks,
        s.corrections, s.logs⟩ := by
  unfold run at h
  cases hs : map.processingOrder.foldlM (visitEntry metadata) (State.initial value) with
  | error abort => rw [hs] at h; cases h
  | ok s =>
    rw [hs] at h
    exact ⟨s, rfl, (Except.ok.inj h).symm⟩

/-- The validated value is the parsed one rewritten by all entries, from deep to shallow; null
counts as nothing. -/
theorem validated_eq_foldl_rewrite (hv : value.WellFormed)
    (h : Pass.run value map metadata = .ok pass) :
    pass.validated =
      let rewritten := map.processingOrder.foldl (rewriteEntry metadata) value
      if rewritten.isNull then none else some rewritten := by
  obtain ⟨s, hs, rfl⟩ := run_ok h
  have hrewrite : s.validated = map.processingOrder.foldl (rewriteEntry metadata) value :=
    foldlM_visitEntry (processingOrder_pairwise map)
      (fun e _ => Json.orderedTo_of_wellFormed hv e.1.length) rfl hs
  simp only [hrewrite]

/-- Two of three items go, and the one in the middle keeps its value. -/
theorem validated_eq_foldl_rewrite_choices :
    let value := Json.arr [.ofNat 1, .ofNat 2, .ofNat 3]
    let map : ValidatorMap :=
      ⟨[([.wildcard], [⟨.choices [.ofNat 2], .filter⟩]), ([], [⟨.oneLine, .noop⟩])]⟩
    value.WellFormed ∧ ∃ pass, Pass.run value map [] = .ok pass ∧
      pass.validated = some (.arr [.ofNat 2]) := by
  intro value map
  have hsort : map.processingOrder = map.entries := List.mergeSort_of_pairwise (by decide)
  have hv : value.WellFormed := ⟨trivial, trivial, trivial, trivial⟩
  have hrun : ∃ pass, Pass.run value map [] = .ok pass := by
    unfold Pass.run
    rw [hsort]
    exact ⟨_, rfl⟩
  obtain ⟨pass, hpass⟩ := hrun
  refine ⟨hv, pass, hpass, (validated_eq_foldl_rewrite hv hpass).trans ?_⟩
  rw [hsort]
  rfl

end Guardrail.Pass
