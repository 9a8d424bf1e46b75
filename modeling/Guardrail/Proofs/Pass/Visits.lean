import Guardrail.Proofs.Pass.Structural
import Guardrail.Proofs.Path.Overwrite

/-!
# The visits of a pass

A pass visits units: entry by entry, from deep to shallow, those that the path of the entry stands
for in the document as the entries before left it. Each of them is found there on its turn, since
what the visits of one entry do at one unit does not show at the next.

So what a whole pass does is put together from what the visits do, and every fact of that kind is
one induction, made here once.

Results:
* `mem_visits`: what a visit is made of.
* `visits_pairwise`, `isSome_get?_of_mem_visits`: the units are visited from deep to shallow, and
  something stood at each of them in the parsed value.
* `Cumulative.run`: what every visit keeps up, the pass keeps up.
* `visitUnit_outcome?`: a visit carries out what becomes of its unit.
* `cumulative_of_uncorrected`: the same for passes with nothing to correct, in which every visit
  keeps its unit.
-/

namespace Guardrail.Pass

/-! ## Visits -/

/-- A unit on its turn. -/
structure Visit where
  /-- The entries that were through before. -/
  earlier : List Entry
  entry : Entry
  unit : Path

/-- The document as the earlier entries left it. -/
def Visit.document (metadata : Metadata) (value : Json) (visit : Visit) : Json :=
  visit.earlier.foldl (rewriteEntry metadata) value

/-- The visits of the entries that come after some earlier ones: entry by entry the units that the
path stands for in the document as the entries before left it. -/
def visits (metadata : Metadata) (value : Json) (earlier : List Entry) : List Entry → List Visit
  | [] => []
  | e :: es =>
    (e.1.resolve (earlier.foldl (rewriteEntry metadata) value)).map (⟨earlier, e, ·⟩) ++
      visits metadata value (earlier ++ [e]) es

variable {metadata : Metadata} {value d : Json} {e : Entry} {es earlier : List Entry}
  {visit : Visit} {us : List Path} {u : Path} {s s' : State} {map : ValidatorMap} {pass : Pass}

theorem mem_visits (h : visit ∈ visits metadata value earlier es) :
    ∃ mid rest, es = mid ++ visit.entry :: rest ∧ visit.earlier = earlier ++ mid ∧
      visit.unit ∈ visit.entry.1.resolve (visit.document metadata value) := by
  induction es generalizing earlier with
  | nil => cases h
  | cons e es ih =>
    rcases List.mem_append.1 h with hhere | hlater
    · obtain ⟨u, hu, rfl⟩ := List.mem_map.1 hhere
      exact ⟨[], es, rfl, (List.append_nil _).symm, hu⟩
    · obtain ⟨mid, rest, rfl, hearlier, hunit⟩ := ih hlater
      exact ⟨e :: mid, rest, rfl, by rw [hearlier, List.append_assoc]; rfl, hunit⟩

theorem length_unit_of_mem_visits (h : visit ∈ visits metadata value earlier es) :
    visit.entry ∈ es ∧ visit.unit.length = visit.entry.1.length := by
  obtain ⟨mid, rest, rfl, -, hunit⟩ := mem_visits h
  exact ⟨by simp, Path.length_of_mem_resolve hunit⟩

/-- The units are visited from deep to shallow. -/
theorem visits_pairwise (hes : es.Pairwise fun a b => b.1.length ≤ a.1.length) :
    (visits metadata value earlier es).Pairwise fun a b => b.unit.length ≤ a.unit.length := by
  induction es generalizing earlier with
  | nil => exact .nil
  | cons e es ih =>
    obtain ⟨hdeep, hes⟩ := List.pairwise_cons.1 hes
    refine List.pairwise_append.2 ⟨?_, ih hes, ?_⟩
    · rw [List.pairwise_map]
      refine List.pairwise_of_forall_mem_list fun u hu w hw => ?_
      rw [Path.length_of_mem_resolve hu, Path.length_of_mem_resolve hw]
    · intro here hhere later hlater
      obtain ⟨u, hu, rfl⟩ := List.mem_map.1 hhere
      obtain ⟨hmem, hlen⟩ := length_unit_of_mem_visits hlater
      rw [hlen, Path.length_of_mem_resolve hu]
      exact hdeep _ hmem

/-! ## What stands where -/

/-- What stands at a path after units that are not above it were answered stood there before. -/
theorem isSome_get?_of_foldr_answerAt {answer : Json → Option Json}
    (hus : ∀ w ∈ us, u.length ≤ w.length)
    (h : (u.get? (us.foldr (Path.answerAt answer) d)).isSome) : (u.get? d).isSome := by
  induction us with
  | nil => exact h
  | cons w us ih =>
    obtain ⟨hw, hus⟩ := List.forall_mem_cons.1 hus
    refine ih hus ?_
    rw [List.foldr_cons, Path.answerAt] at h
    split at h
    · exact h
    · split at h
      · rwa [Path.isSome_get?_set hw] at h
      · exact Path.isSome_get?_of_remove hw h

/-- Entries from deep to shallow keep the document ordered as deep as they all are, and let nothing
new stand there. -/
theorem foldl_rewriteEntry_of_pairwise {n : Nat} (hd : ∀ e ∈ es, d.OrderedTo e.1.length)
    (hn : d.OrderedTo n) (hes : es.Pairwise fun a b => b.1.length ≤ a.1.length)
    (hlen : ∀ e ∈ es, n ≤ e.1.length) :
    (es.foldl (rewriteEntry metadata) d).OrderedTo n ∧
      ∀ u : Path, u.length = n → (u.get? (es.foldl (rewriteEntry metadata) d)).isSome →
        (u.get? d).isSome := by
  induction es generalizing d with
  | nil => exact ⟨hn, fun _ _ h => h⟩
  | cons e es ih =>
    obtain ⟨hdeep, hes⟩ := List.pairwise_cons.1 hes
    obtain ⟨he, hlen⟩ := List.forall_mem_cons.1 hlen
    have hde := hd e List.mem_cons_self
    have hordered : (rewriteEntry metadata d e).OrderedTo e.1.length := orderedTo_rewriteEntry hde
    obtain ⟨hrest, hstood⟩ :=
      ih (fun e' he' => hordered.mono (hdeep e' he')) (hordered.mono he) hes hlen
    refine ⟨hrest, fun u hu h => ?_⟩
    have hthere := hstood u hu h
    rw [rewriteEntry_eq_foldr hde] at hthere
    refine isSome_get?_of_foldr_answerAt (fun w hw => ?_) hthere
    rw [Path.length_of_mem_resolve hw, hu]
    exact he

/-- Something stood at every unit already in the parsed value. -/
theorem isSome_get?_of_mem_visits (hv : value.WellFormed)
    (hes : es.Pairwise fun a b => b.1.length ≤ a.1.length)
    (h : visit ∈ visits metadata value [] es) : (visit.unit.get? value).isSome := by
  obtain ⟨mid, rest, rfl, hearlier, hunit⟩ := mem_visits h
  obtain ⟨hmid, -, hbefore⟩ := List.pairwise_append.1 hes
  have hdeep : ∀ e ∈ mid, visit.entry.1.length ≤ e.1.length := fun e he =>
    hbefore e he _ List.mem_cons_self
  obtain ⟨hordered, hstood⟩ := foldl_rewriteEntry_of_pairwise
    (fun e _ => Json.orderedTo_of_wellFormed hv e.1.length)
    (Json.orderedTo_of_wellFormed hv visit.entry.1.length) hmid hdeep
  rw [Visit.document, hearlier, List.nil_append] at hunit
  exact hstood visit.unit (Path.length_of_mem_resolve hunit)
    (Path.get?_isSome_of_mem_resolve hordered hunit)

/-! ## What a pass does -/

/-- A relation between the states before and after some visits that holds of every visit, whatever
came before it, and carries over from part to part and to the removals at the end of an entry. -/
structure Cumulative (metadata : Metadata) (value : Json)
    (R : List Visit → State → State → Prop) : Prop where
  refl : ∀ s, R [] s s
  trans : ∀ {here later s s₁ s'}, R here s s₁ → R later s₁ s' → R (here ++ later) s s'
  flush : ∀ {here s s'}, R here s s' → R here s s'.flush
  visit : ∀ {visit : Visit} {found s s'},
    visit.unit.get? (visit.document metadata value) = some found →
    visit.unit.get? s.validated = some found →
    visitUnit metadata visit.entry.2 s visit.unit = .ok s' → R [visit] s s'

variable {R : List Visit → State → State → Prop}

/-- What stands at a unit apart from the visited one does not change. -/
theorem Visited.get?_of_apart {vs : List BoundValidator} {unit : Path} {found : Json}
    {records : List LogEntry} (h : Visited metadata vs s unit found records s')
    (hu : Path.Apart u unit) : u.get? s'.validated = u.get? s.validated := by
  cases hleft : settle metadata found vs found with
  | none => rw [(h.drop_eq hleft).1]
  | some v => rw [(h.put_eq v hleft).1, Path.get?_set_of_apart hu]

/-- The units of an entry are all visited, and each is found as the entry found the document. -/
theorem Cumulative.foldlM_visitUnit (hR : Cumulative metadata value R)
    (hus : us.Pairwise Path.Before)
    (hget : ∀ u ∈ us, ∃ found, u.get? (earlier.foldl (rewriteEntry metadata) value) = some found ∧
      u.get? s.validated = some found)
    (h : us.foldlM (visitUnit metadata e.2) s = .ok s') :
    R (us.map (⟨earlier, e, ·⟩)) s s' := by
  induction us generalizing s with
  | nil => cases h; exact hR.refl _
  | cons u us ih =>
    obtain ⟨hu, hus⟩ := List.pairwise_cons.1 hus
    obtain ⟨s₁, hvisit, hrest⟩ := foldlM_cons_eq_ok h
    obtain ⟨⟨found, hfound, hsame⟩, hget⟩ := List.forall_mem_cons.1 hget
    have hget₁ : ∀ w ∈ us, ∃ found,
        w.get? (earlier.foldl (rewriteEntry metadata) value) = some found ∧
          w.get? s₁.validated = some found := by
      intro w hw
      obtain ⟨found', hfound', hsame'⟩ := hget w hw
      obtain ⟨-, rfl⟩ | ⟨_, _, -, hvisited⟩ := visitUnit_cases hvisit
      · exact ⟨found', hfound', hsame'⟩
      · exact ⟨found', hfound', (hvisited.get?_of_apart (hu w hw).apart.symm).trans hsame'⟩
    have hhere : R [⟨earlier, e, u⟩] s s₁ := hR.visit hfound hsame hvisit
    exact hR.trans hhere (ih hus hget₁ hrest)

theorem Cumulative.visitEntry (hR : Cumulative metadata value R)
    (hs : s.validated = earlier.foldl (rewriteEntry metadata) value)
    (hd : s.validated.OrderedTo e.1.length) (h : visitEntry metadata s e = .ok s') :
    R ((e.1.resolve s.validated).map (⟨earlier, e, ·⟩)) s s' := by
  unfold Pass.visitEntry at h
  cases hunits : (e.1.resolve s.validated).foldlM (visitUnit metadata e.2) s with
  | error abort => rw [hunits] at h; cases h
  | ok s₁ =>
    rw [hunits] at h
    obtain rfl := Except.ok.inj h
    refine hR.flush (hR.foldlM_visitUnit (Path.resolve_pairwise hd) (fun u hu => ?_) hunits)
    obtain ⟨found, hfound⟩ := Option.isSome_iff_exists.1 (Path.get?_isSome_of_mem_resolve hd hu)
    exact ⟨found, hs ▸ hfound, hfound⟩

theorem Cumulative.foldlM_visitEntry (hR : Cumulative metadata value R)
    (hs : s.validated = earlier.foldl (rewriteEntry metadata) value)
    (hes : es.Pairwise fun a b => b.1.length ≤ a.1.length)
    (hd : ∀ e ∈ es, s.validated.OrderedTo e.1.length) (hr : s.removals = [])
    (h : es.foldlM (Pass.visitEntry metadata) s = .ok s') :
    R (visits metadata value earlier es) s s' := by
  induction es generalizing s earlier with
  | nil => cases h; exact hR.refl _
  | cons e es ih =>
    obtain ⟨hdeep, hes⟩ := List.pairwise_cons.1 hes
    obtain ⟨s₁, hentry, hrest⟩ := foldlM_cons_eq_ok h
    have he := hd e List.mem_cons_self
    obtain ⟨hval, hrem⟩ := visitEntry_ok he hr hentry
    have hs₁ : s₁.validated = (earlier ++ [e]).foldl (rewriteEntry metadata) value := by
      rw [hval, hs, List.foldl_append]
      rfl
    have hd₁ : ∀ e' ∈ es, s₁.validated.OrderedTo e'.1.length := fun e' he' => by
      rw [hval]
      exact (orderedTo_rewriteEntry he).mono (hdeep e' he')
    have hhere := hR.visitEntry hs he hentry
    rw [hs] at hhere
    exact hR.trans hhere (ih hs₁ hes hd₁ hrem hrest)

/-- What every visit keeps up holds between the start of a pass and its end. -/
theorem Cumulative.run (hR : Cumulative metadata value R) (hv : value.WellFormed)
    (h : Pass.run value map metadata = .ok pass) :
    ∃ s, R (visits metadata value [] map.processingOrder) (State.initial value) s ∧
      pass = ⟨if s.validated.isNull then none else some s.validated, s.annotated, s.reasks,
        s.corrections, s.logs⟩ := by
  obtain ⟨s, hs, rfl⟩ := run_ok h
  have hstart : (State.initial value).validated =
      ([] : List Entry).foldl (rewriteEntry metadata) value := rfl
  exact ⟨s, hR.foldlM_visitEntry hstart (processingOrder_pairwise map)
    (fun e _ => Json.orderedTo_of_wellFormed hv e.1.length) rfl hs, rfl⟩

/-! ## What becomes of a unit -/

/-- What is found at the unit of a visit and what becomes of it; nothing, if the visit aborts the
pass. -/
def Visit.outcome? (metadata : Metadata) (value : Json) (visit : Visit) :
    Option (Json × Disposition) := do
  let found ← visit.unit.get? (visit.document metadata value)
  let run ← (UnitRun.ofUnit visit.unit.render metadata visit.entry.2 found).toOption
  return (found, run.disposition visit.unit.render found)

/-- The correction that a visit asks for. -/
def Visit.correction? (metadata : Metadata) (value : Json) (visit : Visit) : Option Correction :=
  (visit.outcome? metadata value).bind (·.2.correction?)

variable {found : Json} {d : Disposition} {c : Correction}

/-- What becomes of a unit comes of a run of the validators over what is found there. -/
theorem outcome?_eq_some (h : visit.outcome? metadata value = some (found, d)) :
    visit.unit.get? (visit.document metadata value) = some found ∧
      ∃ run, UnitRun.ofUnit visit.unit.render metadata visit.entry.2 found = .ok run ∧
        d = run.disposition visit.unit.render found := by
  unfold Visit.outcome? at h
  cases hfound : visit.unit.get? (visit.document metadata value) with
  | none => simp [hfound] at h
  | some x =>
    cases hrun : UnitRun.ofUnit visit.unit.render metadata visit.entry.2 x with
    | error abort => simp [hfound, hrun, Except.toOption] at h
    | ok run =>
      simp only [hfound, hrun, Except.toOption, Option.bind_eq_bind, Option.bind_some,
        Option.pure_def, Option.some.injEq, Prod.mk.injEq] at h
      obtain ⟨rfl, rfl⟩ := h
      exact ⟨rfl, run, hrun, rfl⟩

/-- A visit that does not abort the pass carries out what becomes of its unit. -/
theorem visitUnit_outcome?
    (hdocument : visit.unit.get? (visit.document metadata value) = some found)
    (hfound : visit.unit.get? s.validated = some found)
    (h : visitUnit metadata visit.entry.2 s visit.unit = .ok s') :
    ∃ d logs, visit.outcome? metadata value = some (found, d) ∧
      s' = State.apply { s with logs } visit.unit found d := by
  obtain ⟨run, hrun, rfl⟩ := visitUnit_eq_ok hfound h
  refine ⟨run.disposition visit.unit.render found, _, ?_, rfl⟩
  simp [Visit.outcome?, hdocument, hrun, Except.toOption]

/-- A correction is on record under the path of its unit. -/
theorem path_of_correction? (h : visit.correction? metadata value = some c) :
    c.path = visit.unit.render := by
  obtain ⟨⟨found, d⟩, houtcome, hc⟩ := Option.bind_eq_some_iff.1 h
  obtain ⟨-, run, -, rfl⟩ := outcome?_eq_some houtcome
  unfold UnitRun.disposition at hc
  cases hblocking : run.blocking with
  | none => simp [hblocking, Disposition.correction?] at hc
  | some policy =>
    simp only [hblocking, Disposition.correction?, Option.some.injEq] at hc
    rw [← hc]

/-! ## As long as nothing has to be corrected -/

/-- What every visit that keeps its unit does holds of a pass that ends with nothing to correct. -/
theorem cumulative_of_uncorrected {Q : List Visit → State → State → Prop} (refl : ∀ s, Q [] s s)
    (trans : ∀ {here later s s₁ s'}, Q here s s₁ → Q later s₁ s' → Q (here ++ later) s s')
    (flush : ∀ {here s s'}, Q here s s' → Q here s s'.flush)
    (visit : ∀ {visit : Visit} {found : Json} {run : UnitRun} {s : State},
      visit.unit.get? s.validated = some found →
      UnitRun.ofUnit visit.unit.render metadata visit.entry.2 found = .ok run →
      Q [visit] s
        (State.apply { s with logs := s.logs ++ run.logs } visit.unit found (.keep run.value))) :
    Cumulative metadata value fun all s s' =>
      s.corrections <+: s'.corrections ∧ (s'.corrections = s.corrections → Q all s s') where
  refl s := ⟨List.prefix_refl _, fun _ => refl s⟩
  trans := by
    rintro here later s s₁ s' ⟨hgrown, hhere⟩ ⟨hgrown', hlater⟩
    refine ⟨hgrown.trans hgrown', fun hsame => ?_⟩
    -- nothing that was reported on the way is taken back
    have hmid : s₁.corrections = s.corrections :=
      (hgrown.eq_of_length_le (hsame ▸ hgrown'.length_le)).symm
    exact trans (hhere hmid) (hlater (hsame.trans hmid.symm))
  flush := by
    rintro here s s' ⟨hgrown, hhere⟩
    exact ⟨hgrown, fun hsame => flush (hhere hsame)⟩
  visit := by
    intro here found s s' _ hfound h
    obtain ⟨run, hrun, rfl⟩ := visitUnit_eq_ok hfound h
    have hcorrections : (State.apply { s with logs := s.logs ++ run.logs } here.unit found
        (run.disposition here.unit.render found)).corrections =
          s.corrections ++ (run.disposition here.unit.render found).correction?.toList :=
      corrections_apply
    refine ⟨⟨_, hcorrections.symm⟩, fun hsame => ?_⟩
    rw [hcorrections, List.append_right_eq_self, Option.toList_eq_nil_iff] at hsame
    have hkeep : run.disposition here.unit.render found = .keep run.value := by
      unfold UnitRun.disposition at hsame ⊢
      cases hblocking : run.blocking with
      | none => rfl
      | some policy => simp [hblocking, Disposition.correction?] at hsame
    rw [hkeep]
    exact visit hfound hrun

end Guardrail.Pass
