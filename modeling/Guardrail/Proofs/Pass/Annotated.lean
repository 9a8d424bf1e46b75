import Guardrail.Proofs.Pass.Visits

/-!
# Which markers stay in the annotated document

A visit that blocks its unit puts a marker there in the annotated document, and one that fixes its
unit puts the fixed value there. Nothing is removed, so a marker is lost only to what is put later
at its unit or at a unit on the way to it. A fix put there takes the marker with it: the fixed value
comes from the validated document, in which there are no markers.

Results:
* `annotated_eq_setAll`: the annotated document is the parsed value with everything put there that
  the visits put.
* `showsMarker_iff_of_lastWrite`: what is seen on the way to a unit is what the last visit that put
  something there let through.
* `showsMarker_annotated_iff`: a unit to be corrected is marked, itself or on the way to it, exactly
  if that visit blocked its unit, or fixed it by a value that happens to hold such a marker.
-/

namespace Guardrail.Pass

/-! ## What a visit puts into the annotated document -/

/-- What a disposition puts at a unit of the annotated document at which `found` stood in the
validated one. A value equal to the one found is not put there. -/
def Disposition.written? (found : Json) : Disposition → Option Json
  | .keep value => if value == found then none else some value
  | .block _ c => some c.marker

/-- What a visit puts at its unit of the annotated document. -/
def Visit.written? (metadata : Metadata) (value : Json) (visit : Visit) : Option Json :=
  (visit.outcome? metadata value).bind fun o => o.2.written? o.1

/-- What visits put into the annotated document, and where, one after another. -/
def writes (metadata : Metadata) (value : Json) (all : List Visit) : List (Path × Json) :=
  all.filterMap fun visit => (visit.written? metadata value).map (visit.unit, ·)

variable {metadata : Metadata} {value v written : Json} {all before after : List Visit}
  {visit last : Visit} {s s' : State} {unit : Path} {u p : Path} {found : Json} {d : Disposition}
  {c : Correction} {map : ValidatorMap} {pass : Pass}

theorem writes_append :
    writes metadata value (before ++ after) =
      writes metadata value before ++ writes metadata value after :=
  List.filterMap_append

theorem annotated_apply :
    (s.apply unit found d).annotated =
      Path.setAll ((d.written? found).map (unit, ·)).toList s.annotated := by
  cases d with
  | keep value =>
    rw [apply_keep, Disposition.written?]
    split <;> rfl
  | block policy c =>
    cases policy <;> cases hfix : c.fix? <;>
      simp [State.apply, Disposition.written?, State.mark, State.put, State.drop, hfix,
        Path.setAll]

/-- The visits put into the annotated document what they put there, and ask for their
corrections. -/
theorem cumulative_writes : Cumulative metadata value fun all s s' =>
    s'.annotated = Path.setAll (writes metadata value all) s.annotated ∧
      s'.corrections = s.corrections ++ all.filterMap (Visit.correction? metadata value) where
  refl s := ⟨rfl, (List.append_nil _).symm⟩
  trans := by
    rintro here later s s₁ s' ⟨hannotated, hcorrections⟩ ⟨hannotated', hcorrections'⟩
    constructor
    · rw [hannotated', hannotated, writes_append, Path.setAll_append]
    · rw [hcorrections', hcorrections, List.filterMap_append, List.append_assoc]
  flush h := h
  visit := by
    intro visit found s s' hdocument hfound h
    obtain ⟨d, logs, houtcome, rfl⟩ := visitUnit_outcome? hdocument hfound h
    constructor
    · rw [annotated_apply]
      simp only [writes, List.filterMap_cons, Visit.written?, houtcome, Option.bind_some]
      cases d.written? found <;> rfl
    · rw [corrections_apply]
      simp only [List.filterMap_cons, Visit.correction?, houtcome, Option.bind_some]
      cases d.correction? <;> rfl

/-- The annotated document and the corrections of a pass, visit by visit. -/
theorem annotated_eq_setAll (hv : value.WellFormed)
    (h : Pass.run value map metadata = .ok pass) :
    pass.annotated =
        Path.setAll (writes metadata value (visits metadata value [] map.processingOrder)) value ∧
      pass.corrections =
        (visits metadata value [] map.processingOrder).filterMap
          (Visit.correction? metadata value) := by
  obtain ⟨s, ⟨hannotated, hcorrections⟩, rfl⟩ := cumulative_writes.run hv h
  exact ⟨hannotated, hcorrections⟩

/-- The units that have to be corrected after a pass. -/
def blockedUnits (metadata : Metadata) (value : Json) (map : ValidatorMap) : List Path :=
  (visits metadata value [] map.processingOrder).filterMap fun visit =>
    (visit.correction? metadata value).map fun _ => visit.unit

/-- The corrections of a pass are on record under the paths of the units that it blocked. -/
theorem map_path_corrections (hv : value.WellFormed)
    (h : Pass.run value map metadata = .ok pass) :
    pass.corrections.map (·.path) = (blockedUnits metadata value map).map Path.render := by
  rw [(annotated_eq_setAll hv h).2, blockedUnits, List.map_filterMap, List.map_filterMap]
  refine List.filterMap_congr fun visit _ => ?_
  cases hc : visit.correction? metadata value with
  | none => rfl
  | some c => exact congrArg some (path_of_correction? hc)

/-- A visit that asks for a correction puts the marker at its unit. -/
theorem written?_of_correction? (h : visit.correction? metadata value = some c) :
    visit.written? metadata value = some c.marker := by
  unfold Visit.correction? at h
  unfold Visit.written?
  cases houtcome : visit.outcome? metadata value with
  | none => rw [houtcome] at h; cases h
  | some o =>
    obtain ⟨found, d⟩ := o
    rw [houtcome, Option.bind_some] at h
    cases d with
    | keep value => cases h
    | block policy c' =>
      obtain rfl := Option.some.inj h
      rfl

/-! ## What is seen in the end -/

/-- A value that stands at a path shows a marker on the way to a unit: at the unit itself, or at one
that leads to it, the value has the marker that a visit recorded there. -/
def ShowsMarker (metadata : Metadata) (value : Json) (all : List Visit) (u p : Path) (v : Json) :
    Prop :=
  ∃ marked ∈ all, ∃ c rest, marked.correction? metadata value = some c ∧ marked.unit <+: u ∧
    marked.unit = p ++ rest ∧ rest.get? v = some c.marker

/-- The last visit that puts something at a unit or on the way to it. -/
structure LastWrite (metadata : Metadata) (value : Json) (all : List Visit) (u : Path)
    (last : Visit) (written : Json) : Prop where
  leads : last.unit <+: u
  written_eq : last.written? metadata value = some written
  split : ∃ before after, all = before ++ last :: after ∧
    ∀ later ∈ after, later.unit <+: u → later.written? metadata value = none

/-- If anything is put there, something is put there last. -/
theorem exists_lastWrite (hmem : visit ∈ all) (hunit : visit.unit <+: u)
    (hwritten : visit.written? metadata value = some v) :
    ∃ last written, LastWrite metadata value all u last written := by
  induction all generalizing visit v with
  | nil => cases hmem
  | cons first rest ih =>
    by_cases hlater : ∃ later ∈ rest, later.unit <+: u ∧ later.written? metadata value ≠ none
    · obtain ⟨later, hlmem, hlunit, hlwritten⟩ := hlater
      obtain ⟨w, hw⟩ := Option.ne_none_iff_exists'.1 hlwritten
      obtain ⟨last, written, hleads, heq, before, after, rfl, hafter⟩ := ih hlmem hlunit hw
      exact ⟨last, written, hleads, heq, first :: before, after, rfl, hafter⟩
    · push Not at hlater
      rcases List.mem_cons.1 hmem with rfl | hrest
      · exact ⟨visit, v, hunit, hwritten, [], rest, rfl, hlater⟩
      · rw [hlater visit hrest hunit] at hwritten
        cases hwritten

/-- What the annotated document has where the last of its visits put something, and below. -/
theorem LastWrite.get?_setAll (h : LastWrite metadata value all u last written)
    (hall : all.Pairwise fun a b => b.unit.length ≤ a.unit.length)
    (hthere : (last.unit.get? value).isSome) :
    p.get? written = (last.unit ++ p).get? (Path.setAll (writes metadata value all) value) := by
  obtain ⟨hleads, hwritten, before, after, rfl, hafter⟩ := h
  obtain ⟨-, hlast, hbefore⟩ := List.pairwise_append.1 hall
  have hwrites : writes metadata value (before ++ last :: after) =
      writes metadata value before ++ (last.unit, written) :: writes metadata value after := by
    simp [writes, hwritten]
  rw [hwrites, Path.get?_setAll_of_last hthere]
  · intro w hw
    obtain ⟨visit, hvisit, hput⟩ := List.mem_filterMap.1 hw
    obtain ⟨x, -, rfl⟩ := Option.map_eq_some_iff.1 hput
    exact hbefore visit hvisit last List.mem_cons_self
  · intro w hw
    obtain ⟨visit, hvisit, hput⟩ := List.mem_filterMap.1 hw
    obtain ⟨x, hx, rfl⟩ := Option.map_eq_some_iff.1 hput
    refine ⟨(List.pairwise_cons.1 hlast).1 visit hvisit, fun habove => ?_⟩
    rw [hafter visit hvisit (habove.trans hleads)] at hx
    cases hx

/-- What is seen on the way to a unit is what the last visit that put something there let
through. -/
theorem showsMarker_iff_of_lastWrite (h : LastWrite metadata value all u last written)
    (hall : all.Pairwise fun a b => b.unit.length ≤ a.unit.length)
    (hthere : (last.unit.get? value).isSome) :
    ShowsMarker metadata value all u [] (Path.setAll (writes metadata value all) value) ↔
      ShowsMarker metadata value all u last.unit written := by
  constructor
  · rintro ⟨marked, hmem, c, rest, hcorrection, hleads, hrest, hget⟩
    -- a shallower marker would have been put later than the last write
    have hlen : last.unit.length ≤ marked.unit.length := by
      obtain ⟨-, hwritten, before, after, rfl, hafter⟩ := h
      rcases List.mem_append.1 hmem with hbefore | hlater
      · exact (List.pairwise_append.1 hall).2.2 marked hbefore last List.mem_cons_self
      · rcases List.mem_cons.1 hlater with rfl | hlater
        · exact Nat.le_refl _
        · have hnone := hafter marked hlater hleads
          rw [written?_of_correction? hcorrection] at hnone
          cases hnone
    obtain ⟨below, hbelow⟩ := List.prefix_of_prefix_length_le h.leads hleads hlen
    refine ⟨marked, hmem, c, below, hcorrection, hleads, hbelow.symm, ?_⟩
    rw [List.nil_append] at hrest
    rw [h.get?_setAll hall hthere, hbelow, hrest, hget]
  · rintro ⟨marked, hmem, c, rest, hcorrection, hleads, hrest, hget⟩
    refine ⟨marked, hmem, c, marked.unit, hcorrection, hleads, rfl, ?_⟩
    rw [hrest, ← h.get?_setAll hall hthere, hget]

/-- A visit that blocks its unit shows its own marker. -/
theorem LastWrite.showsMarker (h : LastWrite metadata value all u last written)
    (hcorrection : last.correction? metadata value = some c) :
    ShowsMarker metadata value all u last.unit written := by
  obtain ⟨hleads, hwritten, before, after, rfl, -⟩ := h
  rw [written?_of_correction? hcorrection] at hwritten
  exact ⟨last, by simp, c, [], hcorrection, hleads, (List.append_nil _).symm, hwritten.symm⟩

/-- A unit that has to be corrected is marked in the annotated document, itself or on the way to it,
exactly if the last visit that put something there blocked its unit, or the value to which it fixed
its unit happens to hold such a marker. -/
theorem showsMarker_annotated_iff (hv : value.WellFormed)
    (h : Pass.run value map metadata = .ok pass) :
    let all := visits metadata value [] map.processingOrder
    pass.corrections = all.filterMap (Visit.correction? metadata value) ∧
      ∀ visit ∈ all, ∀ c, visit.correction? metadata value = some c →
        c.path = visit.unit.render ∧
          ∃ last written, LastWrite metadata value all visit.unit last written ∧
            (ShowsMarker metadata value all visit.unit [] pass.annotated ↔
              (last.correction? metadata value).isSome ∨
                ShowsMarker metadata value all visit.unit last.unit written) := by
  intro all
  obtain ⟨hannotated, hcorrections⟩ := annotated_eq_setAll hv h
  refine ⟨hcorrections, fun visit hvisit c hc => ⟨path_of_correction? hc, ?_⟩⟩
  obtain ⟨last, written, hlast⟩ :=
    exists_lastWrite hvisit (List.prefix_refl _) (written?_of_correction? hc)
  have hmem : last ∈ all := by
    obtain ⟨before, after, hsplit, -⟩ := hlast.split
    rw [hsplit]
    simp
  have hthere := isSome_get?_of_mem_visits hv (processingOrder_pairwise map) hmem
  refine ⟨last, written, hlast, ?_⟩
  rw [hannotated, showsMarker_iff_of_lastWrite hlast
    (visits_pairwise (processingOrder_pairwise map)) hthere]
  constructor
  · exact .inr
  · rintro (hblocked | hkept)
    · obtain ⟨c', hc'⟩ := Option.isSome_iff_exists.1 hblocked
      exact hlast.showsMarker hc'
    · exact hkept

/-- A blocked item of a list that is itself blocked later is marked on the way. -/
theorem showsMarker_annotated_of_blocked_list :
    let value := Json.arr [.str "x", .str "ok"]
    let map : ValidatorMap :=
      ⟨[([.index 0], [⟨.choices [.str "ok"], .reask⟩]),
        ([], [⟨.length ⟨none, some 0⟩, .reask⟩])]⟩
    value.WellFormed ∧ ∃ pass, Pass.run value map [] = .ok pass ∧
      ShowsMarker [] value (visits [] value [] map.processingOrder) [.index 0] []
        pass.annotated := by
  intro value map
  have hsort : map.processingOrder = map.entries := List.mergeSort_of_pairwise (by decide)
  have hv : value.WellFormed := ⟨trivial, trivial, trivial⟩
  have hrun : ∃ pass, Pass.run value map [] = .ok pass := by
    unfold Pass.run
    rw [hsort]
    exact ⟨_, rfl⟩
  obtain ⟨pass, hpass⟩ := hrun
  have hvisits : visits [] value [] map.processingOrder =
      [⟨[], map.entries[0], [.index 0]⟩, ⟨[map.entries[0]], map.entries[1], []⟩] := by
    rw [hsort]
    rfl
  have hblocked : ∀ visit ∈ visits [] value [] map.processingOrder,
      (visit.correction? [] value).isSome := by
    rw [hvisits]
    simp only [List.forall_mem_cons, List.not_mem_nil, false_imp_iff, implies_true, and_true]
    exact ⟨rfl, rfl⟩
  obtain ⟨-, hall⟩ := showsMarker_annotated_iff hv hpass
  obtain ⟨first, hfirst, hunit⟩ : ∃ first ∈ visits [] value [] map.processingOrder,
      first.unit = [.index 0] := by
    rw [hvisits]
    exact ⟨_, List.mem_cons_self, rfl⟩
  obtain ⟨c, hc⟩ := Option.isSome_iff_exists.1 (hblocked first hfirst)
  obtain ⟨-, last, written, ⟨-, -, before, after, hsplit, -⟩, hiff⟩ := hall first hfirst c hc
  rw [hunit] at hiff
  exact ⟨hv, pass, hpass, hiff.2 (.inl (hblocked last (by rw [hsplit]; simp)))⟩

/-- A list that is cut to length takes the marker of its first item with it. -/
theorem not_marked_after_fix :
    let value := Json.arr [.str "x", .str "ok", .str "ok"]
    let map : ValidatorMap :=
      ⟨[([.index 0], [⟨.choices [.str "ok"], .reask⟩]),
        ([], [⟨.length ⟨none, some 1⟩, .fix⟩])]⟩
    value.WellFormed ∧ ∃ pass c, Pass.run value map [] = .ok pass ∧ pass.corrections = [c] ∧
      c.path = Path.render [.index 0] ∧ pass.annotated = .arr [.str "ok"] ∧
      ∀ p : Path, p <+: [.index 0] → p.get? pass.annotated ≠ some c.marker := by
  intro value map
  have hsort : map.processingOrder = map.entries := List.mergeSort_of_pairwise (by decide)
  refine ⟨⟨trivial, trivial, trivial, trivial⟩, ?_⟩
  unfold Pass.run
  rw [hsort]
  refine ⟨_, _, rfl, rfl, rfl, rfl, fun p hp => ?_⟩
  -- the only paths on the way are the root and the item
  rcases List.prefix_cons_iff.1 hp with rfl | ⟨rest, rfl, hrest⟩
  · intro h
    cases h
  · obtain rfl := List.prefix_nil.1 hrest
    intro h
    cases h

end Guardrail.Pass
