import Guardrail.Extraction
import Guardrail.Proofs.Dict.Insert
import Guardrail.Proofs.Json.Ordered

/-!
# Values read from text

A value that is read from text lists the members of its objects in key order, at every depth: the
reader builds each object by insertions.

Results:
* `wellFormed_of_ofChars?`: what a JSON text stands for is well formed.
* `wellFormed_of_extract?`: so is the value found in a response.
-/

namespace Guardrail

namespace Json

variable {α : Type} {cs rest : List Char}

/-! ## Containers -/

theorem wellFormedItems_of_forall {items : List Json} (h : ∀ x ∈ items, WellFormed x) :
    WellFormedItems items := by
  induction items with
  | nil => trivial
  | cons x xs ih =>
    exact ⟨h x List.mem_cons_self, ih fun y hy => h y (List.mem_cons_of_mem _ hy)⟩

theorem wellFormedMembers_of_forall {members : List (String × Json)}
    (h : ∀ e ∈ members, WellFormed e.2) : WellFormedMembers members := by
  induction members with
  | nil => trivial
  | cons e es ih =>
    exact ⟨h e List.mem_cons_self, ih fun y hy => h y (List.mem_cons_of_mem _ hy)⟩

theorem forall_of_readItems {item : Reader α} {close : Char} {P : α → Prop}
    (hitem : ∀ cs x rest, item cs = some (x, rest) → P x) {fuel : Nat} {xs : List α}
    (h : readItems item close fuel cs = some (xs, rest)) : ∀ x ∈ xs, P x := by
  induction fuel generalizing cs xs rest with
  | zero => cases h
  | succ fuel ih =>
    rw [readItems] at h
    cases hx : item cs with
    | none => simp [hx] at h
    | some first =>
      obtain ⟨x, after⟩ := first
      have hPx := hitem _ _ _ hx
      cases hafter : skipSpace after with
      | nil => simp [hx, hafter] at h
      | cons c more =>
        simp only [hx, hafter] at h
        split at h
        · obtain ⟨⟨ys, r⟩, hys, heq⟩ := Option.map_eq_some_iff.1 h
          obtain ⟨rfl, rfl⟩ := Prod.mk.inj heq
          exact List.forall_mem_cons.2 ⟨hPx, ih hys⟩
        · split at h
          · obtain ⟨rfl, -⟩ := Prod.mk.inj (Option.some.inj h)
            exact List.forall_mem_cons.2 ⟨hPx, by simp⟩
          · cases h

theorem forall_of_readSequence {item : Reader α} {close : Char} {P : α → Prop}
    (hitem : ∀ cs x rest, item cs = some (x, rest) → P x) {xs : List α}
    (h : readSequence item close cs = some (xs, rest)) : ∀ x ∈ xs, P x := by
  unfold readSequence at h
  split at h
  · cases h
  · split at h
    · obtain ⟨rfl, -⟩ := Prod.mk.inj (Option.some.inj h)
      simp
    · exact forall_of_readItems hitem h

/-! ## Values -/

theorem wellFormed_of_readMember {value : Reader Json}
    (hvalue : ∀ cs v rest, value cs = some (v, rest) → WellFormed v) {e : String × Json}
    (h : readMember value cs = some (e, rest)) : WellFormed e.2 := by
  unfold readMember at h
  split at h
  · split at h
    · cases h
    · split at h
      · obtain ⟨⟨v, r⟩, hv, heq⟩ := Option.map_eq_some_iff.1 h
        obtain ⟨rfl, -⟩ := Prod.mk.inj heq
        exact hvalue _ _ _ hv
      · cases h
  · cases h

theorem wellFormed_of_readScalar {v : Json} (h : readScalar cs = some (v, rest)) :
    WellFormed v := by
  unfold readScalar at h
  split at h
  · obtain ⟨rfl, -⟩ := Prod.mk.inj (Option.some.inj h)
    trivial
  · obtain ⟨rfl, -⟩ := Prod.mk.inj (Option.some.inj h)
    trivial
  · obtain ⟨rfl, -⟩ := Prod.mk.inj (Option.some.inj h)
    trivial
  · obtain ⟨⟨s, r⟩, -, heq⟩ := Option.map_eq_some_iff.1 h
    obtain ⟨rfl, -⟩ := Prod.mk.inj heq
    trivial
  · split at h
    · cases h
    · obtain ⟨n, -, heq⟩ := Option.map_eq_some_iff.1 h
      obtain ⟨rfl, -⟩ := Prod.mk.inj heq
      trivial

theorem wellFormed_of_readValue {depth : Nat} {v : Json}
    (h : readValue depth cs = some (v, rest)) : WellFormed v := by
  induction depth generalizing cs v rest with
  | zero => exact wellFormed_of_readScalar h
  | succ depth ih =>
    unfold readValue at h
    split at h
    · obtain ⟨⟨items, r⟩, hitems, heq⟩ := Option.map_eq_some_iff.1 h
      obtain ⟨rfl, -⟩ := Prod.mk.inj heq
      exact wellFormedItems_of_forall (forall_of_readSequence (fun _ _ _ hx => ih hx) hitems)
    · obtain ⟨⟨members, r⟩, hmembers, heq⟩ := Option.map_eq_some_iff.1 h
      obtain ⟨rfl, -⟩ := Prod.mk.inj heq
      have hall := forall_of_readSequence
        (fun _ _ _ he => wellFormed_of_readMember (fun _ _ _ hx => ih hx) he) hmembers
      exact ⟨Dict.sorted_ofList members,
        wellFormedMembers_of_forall fun e he => hall e (Dict.mem_ofList he)⟩
    · exact wellFormed_of_readScalar h

/-- What a JSON text stands for is well formed. -/
theorem wellFormed_of_ofChars? {v : Json} (h : ofChars? cs = some v) : WellFormed v := by
  unfold ofChars? at h
  split at h
  · next hv =>
    split at h
    · obtain rfl := Option.some.inj h
      exact wellFormed_of_readValue hv
    · cases h
  · cases h

end Json

/-! ## Responses -/

namespace Extraction

theorem wellFormed_of_fenced? {cs : List Char} {v : Json} (h : fenced? cs = some v) :
    v.WellFormed := by
  obtain ⟨parts, -, h⟩ := Option.bind_eq_some_iff.1 h
  obtain ⟨inside, -, h⟩ := Option.bind_eq_some_iff.1 h
  exact Json.wellFormed_of_ofChars? h

theorem wellFormed_of_leftmost? {opening closing : Char} {cs : List Char} {v : Json}
    (h : leftmost? opening closing cs = some v) : v.WellFormed := by
  induction cs with
  | nil => cases h
  | cons c rest ih =>
    unfold leftmost? at h
    split at h
    · rcases Option.or_eq_some_iff.1 h with hhere | ⟨-, hlater⟩
      · obtain ⟨text, -, htext⟩ := Option.bind_eq_some_iff.1 hhere
        exact Json.wellFormed_of_ofChars? htext
      · exact ih hlater
    · exact ih h

theorem wellFormed_of_value? {shape : Shape} {opening closing : Char} {cs : List Char} {v : Json}
    (h : value? shape opening closing cs = some v) : v.WellFormed := by
  unfold value? at h
  rcases Option.or_eq_some_iff.1 h with hfenced | ⟨-, h⟩
  · exact wellFormed_of_fenced? (Option.filter_eq_some_iff.1 hfenced).1
  · rcases Option.or_eq_some_iff.1 h with hbrackets | ⟨-, hwhole⟩
    · exact wellFormed_of_leftmost? (Option.filter_eq_some_iff.1 hbrackets).1
    · exact Json.wellFormed_of_ofChars? (Option.filter_eq_some_iff.1 hwhole).1

/-- The value found in a response is well formed. -/
theorem wellFormed_of_extract? {shape : Shape} {text : String} {v : Json}
    (h : extract? shape text = some v) : v.WellFormed := by
  unfold extract? at h
  split at h
  · obtain rfl := Option.some.inj h
    trivial
  · exact wellFormed_of_value? h
  · exact wellFormed_of_value? h

theorem admits_of_value? {shape : Shape} {opening closing : Char} {cs : List Char} {v : Json}
    (h : value? shape opening closing cs = some v) : shape.admits v = true := by
  unfold value? at h
  rcases Option.or_eq_some_iff.1 h with hfenced | ⟨-, h⟩
  · exact (Option.filter_eq_some_iff.1 hfenced).2
  · rcases Option.or_eq_some_iff.1 h with hbrackets | ⟨-, hwhole⟩
    · exact (Option.filter_eq_some_iff.1 hbrackets).2
    · exact (Option.filter_eq_some_iff.1 hwhole).2

/-- The value found in a response has the shape asked for. -/
theorem admits_of_extract? {shape : Shape} {text : String} {v : Json}
    (h : extract? shape text = some v) : shape.admits v = true := by
  unfold extract? at h
  split at h
  · obtain rfl := Option.some.inj h
    rfl
  · exact admits_of_value? h
  · exact admits_of_value? h

end Extraction
end Guardrail
