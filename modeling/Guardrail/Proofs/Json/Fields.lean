import Guardrail.Json.Record
import Guardrail.Proofs.Dict.Lookup

/-!
# Fields read back

A record that is written under different names is found again field by field, whatever the order in
which its members are kept and whatever stands beside them. What is read of a field is what was
written, with one exception: where a field may be without a value, null is read as none.

Results:
* `find?_bindings`, `Record.holds_ofFields`: every field is found under its name.
* `Record.Holds.erase`, `Record.Holds.append_left`: the other fields do not matter.
* `Record.Holds.required`, `defaulted`, `optional`, `omittable`: reading a field.
* `Record.Holds.optional_any`, `omittable_any`: null in place of any value is none.
* `nat?_ofNat`, `list?_map`: numbers and lists are read back.
-/

namespace Guardrail.Json

variable {α β : Type} {fields others : List Field} {f : Field}

/-! ## Parts -/

theorem nat?_ofNat {bits n : Nat} (h : n < Nat.pow 2 bits) : nat? bits (ofNat n) = some n := by
  have hrange : (0 : Int) ≤ (n : Int) ∧ (n : Int) ≤ ↑(Nat.pow 2 bits - 1) := by omega
  rw [nat?, ofNat, intIn?, if_pos hrange, Option.map_some, Int.toNat_natCast]

theorem lt_of_nat? {bits n : Nat} {j : Json} (h : nat? bits j = some n) : n < Nat.pow 2 bits := by
  have hpos : 0 < Nat.pow 2 bits := Nat.pow_pos (by decide)
  obtain ⟨i, hi, rfl⟩ := Option.map_eq_some_iff.1 h
  cases j with
  | num x =>
    cases x with
    | int value =>
      obtain ⟨hrange, rfl⟩ := Option.ite_some_none_eq_some.1 hi
      omega
    | float x => cases hi
  | _ => cases hi

/-- A list is read back item by item. -/
theorem list?_map {encode : α → Json} {decode : Json → Option β} {g : α → β} {xs : List α}
    (h : ∀ x ∈ xs, decode (encode x) = some (g x)) :
    list? decode (.arr (xs.map encode)) = some (xs.map g) := by
  show (xs.map encode).mapM decode = some (xs.map g)
  induction xs with
  | nil => rfl
  | cons x xs ih =>
    obtain ⟨hx, hxs⟩ := List.forall_mem_cons.1 h
    rw [List.map_cons, List.mapM_cons, hx, ih hxs]
    rfl

/-! ## Bindings of fields -/

/-- The bindings that are written for fields. -/
def bindings (fields : List Field) : List (String × Json) :=
  fields.filterMap fun f => f.value.map (f.name, ·)

theorem ofFields_eq (fields : List Field) :
    ofFields fields = .obj (Dict.ofList (bindings fields)) := rfl

theorem keys_bindings_sublist (fields : List Field) :
    (Dict.keys (bindings fields)).Sublist (fields.map (·.name)) := by
  induction fields with
  | nil => exact List.Sublist.slnil
  | cons f rest ih =>
    cases hvalue : f.value with
    | none => simpa [bindings, Dict.keys, hvalue] using ih.cons f.name
    | some v => simpa [bindings, Dict.keys, hvalue] using ih

/-- A field is found under its name, if no other one has that name. -/
theorem find?_bindings (hnames : (fields.map (·.name)).Nodup) (hf : f ∈ fields) :
    Dict.find? (bindings fields) f.name = f.value := by
  induction fields with
  | nil => cases hf
  | cons g rest ih =>
    obtain ⟨hg, hrest⟩ := List.nodup_cons.1 hnames
    rcases List.mem_cons.1 hf with rfl | hmem
    · cases hvalue : f.value with
      | some v => simp [bindings, hvalue, Dict.find?]
      | none =>
        have hskip : bindings (f :: rest) = bindings rest := by simp [bindings, hvalue]
        rw [hskip]
        exact Dict.find?_eq_none_of_forall_ne fun key hkey =>
          ne_of_mem_of_not_mem ((keys_bindings_sublist rest).subset hkey) hg
    · have hne : g.name ≠ f.name :=
        (ne_of_mem_of_not_mem (List.mem_map_of_mem (f := Field.name) hmem) hg).symm
      rw [← ih hrest hmem]
      cases hvalue : g.value with
      | none => simp [bindings, hvalue]
      | some v => simp [bindings, hvalue, Dict.find?, hne]

/-! ## Records -/

namespace Record

/-- The fields are found in the record. -/
structure Holds (r : Record) (fields : List Field) : Prop where
  byName : r.byName = true
  field?_eq : ∀ f ∈ fields, r.field? f.name = f.value

/-- An object that was written for fields holds them. -/
theorem holds_ofFields (hnames : (fields.map (·.name)).Nodup) :
    Holds ⟨Dict.find? (Dict.ofList (bindings fields)), true⟩ fields where
  byName := rfl
  field?_eq f hf := by
    have hkeys := hnames.sublist (keys_bindings_sublist fields)
    show (Dict.ofList (bindings fields)).find? f.name = f.value
    rw [Dict.find?_ofList, Dict.find?_reverse hkeys, find?_bindings hnames hf]

/-- A value that was written for fields is an object that holds them. -/
theorem exists_members {j : Json} (hj : j = ofFields fields)
    (hnodup : (fields.map (·.name)).Nodup) :
    ∃ members, j = .obj members ∧ Holds ⟨Dict.find? members, true⟩ fields :=
  ⟨_, hj, holds_ofFields hnodup⟩

/-- A value that was written for fields can be read as a record with their names. -/
theorem exists_record {j : Json} (names : List String) (hj : j = ofFields fields)
    (hnames : fields.map (·.name) = names) (hnodup : names.Nodup) :
    ∃ r, j.record? names = some r ∧ r.Holds fields := by
  subst hj hnames
  exact ⟨_, rfl, holds_ofFields hnodup⟩

theorem Holds.append_left {r : Record} (h : r.Holds (fields ++ others)) : r.Holds fields :=
  ⟨h.byName, fun f hf => h.field?_eq f (List.mem_append_left _ hf)⟩

/-- A member with a name of its own may be taken out. -/
theorem Holds.erase {members : Dict Json} (h : Holds ⟨Dict.find? members, true⟩ fields)
    {name : String} (hname : name ∉ fields.map (·.name)) :
    Holds ⟨Dict.find? (Dict.erase members name), true⟩ fields where
  byName := rfl
  field?_eq f hf := by
    have hne : f.name ≠ name := ne_of_mem_of_not_mem (List.mem_map_of_mem hf) hname
    exact (Dict.find?_erase_of_ne members hne).trans (h.field?_eq f hf)

variable {r : Record}

theorem optional_of_some {name : String} {j : Json} (h : r.field? name = some j) (hj : j ≠ .null)
    (decode : Json → Option α) : r.optional name decode = (decode j).map some := by
  rw [optional, h]
  split
  · next hnone => cases hnone
  · next hsome => exact absurd (Option.some.inj hsome) hj
  · next hsome => rw [Option.some.inj hsome]

theorem omittable_of_some {name : String} {j : Json} (h : r.field? name = some j) (hj : j ≠ .null)
    (decode : Json → Option α) : r.omittable name decode = (decode j).map some := by
  rw [omittable, h]
  split
  · next hnone => cases hnone
  · next hsome => exact absurd (Option.some.inj hsome) hj
  · next hsome => rw [Option.some.inj hsome]

theorem Holds.required (h : r.Holds fields) (name : String) (j : Json)
    (hf : .present name j ∈ fields) (decode : Json → Option α) :
    r.required name decode = decode j := by
  have hfield : r.field? name = some j := h.field?_eq _ hf
  rw [Record.required, hfield, Option.bind_some]

theorem Holds.defaulted (h : r.Holds fields) (name : String) (j : Json)
    (hf : .present name j ∈ fields) (decode : Json → Option α) (default : α) :
    r.defaulted name decode default = decode j := by
  have hfield : r.field? name = some j := h.field?_eq _ hf
  rw [Record.defaulted, hfield]

/-- An optional field is read back, if its values are not written as null. -/
theorem Holds.optional (h : r.Holds fields) (name : String) (encode : α → Json)
    (value : Option α) (hf : .nullable name encode value ∈ fields) {decode : Json → Option α}
    (hnull : ∀ v, encode v ≠ .null) (hread : ∀ v, value = some v → decode (encode v) = some v) :
    r.optional name decode = some value := by
  have hfield : r.field? name = some (value.elim .null encode) := h.field?_eq _ hf
  cases value with
  | none => rw [Record.optional, hfield, Option.elim_none]
  | some v =>
    rw [Option.elim_some] at hfield
    rw [optional_of_some hfield (hnull v) decode, hread v rfl, Option.map_some]

/-- Of any value, null is read as none. -/
theorem Holds.optional_any (h : r.Holds fields) (name : String) (value : Option Json)
    (hf : .nullable name id value ∈ fields) :
    r.optional name any? = some (value.filter (!·.isNull)) := by
  have hfield : r.field? name = some (value.elim .null id) := h.field?_eq _ hf
  rw [Record.optional, hfield]
  cases value with
  | none => rfl
  | some v => cases v <;> rfl

theorem Holds.omittable (h : r.Holds fields) (name : String) (encode : α → Json)
    (value : Option α) (hf : .omitted name encode value ∈ fields) {decode : Json → Option α}
    (hnull : ∀ v, encode v ≠ .null) (hread : ∀ v, value = some v → decode (encode v) = some v) :
    r.omittable name decode = some value := by
  have hfield : r.field? name = value.map encode := h.field?_eq _ hf
  cases value with
  | none => rw [Record.omittable, hfield, Option.map_none]
  | some v =>
    rw [Option.map_some] at hfield
    rw [omittable_of_some hfield (hnull v) decode, hread v rfl, Option.map_some]

theorem Holds.omittable_any (h : r.Holds fields) (name : String) (value : Option Json)
    (hf : .omitted name id value ∈ fields) :
    r.omittable name any? = some (value.filter (!·.isNull)) := by
  have hfield : r.field? name = value.map id := h.field?_eq _ hf
  rw [Record.omittable, hfield]
  cases value with
  | none => rfl
  | some v => cases v <;> rfl

end Record
end Guardrail.Json
