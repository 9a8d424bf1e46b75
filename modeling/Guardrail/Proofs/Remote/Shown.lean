import Guardrail.Proofs.Json.Fields
import Guardrail.Remote.Payload

/-!
# What a payload shows

A payload shows its fields and, beside them, the arguments of the call by name. Under the name of a
field it shows an argument of that name rather than the field, whether the field has a value or not.
So a payload says of its call what is so, and is read back as it was, exactly if no argument has the
name of a field.

Results:
* `member?_toJson`, `member?_toJson_field`: what is shown under a name.
* `ofJson?_toJson_iff`: when a payload is read back as it was.
* `member?_ofCall_told`, `member?_ofCall_of_notMem`: what is shown of a call.
* `says_ofCall_iff`: when a payload says what its call says.
* `retries_hidden`: an argument that is taken for the budget of its call.
-/

namespace Guardrail.Remote.Payload

open Json (Field Record)

variable {p : Payload} {f : Field} {name : String}

/-! ## Fields and arguments -/

/-- The fields, those without a value among them. -/
def ownFields (p : Payload) : List Field :=
  [.present "args" (.arr p.args), .omitted "llmOutput" .str p.output,
    .omitted "numReasks" .ofNat p.retries, .omitted "promptParams" .obj p.params,
    .omitted "llmApi" .str p.provider]

theorem nodup_ownFields (p : Payload) : (p.ownFields.map (·.name)).Nodup := by
  show fieldNames.Nodup
  decide

theorem name_mem_fieldNames (hf : f ∈ p.ownFields) : f.name ∈ fieldNames :=
  List.mem_map_of_mem (f := Field.name) hf

theorem bindings_ownFields (p : Payload) : Json.bindings p.ownFields = p.fields := by
  obtain ⟨_, output, retries, params, provider, _⟩ := p
  cases output <;> cases retries <;> cases params <;> cases provider <;> rfl

theorem keys_fields_sublist (p : Payload) : (Dict.keys p.fields).Sublist fieldNames := by
  rw [← bindings_ownFields]
  exact Json.keys_bindings_sublist p.ownFields

/-- Under a name an argument is shown, and a field only if no argument has that name. -/
theorem member?_toJson (hkwargs : p.kwargs.Sorted) (name : String) :
    p.toJson.member? name = (p.kwargs.find? name).or (Dict.find? p.fields name) := by
  have hfields : (Dict.keys p.fields).Nodup := p.nodup_ownFields.sublist p.keys_fields_sublist
  show (Dict.ofList (p.fields ++ p.kwargs)).find? name = _
  rw [Dict.find?_ofList, List.reverse_append, Dict.find?_append,
    Dict.find?_reverse hkwargs.keys_nodup, Dict.find?_reverse hfields]

theorem member?_toJson_field (hkwargs : p.kwargs.Sorted) (hf : f ∈ p.ownFields) :
    p.toJson.member? f.name = (p.kwargs.find? f.name).or f.value := by
  rw [member?_toJson hkwargs, ← bindings_ownFields, Json.find?_bindings p.nodup_ownFields hf]

theorem member?_toJson_of_notMem (hkwargs : p.kwargs.Sorted) (hname : name ∉ fieldNames) :
    p.toJson.member? name = p.kwargs.find? name := by
  have hnone : Dict.find? p.fields name = none :=
    Dict.find?_eq_none_of_forall_ne fun key hkey =>
      ne_of_mem_of_not_mem (p.keys_fields_sublist.subset hkey) hname
  rw [member?_toJson hkwargs, hnone, Option.or_none]

/-! ## Reading a payload -/

/-- No argument has the name of a field. -/
def Unhidden (kwargs : Dict Json) : Prop := ∀ name ∈ fieldNames, kwargs.find? name = none

theorem holds_ownFields (hkwargs : p.kwargs.Sorted) (hfree : Unhidden p.kwargs) :
    Record.Holds ⟨p.toJson.member?, true⟩ p.ownFields where
  byName := rfl
  field?_eq f hf := by
    show p.toJson.member? f.name = f.value
    rw [member?_toJson_field hkwargs hf, hfree f.name (name_mem_fieldNames hf), Option.none_or]

/-- What is read as an argument has no name of a field. -/
theorem unhidden_of_ofJson? {j : Json} (h : ofJson? j = some p) : Unhidden p.kwargs := by
  intro name hname
  simp only [ofJson?, Option.bind_eq_bind, Option.bind_eq_some_iff] at h
  obtain ⟨members, -, _, -, _, -, _, -, _, -, _, -, heq⟩ := h
  have hread : p.kwargs = members.filter fun m => !fieldNames.contains m.1 :=
    (congrArg kwargs (Option.some.inj heq)).symm
  rw [hread, Dict.find?_filter members fun key => !fieldNames.contains key]
  simp [hname]

/-- The arguments are the members without the name of a field. -/
theorem filter_members (hkwargs : p.kwargs.Sorted) (hfree : Unhidden p.kwargs) :
    (Dict.ofList (p.fields ++ p.kwargs)).filter (fun m => !fieldNames.contains m.1) =
      p.kwargs := by
  refine Dict.eq_of_find?_eq ((Dict.sorted_ofList _).filter _) hkwargs fun name => ?_
  rw [Dict.find?_filter _ fun key => !fieldNames.contains key]
  by_cases hname : name ∈ fieldNames
  · rw [hfree name hname, if_neg (by simp [hname])]
  · rw [if_pos (by simp [hname])]
    exact member?_toJson_of_notMem hkwargs hname

theorem ofJson?_toJson (hretries : ∀ n, p.retries = some n → n < Nat.pow 2 32)
    (hkwargs : p.kwargs.Sorted) (hfree : Unhidden p.kwargs) : ofJson? p.toJson = some p := by
  have h : Record.Holds ⟨Dict.find? (Dict.ofList (p.fields ++ p.kwargs)), true⟩ p.ownFields :=
    holds_ownFields hkwargs hfree
  have hargs := h.defaulted "args" (.arr p.args) (by simp [ownFields]) Json.items? []
  have houtput : Record.omittable _ "llmOutput" Json.str? = some p.output :=
    h.omittable "llmOutput" .str p.output (by simp [ownFields]) (by simp) (by simp [Json.str?])
  have hbudget : Record.omittable _ "numReasks" (Json.nat? 32) = some p.retries :=
    h.omittable "numReasks" .ofNat p.retries (by simp [ownFields]) (by simp [Json.ofNat])
      fun n hn => Json.nat?_ofNat (hretries n hn)
  have hparams : Record.omittable _ "promptParams" Json.members? = some p.params :=
    h.omittable "promptParams" .obj p.params (by simp [ownFields]) (by simp)
      (by simp [Json.members?])
  have hprovider : Record.omittable _ "llmApi" Json.str? = some p.provider :=
    h.omittable "llmApi" .str p.provider (by simp [ownFields]) (by simp) (by simp [Json.str?])
  rw [toJson, Json.ofMembers, ofJson?, Json.members?]
  simp only [Option.bind_eq_bind, Option.bind_some, hargs, houtput, hbudget, hparams, hprovider,
    filter_members hkwargs hfree, Json.items?]
  rfl

/-- A payload is read back as it was exactly if no argument has the name of a field. -/
theorem ofJson?_toJson_iff (hretries : ∀ n, p.retries = some n → n < Nat.pow 2 32)
    (hkwargs : p.kwargs.Sorted) : ofJson? p.toJson = some p ↔ Unhidden p.kwargs :=
  ⟨unhidden_of_ofJson?, ofJson?_toJson hretries hkwargs⟩

/-! ## What is told about a call -/

variable {c : CallInputs}

/-- What a call has for the fields of its payload. -/
def told (c : CallInputs) (provider : Option String) : List Field :=
  [.present "args" (.arr c.args), .omitted "llmOutput" .str c.inputs.output,
    .present "numReasks" (.ofNat c.inputs.retries),
    .omitted "promptParams" .obj (if c.inputs.params.isEmpty then none else some c.inputs.params),
    .omitted "llmApi" .str provider]

/-- A payload says what a call says: it is read back as it was, shows what the call has for its
fields, and shows every argument except the key under its own name. -/
structure Says (p : Payload) (c : CallInputs) (provider : Option String) : Prop where
  reread : ofJson? p.toJson = some p
  field : ∀ f ∈ told c provider, p.toJson.member? f.name = f.value
  argument : ∀ name v, name ≠ keyArgument → c.kwargs.find? name = some v →
    p.toJson.member? name = some v
  withoutKey : p.toJson.member? keyArgument = none

theorem keyArgument_notMem : keyArgument ∉ fieldNames := by decide

/-- The key has no name of a field, so without it the same fields are hidden. -/
theorem unhidden_erase_iff : Unhidden (c.kwargs.erase keyArgument) ↔ Unhidden c.kwargs := by
  refine forall₂_congr fun name hname => ?_
  rw [Dict.find?_erase_of_ne _ (ne_of_mem_of_not_mem hname keyArgument_notMem)]

variable {provider : Option String}

theorem find?_kwargs_ofCall (hname : name ≠ keyArgument) :
    (ofCall c provider).kwargs.find? name = c.kwargs.find? name :=
  Dict.find?_erase_of_ne _ hname

/-- Of a field and an argument with its name, the argument is shown. -/
theorem member?_ofCall_told (hkwargs : c.kwargs.Sorted) (hf : f ∈ told c provider) :
    (ofCall c provider).toJson.member? f.name = (c.kwargs.find? f.name).or f.value := by
  have hname : f.name ∈ fieldNames := name_mem_fieldNames (p := ofCall c provider) hf
  rw [member?_toJson_field hkwargs.erase hf,
    find?_kwargs_ofCall (ne_of_mem_of_not_mem hname keyArgument_notMem)]

theorem member?_ofCall_of_notMem (hkwargs : c.kwargs.Sorted) (hname : name ∉ fieldNames)
    (hkey : name ≠ keyArgument) :
    (ofCall c provider).toJson.member? name = c.kwargs.find? name := by
  rw [member?_toJson_of_notMem hkwargs.erase hname, find?_kwargs_ofCall hkey]

theorem member?_ofCall_keyArgument (hkwargs : c.kwargs.Sorted) :
    (ofCall c provider).toJson.member? keyArgument = none :=
  (member?_toJson_of_notMem hkwargs.erase keyArgument_notMem).trans
    (Dict.find?_erase_self hkwargs keyArgument)

theorem ofJson?_ofCall_iff (hretries : c.inputs.retries < Nat.pow 2 32)
    (hkwargs : c.kwargs.Sorted) :
    ofJson? (ofCall c provider).toJson = some (ofCall c provider) ↔ Unhidden c.kwargs := by
  have hbudget : ∀ n, (ofCall c provider).retries = some n → n < Nat.pow 2 32 := by
    rintro n ⟨⟩
    exact hretries
  exact (ofJson?_toJson_iff hbudget hkwargs.erase).trans unhidden_erase_iff

theorem says_ofCall (hretries : c.inputs.retries < Nat.pow 2 32) (hkwargs : c.kwargs.Sorted)
    (hfree : Unhidden c.kwargs) : (ofCall c provider).Says c provider where
  reread := (ofJson?_ofCall_iff hretries hkwargs).2 hfree
  field f hf := by
    have hname : f.name ∈ fieldNames := name_mem_fieldNames (p := ofCall c provider) hf
    rw [member?_ofCall_told hkwargs hf, hfree f.name hname, Option.none_or]
  argument name v hname hv := by
    rw [member?_toJson hkwargs.erase, find?_kwargs_ofCall hname, hv, Option.some_or]
  withoutKey := member?_ofCall_keyArgument hkwargs

/-- The payload of a call shows the arguments except the key, and what the call has for a field only
if no argument has the name of that field. So it says what the call says exactly if no argument has
the name of a field. -/
theorem says_ofCall_iff (provider : Option String) (hretries : c.inputs.retries < Nat.pow 2 32)
    (hkwargs : c.kwargs.Sorted) :
    (∀ f ∈ told c provider,
      (ofCall c provider).toJson.member? f.name = (c.kwargs.find? f.name).or f.value) ∧
    (∀ name ∉ fieldNames, name ≠ keyArgument →
      (ofCall c provider).toJson.member? name = c.kwargs.find? name) ∧
    (ofCall c provider).toJson.member? keyArgument = none ∧
    ((ofCall c provider).Says c provider ↔ Unhidden c.kwargs) := by
  refine ⟨fun f hf => member?_ofCall_told hkwargs hf,
    fun name hname hkey => member?_ofCall_of_notMem hkwargs hname hkey,
    member?_ofCall_keyArgument hkwargs, fun h => ?_, says_ofCall hretries hkwargs⟩
  exact (ofJson?_ofCall_iff hretries hkwargs).1 h.reread

/-- A call with the key for its provider and an argument that is named almost like a field. -/
theorem says_ofCall_of_key :
    let c : CallInputs :=
      ⟨{ Inputs.empty with output := some "hello", retries := 2 }, [.str "positional"],
        [("api_key", .str "sk-secret"), ("num_reasks", .ofNat 7)]⟩
    c.inputs.retries < Nat.pow 2 32 ∧ c.kwargs.Sorted ∧
      (ofCall c (some "openai")).Says c (some "openai") := by
  intro c
  have hretries : c.inputs.retries < Nat.pow 2 32 := by decide
  have hkwargs : c.kwargs.Sorted := by decide
  have hfree : Unhidden c.kwargs := by
    intro name hname
    refine Dict.find?_eq_none_of_forall_ne fun key hkey heq => ?_
    subst heq
    revert key
    decide
  obtain ⟨-, -, -, hsays⟩ := says_ofCall_iff (some "openai") hretries hkwargs
  exact ⟨hretries, hkwargs, hsays.2 hfree⟩

/-- An argument with the name of the budget: it is shown and read as the budget, and is no longer
among the arguments. -/
theorem retries_hidden :
    let c : CallInputs := ⟨{ Inputs.empty with retries := 2 }, [], [("numReasks", .ofNat 7)]⟩
    let p := ofCall c none
    c.inputs.retries < Nat.pow 2 32 ∧ c.kwargs.Sorted ∧ p.retries = some 2 ∧
      p.toJson.member? "numReasks" = some (.ofNat 7) ∧
      ofJson? p.toJson = some { p with retries := some 7, kwargs := [] } ∧ ¬ p.Says c none := by
  intro c p
  have hshown : p.toJson.member? "numReasks" = some (.ofNat 7) := rfl
  refine ⟨by decide, by decide, rfl, hshown, rfl, fun h => ?_⟩
  have htold : p.toJson.member? "numReasks" = some (.ofNat 2) :=
    h.field (.present "numReasks" (.ofNat 2)) (by simp [told, c])
  rw [hshown] at htold
  cases htold

end Guardrail.Remote.Payload
