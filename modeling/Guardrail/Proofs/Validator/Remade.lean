import Guardrail.Proofs.Json.Fields
import Guardrail.Registry

/-!
# Validators made again

A built-in validator tells an id and arguments that are not those it was made from: arguments that
are unknown or null are gone, numbers are binary64 numbers, and the mode of a pattern is named. From
what it tells the same validator is made again, whatever it was made from.

Results:
* `argument?_of_find?`: an argument is read back from what is told of it.
* `LengthBounds.ofArgs_args`, `NumberBounds.ofArgs_args`, `Pattern.ofArgs_args`,
  `choicesOfArgs_args`: what is read from the arguments of a validator.
* `Registry.builtin_of_build`: what the built-in factories make.
* `Registry.build_of_builtin`: a built-in validator is made again.
-/

namespace Guardrail

namespace Validator

variable {α : Type} {id kind key : String} {decode : Json → Option α} {args : Dict Json}

/-! ## Arguments -/

theorem argument?_of_find? (encode : α → Json) {value : Option α}
    (h : args.find? key = value.map encode)
    (hnull : ∀ v, encode v ≠ .null) (hread : ∀ v, value = some v → decode (encode v) = some v) :
    argument? id kind decode args key = .ok value := by
  rw [argument?, h]
  cases value with
  | none => rfl
  | some v =>
    rw [Option.map_some]
    split
    · next hnone => cases hnone
    · next heq => exact absurd (Option.some.inj heq) (hnull v)
    · next heq =>
      obtain rfl := Option.some.inj heq
      rw [hread v rfl]

/-- An argument that is given was read from some value. -/
theorem exists_of_argument? {v : α} (h : argument? id kind decode args key = .ok (some v)) :
    ∃ j, decode j = some v := by
  rw [argument?] at h
  split at h
  · cases h
  · cases h
  · next j _ _ =>
    cases hj : decode j with
    | none =>
      rw [hj] at h
      cases h
    | some w =>
      rw [hj] at h
      exact ⟨j, hj.trans (Except.ok.inj h)⟩

theorem find?_boundArguments (encode : α → Json) (min max : Option α) :
    (boundArguments encode min max).find? "min" = min.map encode ∧
      (boundArguments encode min max).find? "max" = max.map encode := by
  cases min <;> cases max <;> exact ⟨rfl, rfl⟩

/-- Bounds are read back from what is told of them. -/
theorem argument?_boundArguments (encode : α → Json) {min max : Option α}
    (hnull : ∀ v, encode v ≠ .null) (hmin : ∀ v, min = some v → decode (encode v) = some v)
    (hmax : ∀ v, max = some v → decode (encode v) = some v) :
    argument? id kind decode (boundArguments encode min max) "min" = .ok min ∧
      argument? id kind decode (boundArguments encode min max) "max" = .ok max := by
  obtain ⟨hfindMin, hfindMax⟩ := find?_boundArguments encode min max
  exact ⟨argument?_of_find? encode hfindMin hnull hmin,
    argument?_of_find? encode hfindMax hnull hmax⟩

/-! ## Bounds on lengths -/

namespace LengthBounds

variable {b : LengthBounds}

theorem arguments_of_ofArgs (h : ofArgs args = .ok b) :
    lengthArgument? LengthBounds.id args "min" = .ok b.min ∧
      lengthArgument? LengthBounds.id args "max" = .ok b.max := by
  obtain ⟨min, hmin, h⟩ := bind_eq_ok h
  obtain ⟨max, hmax, h⟩ := bind_eq_ok h
  have hb : b = ⟨min, max⟩ := by
    split at h
    · split at h
      · cases h
      · exact (Except.ok.inj h).symm
    · exact (Except.ok.inj h).symm
  subst hb
  exact ⟨hmin, hmax⟩

/-- A length is read back from its number. -/
theorem nat?_of_lengthArgument? {n : Nat} (h : lengthArgument? id args key = .ok (some n)) :
    Json.nat? 64 (.ofNat n) = some n := by
  obtain ⟨j, hj⟩ := exists_of_argument? h
  exact Json.nat?_ofNat (Json.lt_of_nat? hj)

theorem ofArgs_args (h : ofArgs args = .ok b) : ofArgs (length b).args = .ok b := by
  obtain ⟨hmin, hmax⟩ := arguments_of_ofArgs h
  obtain ⟨hlow, hhigh⟩ : lengthArgument? LengthBounds.id (length b).args "min" = .ok b.min ∧
      lengthArgument? LengthBounds.id (length b).args "max" = .ok b.max :=
    argument?_boundArguments Json.ofNat (by simp [Json.ofNat])
      (fun n hn => nat?_of_lengthArgument? (hn ▸ hmin))
      fun n hn => nat?_of_lengthArgument? (hn ▸ hmax)
  rw [ofArgs, hmin, hmax] at h
  rw [ofArgs, hlow, hhigh]
  exact h

end LengthBounds

/-! ## Bounds on numbers -/

namespace NumberBounds

variable {b : NumberBounds}

theorem arguments_of_ofArgs (h : ofArgs args = .ok b) :
    numberArgument? NumberBounds.id args "min" = .ok b.min ∧
      numberArgument? NumberBounds.id args "max" = .ok b.max := by
  obtain ⟨min, hmin, h⟩ := bind_eq_ok h
  obtain ⟨max, hmax, h⟩ := bind_eq_ok h
  have hb : b = ⟨min, max⟩ := by
    split at h
    · split at h
      · cases h
      · exact (Except.ok.inj h).symm
    · exact (Except.ok.inj h).symm
  subst hb
  exact ⟨hmin, hmax⟩

theorem ofArgs_args (h : ofArgs args = .ok b) : ofArgs (range b).args = .ok b := by
  obtain ⟨hmin, hmax⟩ := arguments_of_ofArgs h
  obtain ⟨hlow, hhigh⟩ : numberArgument? NumberBounds.id (range b).args "min" = .ok b.min ∧
      numberArgument? NumberBounds.id (range b).args "max" = .ok b.max :=
    argument?_boundArguments (fun x => .num (.float x)) (by simp) (fun _ _ => rfl) fun _ _ => rfl
  rw [ofArgs, hmin, hmax] at h
  rw [ofArgs, hlow, hhigh]
  exact h

end NumberBounds

/-! ## Patterns -/

namespace Pattern

variable {p : Pattern}

theorem compile_of_compile {source : String} {mode : MatchMode} (h : compile source mode = .ok p) :
    compile p.source p.mode = .ok p := by
  have hp : p.source = source ∧ p.mode = mode := by
    rw [compile] at h
    split at h
    · obtain rfl := Except.ok.inj h
      exact ⟨rfl, rfl⟩
    · cases h
  rwa [hp.1, hp.2]

/-- Whatever mode is given, a pattern comes from compiling its source in its mode. -/
theorem compile_of_ofArgs (h : ofArgs args = .ok p) : compile p.source p.mode = .ok p := by
  obtain ⟨source, -, h⟩ := bind_eq_ok h
  split at h
  · cases h
  · obtain ⟨mode, -, h⟩ := bind_eq_ok h
    split at h
    · exact compile_of_compile h
    · exact compile_of_compile h
    · exact compile_of_compile h
    · cases h

theorem ofArgs_args (h : ofArgs args = .ok p) : ofArgs (pattern p).args = .ok p := by
  have hcompile := compile_of_ofArgs h
  have hsource : textArgument? Pattern.id (pattern p).args "regex" = .ok (some p.source) :=
    argument?_of_find? .str rfl (by simp) fun _ _ => rfl
  have hmode : textArgument? Pattern.id (pattern p).args "match_type" = .ok (some p.mode.name) :=
    argument?_of_find? .str rfl (by simp) fun _ _ => rfl
  rw [ofArgs, hsource, hmode]
  cases hp : p.mode <;> rw [hp] at hcompile <;> exact hcompile

end Pattern

/-! ## Choices -/

theorem choicesOfArgs_args {options : List Json} (h : choicesOfArgs args = .ok options) :
    choicesOfArgs (choices options).args = .ok options := by
  rw [choicesOfArgs] at h
  split at h
  · obtain rfl := Except.ok.inj h
    rfl
  · cases h

/-! ## Registry -/

/-- What the built-in factories make. -/
inductive Builtin : Validator → Prop
  | length {args : Dict Json} {b : LengthBounds} (h : LengthBounds.ofArgs args = .ok b) :
    Builtin (length b)
  | pattern {args : Dict Json} {p : Pattern} (h : Pattern.ofArgs args = .ok p) :
    Builtin (pattern p)
  | choices {args : Dict Json} {options : List Json} (h : choicesOfArgs args = .ok options) :
    Builtin (choices options)
  | range {args : Dict Json} {b : NumberBounds} (h : NumberBounds.ofArgs args = .ok b) :
    Builtin (range b)
  | lowerCase : Builtin lowerCase
  | oneLine : Builtin oneLine

end Validator

namespace Registry

open Validator (Builtin)

variable {serial : Nat} {id : String} {args : Dict Json} {v : Validator}

theorem mem_of_lookup {make : Factory} {r : Registry} (h : r.factories.lookup id = some make) :
    (id, make) ∈ r.factories := by
  obtain ⟨_, _, hsplit, -⟩ := List.lookup_eq_some_iff.1 h
  rw [hsplit]
  exact List.mem_append_right _ List.mem_cons_self

theorem builtin_of_build (h : builtins.build serial id args = .ok v) : Builtin v := by
  rw [build] at h
  split at h
  · next make hmake =>
    have hmem := mem_of_lookup hmake
    simp only [builtins, List.mem_cons, Prod.mk.injEq, List.not_mem_nil, or_false] at hmem
    rcases hmem with ⟨-, rfl⟩ | ⟨-, rfl⟩ | ⟨-, rfl⟩ | ⟨-, rfl⟩ | ⟨-, rfl⟩ | ⟨-, rfl⟩
    · obtain ⟨b, hb, rfl⟩ := map_eq_ok h
      exact .length hb
    · obtain ⟨p, hp, rfl⟩ := map_eq_ok h
      exact .pattern hp
    · obtain ⟨options, hoptions, rfl⟩ := map_eq_ok h
      exact .choices hoptions
    · obtain ⟨b, hb, rfl⟩ := map_eq_ok h
      exact .range hb
    · obtain rfl := Except.ok.inj h
      exact .lowerCase
    · obtain rfl := Except.ok.inj h
      exact .oneLine
  · cases h

/-- The built-in factories have no use for the serial number. -/
theorem build_serial (serial serial' : Nat) (id : String) (args : Dict Json) :
    builtins.build serial id args = builtins.build serial' id args := by
  have hall : ∀ factory ∈ builtins.factories, factory.2 serial = factory.2 serial' := by
    simp [builtins]
  rw [build, build]
  split
  · next make hmake => exact congrFun (hall _ (mem_of_lookup hmake)) args
  · rfl

/-- A built-in validator is made again from its name and its arguments. -/
theorem build_of_builtin (hv : Builtin v) (serial : Nat) :
    builtins.build serial v.name v.args = .ok v := by
  cases hv with
  | length h => exact congrArg (Except.map Validator.length) (Validator.LengthBounds.ofArgs_args h)
  | pattern h => exact congrArg (Except.map Validator.pattern) (Validator.Pattern.ofArgs_args h)
  | choices h => exact congrArg (Except.map Validator.choices) (Validator.choicesOfArgs_args h)
  | range h => exact congrArg (Except.map Validator.range) (Validator.NumberBounds.ofArgs_args h)
  | lowerCase => rfl
  | oneLine => rfl

end Registry
end Guardrail
