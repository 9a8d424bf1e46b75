import Guardrail.Guard.Basic
import Guardrail.Proofs.Path.Text
import Guardrail.Proofs.Validator.Inserted
import Guardrail.Proofs.Validator.Remade
import Mathlib.Data.List.Forall2

/-!
# Guards described by their references

A guard keeps its validators twice: as they run, by path, and as the references that describe it to
others. With the built-in registry the references give the validators again, when the guard is built
and after any validators that were attached to it later, or could not be. What is attached goes
into the references as the validator tells it, on the path as it is written.

Results:
* `Registry.resolve_referenceOf`, `Reference.resolve_normalize`: what references resolve to.
* `ValidatorMap.ofReferences_concat`: one more reference is one more validator.
* `Guard.attach_described`, `Guard.attachEach_described`: what an attachment keeps, and a run of
  them.
* `Guard.attachAll_eq_of_error`: an attachment that fails changes nothing.
* `Guard.references_rebuild`: the references of a guard give its validators again.
-/

namespace Guardrail

/-! ## References -/

section References

variable {serial : Nat} {r : Reference} {refs : List Reference} {path : Path} {v : Validator}
  {m : ValidatorMap}

theorem Registry.resolve_serial (serial serial' : Nat) (r : Reference) :
    builtins.resolve serial r = builtins.resolve serial' r := by
  rw [resolve, resolve, build_serial serial serial']

theorem Registry.of_resolve {e : Path × BoundValidator} (h : builtins.resolve serial r = .ok e) :
    r.path = .ok e.1 ∧ builtins.build serial r.id r.args = .ok e.2.validator := by
  obtain ⟨path, hpath, h⟩ := bind_eq_ok h
  obtain ⟨v, hv, h⟩ := bind_eq_ok h
  obtain rfl := Except.ok.inj h
  exact ⟨hpath, hv⟩

theorem Registry.resolve_eq_ok (hpath : r.path = .ok path)
    (hbuild : builtins.build serial r.id r.args = .ok v) :
    builtins.resolve serial r = .ok (path, ⟨v, r.policy⟩) := by
  rw [resolve, hpath, hbuild]
  rfl

/-- The reference for an attached validator resolves to the validator, on its path. -/
theorem Registry.resolve_referenceOf {v : BoundValidator} (hv : Validator.Builtin v.validator)
    (hpath : path.Readable) : builtins.resolve serial (Guard.referenceOf path v) = .ok (path, v) :=
  resolve_eq_ok (Path.parse_render hpath) (build_of_builtin hv serial)

/-- The built-in registry resolves a reference, and no key of its path has a closing bracket. -/
def Reference.Resolves (r : Reference) : Prop :=
  ∃ serial e, Registry.builtins.resolve serial r = .ok e ∧ e.1.Bracketless

/-- A reference still resolves when its path is in the form that paths are written in. -/
theorem Reference.Resolves.normalize (h : r.Resolves) :
    ∃ r', r.normalize = .ok r' ∧ ∃ e, Registry.builtins.resolve 0 r' = .ok e := by
  obtain ⟨serial, e, hresolve, hbracketless⟩ := h
  obtain ⟨hpath, hbuild⟩ := Registry.of_resolve hresolve
  refine ⟨{ r with target := e.1.render }, ?_, _, Registry.resolve_eq_ok
    (Path.parse_render (Path.readable_of_parse hpath hbracketless))
    ((Registry.build_serial 0 serial r.id r.args).trans hbuild)⟩
  rw [Reference.normalize, hpath]
  rfl

theorem exists_mapM_normalize (h : ∀ r ∈ refs, r.Resolves) :
    ∃ refs', refs.mapM Reference.normalize = .ok refs' ∧
      ∀ r ∈ refs', ∃ e, Registry.builtins.resolve 0 r = .ok e := by
  induction refs with
  | nil => exact ⟨[], rfl, by simp⟩
  | cons r rest ih =>
    obtain ⟨hr, hrest⟩ := List.forall_mem_cons.1 h
    obtain ⟨r', hnormalize, hresolve⟩ := hr.normalize
    obtain ⟨rest', hmap, hall⟩ := ih hrest
    refine ⟨r' :: rest', ?_, List.forall_mem_cons.2 ⟨hresolve, hall⟩⟩
    rw [List.mapM_cons, hnormalize, hmap]
    rfl

namespace ValidatorMap

/-- The map with the validator of one more reference to a built-in one. -/
def addReference (m : ValidatorMap) (r : Reference) : Except ConfigError ValidatorMap := do
  let (path, v) ← Registry.builtins.resolve 0 r
  return (m.insert path v).1

theorem addReference_eq_ok {e : Path × BoundValidator}
    (h : Registry.builtins.resolve 0 r = .ok e) :
    m.addReference r = .ok (m.insert e.1 e.2).1 := by
  rw [addReference, h]
  rfl

/-- The references are added one after the other, their serial numbers being of no use. -/
theorem ofReferences_builtins (refs : List Reference) :
    ofReferences .builtins refs = refs.foldlM addReference empty := by
  have hzip : refs.foldlM addReference empty =
      refs.zipIdx.foldlM (fun m x => m.addReference x.1) empty := by
    rw [← List.foldlM_map (f := Prod.fst), List.zipIdx_map_fst]
  rw [hzip, ofReferences]
  refine congrArg (fun step => refs.zipIdx.foldlM step empty) (funext fun m => funext fun x => ?_)
  obtain ⟨r, serial⟩ := x
  rw [addReference, Registry.resolve_serial 0 serial]

theorem exists_foldlM_addReference (h : ∀ r ∈ refs, ∃ e, Registry.builtins.resolve 0 r = .ok e)
    (m : ValidatorMap) : ∃ m', refs.foldlM addReference m = .ok m' := by
  induction refs generalizing m with
  | nil => exact ⟨m, rfl⟩
  | cons r rest ih =>
    obtain ⟨⟨e, he⟩, hrest⟩ := List.forall_mem_cons.1 h
    obtain ⟨m', hm'⟩ := ih hrest (m.insert e.1 e.2).1
    refine ⟨m', ?_⟩
    rw [List.foldlM_cons, addReference_eq_ok he]
    exact hm'

/-- One more reference is one more validator. -/
theorem ofReferences_concat (h : ofReferences .builtins refs = .ok m)
    {e : Path × BoundValidator} (he : Registry.builtins.resolve 0 r = .ok e) :
    ofReferences .builtins (refs ++ [r]) = .ok (m.insert e.1 e.2).1 := by
  rw [ofReferences_builtins] at h ⊢
  rw [List.foldlM_append, h]
  show [r].foldlM addReference m = _
  rw [List.foldlM_cons, addReference_eq_ok he]
  rfl

/-- The same paths in the same order, each with interchangeable validators in the same order. -/
def Interchangeable (m m' : ValidatorMap) : Prop :=
  List.Forall₂ (fun e e' : Entry =>
    e.1 = e'.1 ∧ List.Forall₂ (fun v w => v.sameAs w = true) e.2 e'.2) m.entries m'.entries

theorem interchangeable_self (m : ValidatorMap) : m.Interchangeable m :=
  List.forall₂_same.2 fun _ _ => ⟨rfl, List.forall₂_same.2 fun v _ => v.sameAs_self⟩

end ValidatorMap

end References

/-! ## Guards -/

section Guards

variable {σ : Type} {b : Blueprint σ} {g g' : Guard σ} {target : String} {v : BoundValidator}

/-- The references of a guard give its validators. -/
def Guard.Described (g : Guard σ) : Prop :=
  ValidatorMap.ofReferences .builtins g.references = .ok g.validators

/-- A guard is built from any references that resolve, and is described by them. -/
theorem Blueprint.exists_build (freshId : String) (hregistry : b.registry = .builtins)
    (hreferences : ∀ r ∈ b.references, r.Resolves) :
    ∃ g, b.build freshId = .ok g ∧ g.Described := by
  obtain ⟨refs, hnormalize, hresolve⟩ := exists_mapM_normalize hreferences
  obtain ⟨m, hm⟩ := ValidatorMap.exists_foldlM_addReference hresolve .empty
  have hvalidators : ValidatorMap.ofReferences .builtins refs = .ok m :=
    (ValidatorMap.ofReferences_builtins refs).trans hm
  rw [build, hnormalize, hregistry]
  show ∃ g, (ValidatorMap.ofReferences .builtins refs >>= _) = .ok g ∧ Guard.Described g
  rw [hvalidators]
  exact ⟨_, rfl, hvalidators⟩

namespace Guard

/-- The schema and the text of the path decide whether a validator can be attached. -/
def Takes (g : Guard σ) (target : String) : Prop :=
  g.schema.shape = .string ∧ ∃ path, Path.parse target = .ok path

/-- What an attachment changes. -/
theorem of_attach (h : g.attach target v = .ok g') :
    g.schema.shape = .string ∧ ∃ path, Path.parse target = .ok path ∧
      g' = { g with
        validators := (g.validators.insert path v).1
        references := if (g.validators.insert path v).2 then
          g.references ++ [referenceOf path v] else g.references } := by
  rw [attach] at h
  split at h
  · cases h
  · next hshape =>
    obtain ⟨path, hpath, h⟩ := bind_eq_ok h
    exact ⟨Decidable.not_not.1 hshape, path, hpath, (Except.ok.inj h).symm⟩

theorem attach_of_takes (h : g.Takes target) (v : BoundValidator) :
    ∃ g', g.attach target v = .ok g' ∧ g'.Takes target := by
  obtain ⟨hshape, path, hpath⟩ := h
  rw [attach, if_neg (by simp [hshape]), hpath]
  exact ⟨_, rfl, hshape, path, hpath⟩

theorem attachAll_of_takes (h : g.Takes target) (vs : List BoundValidator) :
    (g.attachAll target vs).1 = .ok () := by
  induction vs generalizing g with
  | nil => rfl
  | cons v rest ih =>
    obtain ⟨g', hattach, htakes⟩ := attach_of_takes h v
    rw [attachAll, hattach]
    exact ih htakes

/-- An attachment that fails changes nothing: what makes one validator fail would have made those
before it fail. -/
theorem attachAll_eq_of_error {vs : List BoundValidator} {e : ConfigError}
    (h : g.attachAll target vs = (.error e, g')) : g' = g := by
  cases vs with
  | nil => cases h
  | cons v rest =>
    rw [attachAll] at h
    split at h
    · next hattach =>
      obtain ⟨hshape, path, hpath, -⟩ := of_attach hattach
      obtain ⟨g₁, hattach', htakes⟩ := attach_of_takes ⟨hshape, path, hpath⟩ v
      obtain rfl := Except.ok.inj (hattach'.symm.trans hattach)
      have hok := attachAll_of_takes htakes rest
      rw [h] at hok
      cases hok
    · exact (congrArg Prod.snd h).symm

theorem attach_described (hg : g.Described) (hv : Validator.Builtin v.validator)
    (hpath : ∀ path, Path.parse target = .ok path → path.Bracketless)
    (h : g.attach target v = .ok g') : g'.Described := by
  obtain ⟨-, path, hparse, rfl⟩ := of_attach h
  have hresolve : Registry.builtins.resolve 0 (referenceOf path v) = .ok (path, v) :=
    Registry.resolve_referenceOf hv (Path.readable_of_parse hparse (hpath path hparse))
  show ValidatorMap.ofReferences .builtins (if _ then _ else _) = _
  split
  · exact ValidatorMap.ofReferences_concat hg hresolve
  · next hnot =>
    rw [ValidatorMap.insert_of_not_added (Bool.eq_false_iff.2 hnot)]
    exact hg

theorem attachAll_described {vs : List BoundValidator} (hg : g.Described)
    (hvs : ∀ v ∈ vs, Validator.Builtin v.validator)
    (hpath : ∀ path, Path.parse target = .ok path → path.Bracketless) :
    (g.attachAll target vs).2.Described := by
  induction vs generalizing g with
  | nil => exact hg
  | cons v rest ih =>
    obtain ⟨hv, hrest⟩ := List.forall_mem_cons.1 hvs
    rw [attachAll]
    split
    · next hattach => exact ih (attach_described hg hv hpath hattach) hrest
    · exact hg

/-- The guard after attachments, each of some validators on one path, whether they succeed or
not. -/
def attachEach (g : Guard σ) (attachments : List (String × List BoundValidator)) : Guard σ :=
  attachments.foldl (fun g attachment => (g.attachAll attachment.1 attachment.2).2) g

theorem attachEach_described {attachments : List (String × List BoundValidator)} (hg : g.Described)
    (hvs : ∀ a ∈ attachments, ∀ v ∈ a.2, Validator.Builtin v.validator)
    (hpaths : ∀ a ∈ attachments, ∀ path, Path.parse a.1 = .ok path → path.Bracketless) :
    (g.attachEach attachments).Described := by
  induction attachments generalizing g with
  | nil => exact hg
  | cons a rest ih =>
    obtain ⟨hv, hrest⟩ := List.forall_mem_cons.1 hvs
    obtain ⟨hpath, hothers⟩ := List.forall_mem_cons.1 hpaths
    exact ih (attachAll_described hg hv hpath) hrest hothers

/-- A guard is built from any references that the built-in registry resolves, and after any
attachments of built-in validators its references give its validators again: the same ones on the
same paths, in the same order. An attachment that fails changes nothing. No key of a path may have a
closing bracket, which would not be read back. -/
theorem references_rebuild (freshId : String) (hregistry : b.registry = .builtins)
    (hreferences : ∀ r ∈ b.references, r.Resolves)
    (attachments : List (String × List BoundValidator))
    (hvs : ∀ a ∈ attachments, ∀ v ∈ a.2,
      ∃ serial id args, Registry.builtins.build serial id args = .ok v.validator)
    (hpaths : ∀ a ∈ attachments, ∀ path, Path.parse a.1 = .ok path → path.Bracketless) :
    ∃ g, b.build freshId = .ok g ∧
      (∃ m, ValidatorMap.ofReferences .builtins (g.attachEach attachments).references = .ok m ∧
        m = (g.attachEach attachments).validators ∧
        m.Interchangeable (g.attachEach attachments).validators) ∧
      ∀ target vs e g', (g.attachEach attachments).attachAll target vs = (.error e, g') →
        g' = g.attachEach attachments := by
  obtain ⟨g, hbuild, hg⟩ := b.exists_build freshId hregistry hreferences
  have hdescribed : (g.attachEach attachments).Described := by
    refine attachEach_described hg (fun a ha v hv => ?_) hpaths
    obtain ⟨serial, id, args, hmade⟩ := hvs a ha v hv
    exact Registry.builtin_of_build hmade
  refine ⟨g, hbuild, ⟨_, hdescribed, rfl, ValidatorMap.interchangeable_self _⟩, ?_⟩
  intro target vs e g' h
  exact attachAll_eq_of_error h

/-- A reference that stands there twice and tells more than the validator that is made from it; then
validators on a key with a blank, one of them twice, and one on a text that is no path. -/
theorem references_rebuild_of_repeated :
    let r : Reference := ⟨"valid-range", "output", .reask,
      [("max", .ofNat 5), ("min", .null), ("unit", .str "m")]⟩
    let b : Blueprint Unit := { Blueprint.string with references := [r, r] }
    let attachments : List (String × List BoundValidator) :=
      [("a b", [⟨.lowerCase, .fix⟩, ⟨.lowerCase, .fix⟩, ⟨.oneLine, .noop⟩]),
        ("a[", [⟨.oneLine, .noop⟩])]
    b.registry = .builtins ∧ (∀ r ∈ b.references, r.Resolves) ∧
      ∃ g, b.build "id" = .ok g ∧
        ValidatorMap.ofReferences .builtins (g.attachEach attachments).references =
          .ok (g.attachEach attachments).validators := by
  intro r b attachments
  have hresolves : Reference.Resolves ⟨"valid-range", "output", .reask,
      [("max", .ofNat 5), ("min", .null), ("unit", .str "m")]⟩ :=
    ⟨0, ([], ⟨.range ⟨none, some (.ofInt 5)⟩, .reask⟩), rfl, fun key hkey => by cases hkey⟩
  have hreferences : ∀ r ∈ b.references, r.Resolves :=
    List.forall_mem_cons.2 ⟨hresolves, List.forall_mem_cons.2 ⟨hresolves, by simp⟩⟩
  have hvs : ∀ a ∈ attachments, ∀ v ∈ a.2,
      ∃ serial id args, Registry.builtins.build serial id args = .ok v.validator := by
    have hlower : ∃ serial id args, Registry.builtins.build serial id args = .ok .lowerCase :=
      ⟨0, "lower-case", [], rfl⟩
    have hline : ∃ serial id args, Registry.builtins.build serial id args = .ok .oneLine :=
      ⟨0, "one-line", [], rfl⟩
    simp only [attachments, List.forall_mem_cons]
    exact ⟨⟨hlower, hlower, hline, by simp⟩, ⟨hline, by simp⟩, by simp⟩
  have hpaths : ∀ a ∈ attachments, ∀ path, Path.parse a.1 = .ok path → path.Bracketless := by
    have hblank : Path.parse "a b" = .ok [.key "a b"] := by decide +kernel
    have hopen : Path.parse "a[" = .error (.invalidPath "a[" "unterminated '['") := by
      decide +kernel
    simp only [attachments, List.forall_mem_cons]
    refine ⟨fun path h => ?_, fun path h => ?_, by simp⟩
    · obtain rfl := Except.ok.inj (hblank.symm.trans h)
      intro key hkey
      obtain rfl : key = "a b" := by simpa using hkey
      decide
    · cases hopen.symm.trans h
  obtain ⟨g, hbuild, ⟨m, hm, rfl, -⟩, -⟩ :=
    references_rebuild "id" rfl hreferences attachments hvs hpaths
  exact ⟨rfl, hreferences, g, hbuild, hm⟩

end Guard

end Guards

end Guardrail
