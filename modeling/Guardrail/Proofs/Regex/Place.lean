import Guardrail.Error
import Guardrail.Proofs.Regex.Search
import Guardrail.Regex.Parser

/-!
# The place of reading

What every construct of a pattern keeps of the place where it is read.

* `Place.Sound`: every repetition that has been read is in order, and the pattern itself, in which
  all groups are, has no number and began with the first flags. `Sound.of_readPart`: each construct
  keeps a place sound.
* `readPart_under`: what is read in a pattern is read in the same way within open groups, but for a
  parenthesis that would close the pattern itself.
-/

namespace Guardrail.Regex

variable {p q : Place} {g : OpenGroup} {part : Part} {parts branches outer : List Part}
  {flags : Flags} {cs rest r : List Char} {c : Char}

/-! ## Parts in order -/

/-- Every repetition in a group is in order, as far as the group has been read. -/
def OpenGroup.Ordered (g : OpenGroup) : Prop :=
  ∀ part, part ∈ g.parts ∨ part ∈ g.branches → part.regex.Ordered

theorem ordered_sequence (h : ∀ part ∈ parts, part.regex.Ordered) :
    (sequence parts).regex.Ordered := by
  match parts with
  | [] => trivial
  | [part] => exact h part List.mem_cons_self
  | part :: next :: parts =>
    have hfold : ∀ {us : List Part}, (∀ part ∈ us, part.regex.Ordered) →
        (us.foldr (fun p r => Regex.cat p.regex r) .empty).Ordered := by
      intro us hus
      induction us with
      | nil => trivial
      | cons u us ih =>
        exact ⟨hus u List.mem_cons_self,
          ih fun part hpart => hus part (List.mem_cons_of_mem _ hpart)⟩
    exact hfold fun part hpart => h part (List.mem_reverse.1 hpart)

theorem ordered_choice (h : ∀ part ∈ branches, part.regex.Ordered) :
    (choice branches).regex.Ordered := by
  match branches with
  | [] => trivial
  | [part] => exact h part List.mem_cons_self
  | part :: next :: branches =>
    have hfold : ∀ {us : List Part} {r : Regex}, (∀ part ∈ us, part.regex.Ordered) → r.Ordered →
        (us.foldl (fun r q => Regex.alt q.regex r) r).Ordered := by
      intro us
      induction us with
      | nil => exact fun _ hr => hr
      | cons u us ih =>
        exact fun hus hr => ih (fun part hpart => hus part (List.mem_cons_of_mem _ hpart))
          ⟨hus u List.mem_cons_self, hr⟩
    exact hfold (fun part hpart => h part (List.mem_cons_of_mem _ hpart))
      (h part List.mem_cons_self)

theorem OpenGroup.Ordered.sequence (h : g.Ordered) : (sequence g.parts).regex.Ordered :=
  ordered_sequence fun part hpart => h part (.inl hpart)

theorem OpenGroup.Ordered.settle (h : g.Ordered) : g.settle.regex.Ordered :=
  ordered_choice fun part hpart =>
    (List.mem_cons.1 hpart).elim (fun heq => heq ▸ h.sequence) fun hmem => h part (.inr hmem)

theorem OpenGroup.Ordered.push (h : g.Ordered) (hpart : part.regex.Ordered) :
    { g with parts := part :: g.parts }.Ordered := by
  rintro part' (hmem | hmem)
  · exact (List.mem_cons.1 hmem).elim (fun heq => heq ▸ hpart) fun hmem => h part' (.inl hmem)
  · exact h part' (.inr hmem)

/-! ## Sound places -/

/-- The group that the whole pattern is. -/
def Place.base (p : Place) : OpenGroup := p.outer.getLastD p.group

/-- A place that the reading of a pattern can come to. -/
structure Place.Sound (p : Place) : Prop where
  ordered : ∀ g ∈ p.group :: p.outer, g.Ordered
  flags : p.base.outer = .initial
  number : p.base.number = none

namespace Place.Sound

theorem start : Place.start.Sound where
  ordered g hg := by
    obtain rfl := List.mem_singleton.1 hg
    rintro part (h | h) <;> cases h
  flags := rfl
  number := rfl

/-- More of the innermost group has been read. -/
theorem grow (hp : p.Sound) (houter : q.outer = p.outer) (hgroup : q.group.Ordered)
    (hflags : q.group.outer = p.group.outer) (hnumber : q.group.number = p.group.number) :
    q.Sound := by
  have hbase : q.base.outer = p.base.outer ∧ q.base.number = p.base.number := by
    unfold base
    rw [houter]
    cases p.outer with
    | nil => exact ⟨hflags, hnumber⟩
    | cons g outer => exact ⟨rfl, rfl⟩
  refine ⟨fun g hg => ?_, hbase.1.trans hp.flags, hbase.2.trans hp.number⟩
  rcases List.mem_cons.1 hg with rfl | hg
  · exact hgroup
  · exact hp.ordered g (List.mem_cons_of_mem _ (houter ▸ hg))

theorem push (hp : p.Sound) (hpart : part.regex.Ordered) : (p.push part).Sound :=
  hp.grow rfl ((hp.ordered _ List.mem_cons_self).push hpart) rfl rfl

/-- A group has been opened. -/
theorem deepen (hp : p.Sound) (houter : q.outer = p.group :: p.outer)
    (hparts : q.group.parts = []) (hbranches : q.group.branches = []) : q.Sound := by
  have hbase : q.base = p.base := by rw [base, houter, List.getLastD_cons, base]
  refine ⟨fun g hg => ?_, hbase ▸ hp.flags, hbase ▸ hp.number⟩
  rcases List.mem_cons.1 hg with rfl | hg
  · rintro part (h | h)
    · rw [hparts] at h
      cases h
    · rw [hbranches] at h
      cases h
  · exact hp.ordered g (houter ▸ hg)

theorem of_closeGroup (hp : p.Sound) (h : closeGroup p = .ok q) : q.Sound := by
  unfold closeGroup at h
  split at h
  · cases h
  · next g outer houter =>
    cases h
    have hpart : p.group.settle.regex.Ordered := (hp.ordered _ List.mem_cons_self).settle
    have hinner : ({ p with flags := p.group.outer, group := g, outer } : Place).Sound := by
      have hbase : outer.getLastD g = p.base := by rw [base, houter, List.getLastD_cons]
      exact ⟨fun g' hg' => hp.ordered g' (List.mem_cons_of_mem _ (houter ▸ hg')),
        (congrArg _ hbase).trans hp.flags, (congrArg _ hbase).trans hp.number⟩
    exact hinner.push hpart

theorem of_openNamed (hp : p.Sound) (h : openNamed p cs = .ok (q, r)) : q.Sound := by
  unfold openNamed at h
  split at h
  · cases h
  · split at h
    · cases h
    · cases h
      exact hp.deepen rfl rfl rfl

theorem of_openFlagged {read : Flags × List Char} (hp : p.Sound)
    (h : openFlagged p read = .ok (q, r)) : q.Sound := by
  unfold openFlagged at h
  split at h
  · next flags after =>
    cases h
    have hflags : ({ p with flags } : Place).Sound := ⟨hp.ordered, hp.flags, hp.number⟩
    exact hflags.push trivial
  · cases h
    exact hp.deepen rfl rfl rfl

theorem of_openGroup (hp : p.Sound) (h : openGroup p cs = .ok (q, r)) : q.Sound := by
  unfold openGroup at h
  split at h
  · unfold openSpecial at h
    split at h
    case h_5 | h_6 => exact hp.of_openNamed h
    case h_8 =>
      obtain ⟨read, -, h⟩ := bind_eq_ok h
      exact hp.of_openFlagged h
    all_goals cases h
  · cases h
    exact hp.deepen rfl rfl rfl

end Place.Sound

/-! ## Repetitions in order -/

theorem ordered_readBounds {verbose : Bool} {bounds : Nat × Option Nat}
    (h : readBounds verbose cs = .ok (bounds, r)) : ∀ m, bounds.2 = some m → bounds.1 ≤ m := by
  unfold readBounds at h
  split at h
  · cases h
  · unfold finishBounds at h
    split at h
    · cases h
      rintro m ⟨⟩
      exact Nat.le_refl _
    · split at h
      · cases h
        nofun
      · unfold readGreatest at h
        split at h
        · split at h
          · cases h
          · next hle =>
            cases h
            rintro m ⟨⟩
            exact Nat.not_lt.1 hle
        · cases h
    · cases h

theorem Place.Sound.of_again {bounds : Nat × Option Nat} (hp : p.Sound)
    (hbounds : ∀ m, bounds.2 = some m → bounds.1 ≤ m) (h : again p bounds rest = .ok (q, r)) :
    q.Sound := by
  have hgroup := hp.ordered _ List.mem_cons_self
  obtain ⟨parts, hparts, h⟩ := bind_eq_ok h
  cases h
  refine hp.grow rfl ?_ rfl rfl
  unfold repeatLast at hparts
  split at hparts
  · cases hparts
  · next part before heq =>
    split at hparts
    · cases hparts
    · cases hparts
      rintro part' (hmem | hmem)
      · rcases List.mem_cons.1 hmem with rfl | hmem
        · exact ⟨hgroup part (.inl (heq ▸ List.mem_cons_self)), hbounds⟩
        · exact hgroup part' (.inl (heq ▸ List.mem_cons_of_mem _ hmem))
      · exact hgroup part' (.inr hmem)

theorem Place.Sound.of_againCounted (hp : p.Sound) (h : againCounted p cs = .ok (q, r)) :
    q.Sound := by
  unfold againCounted at h
  split at h
  · cases h
  · split at h
    · cases h
    · obtain ⟨bounds, hbounds, h⟩ := bind_eq_ok h
      exact hp.of_again (ordered_readBounds hbounds) h

/-! ## Constructs -/

theorem ordered_ofPrimitive {primitive : Primitive} {re : Regex}
    (h : ofPrimitive flags primitive = .ok re) : re.Ordered := by
  unfold ofPrimitive at h
  split at h
  · cases h
    trivial
  · split at h
    · cases h
    · cases h
      trivial
  · cases h
    trivial
  · cases h
    trivial

theorem ordered_dot {re : Regex} (h : dot flags = .ok re) : re.Ordered := by
  unfold dot at h
  split at h
  · cases h
  · split at h
    · cases h
      trivial
    · split at h <;> cases h <;> trivial

/-- A construct of a pattern keeps a place sound. -/
theorem Place.Sound.of_readPart (hp : p.Sound) (h : readPart p c rest = .ok (q, r)) : q.Sound := by
  unfold readPart at h
  split at h
  · exact hp.of_openGroup h
  · obtain ⟨closed, hclosed, h⟩ := bind_eq_ok h
    cases h
    exact hp.of_closeGroup hclosed
  · cases h
    refine hp.grow rfl ?_ rfl rfl
    have hgroup := hp.ordered _ List.mem_cons_self
    rintro part (hmem | hmem)
    · cases hmem
    · exact (List.mem_cons.1 hmem).elim (fun heq => heq ▸ hgroup.sequence)
        fun hmem => hgroup part (.inr hmem)
  · obtain ⟨opened, -, h⟩ := bind_eq_ok h
    obtain ⟨closed, -, h⟩ := bind_eq_ok h
    cases h
    exact hp.push trivial
  · exact hp.of_again (fun m _ => Nat.zero_le m) h
  · exact hp.of_again (by simp) h
  · exact hp.of_again (by simp) h
  · exact hp.of_againCounted h
  · obtain ⟨primitive, -, h⟩ := bind_eq_ok h
    obtain ⟨re, hre, h⟩ := bind_eq_ok h
    cases h
    exact hp.push (ordered_ofPrimitive hre)
  · obtain ⟨re, hre, h⟩ := bind_eq_ok h
    cases h
    exact hp.push (ordered_dot hre)
  · cases h
    exact hp.push trivial
  · cases h
    exact hp.push trivial
  · obtain ⟨re, hre, h⟩ := bind_eq_ok h
    cases h
    exact hp.push (ordered_ofPrimitive hre)

/-! ## Within open groups -/

/-- A place with more open groups around it. -/
def Place.under (p : Place) (outer : List OpenGroup) : Place := { p with outer := p.outer ++ outer }

variable {W : List OpenGroup}

/-- What has been read, within open groups. -/
def within (W : List OpenGroup) (read : Place × List Char) : Place × List Char :=
  (read.1.under W, read.2)

@[simp] theorem Place.under_flags : (p.under W).flags = p.flags := rfl

@[simp] theorem Place.under_group : (p.under W).group = p.group := rfl

@[simp] theorem Place.under_names : (p.under W).names = p.names := rfl

@[simp] theorem Place.under_outer : (p.under W).outer = p.outer ++ W := rfl

/-- A step that goes on within open groups as it does outside goes on so after another step. -/
theorem bind_within {α : Type} {e : Except Fault α} {f f' : α → Except Fault (Place × List Char)}
    (h : ∀ x, f' x = (f x).map (within W)) : (e >>= f') = (e >>= f).map (within W) := by
  cases e with
  | error fault => rfl
  | ok x => exact h x

theorem openNamed_under : openNamed (p.under W) cs = (openNamed p cs).map (within W) := by
  unfold openNamed
  cases readName cs with
  | none => rfl
  | some read =>
    dsimp only
    rw [Place.under_names]
    cases p.names.contains read.1 <;> rfl

theorem openFlagged_under {read : Flags × List Char} :
    openFlagged (p.under W) read = (openFlagged p read).map (within W) := by
  unfold openFlagged
  split <;> rfl

theorem openGroup_under : openGroup (p.under W) cs = (openGroup p cs).map (within W) := by
  unfold openGroup
  rw [Place.under_flags]
  split
  · unfold openSpecial
    split
    case h_5 | h_6 => exact openNamed_under
    case h_8 => exact bind_within fun read => openFlagged_under
    all_goals rfl
  · rfl

theorem again_under {bounds : Nat × Option Nat} :
    again (p.under W) bounds rest = (again p bounds rest).map (within W) :=
  bind_within fun _ => rfl

theorem againCounted_under :
    againCounted (p.under W) rest = (againCounted p rest).map (within W) := by
  unfold againCounted
  rw [Place.under_flags, Place.under_group]
  split
  · rfl
  · split
    · rfl
    · exact bind_within fun read => again_under

theorem closeGroup_under (h : p.outer ≠ []) :
    closeGroup (p.under W) = (closeGroup p).map (·.under W) := by
  obtain ⟨g, outer, houter⟩ := List.exists_cons_of_ne_nil h
  simp only [closeGroup, Place.under, houter]
  rfl

/-- What is read in a pattern is read in the same way within open groups. -/
theorem readPart_under (h : c = ')' → p.outer ≠ []) :
    readPart (p.under W) c rest = (readPart p c rest).map (within W) := by
  unfold readPart
  split
  · exact openGroup_under
  · rw [closeGroup_under (h rfl)]
    cases closeGroup p <;> rfl
  · rfl
  · exact bind_within fun _ => bind_within fun _ => rfl
  · exact again_under
  · exact again_under
  · exact again_under
  · exact againCounted_under
  · exact bind_within fun _ => bind_within fun _ => rfl
  · exact bind_within fun _ => rfl
  · rfl
  · rfl
  · exact bind_within fun _ => rfl

end Guardrail.Regex
