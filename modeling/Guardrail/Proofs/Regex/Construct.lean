import Guardrail.Proofs.Regex.Bracketed
import Guardrail.Proofs.Regex.Place

/-!
# Reading a construct with a tail

Repetitions, groups and all else that a pattern is made of, before a closing parenthesis and dollar
signs.

* `tailed_readPart`: a construct that is read alone is read with the tail, which is left or which a
  comment has swallowed. A construct that is refused alone is refused with the tail too, or what is
  read with it cannot be read to the end of the pattern.
-/

namespace Guardrail.Regex

variable {d n m : Nat} {verbose : Bool} {cs rest : List Char} {c : Char} {flags : Flags}
  {p q : Place} {spoilt : Place → List Char → Prop}

/-! ## Repetitions -/

theorem tailed_readCount :
    Tailed d cs Never (readCount verbose cs) (readCount verbose (cs ++ tail d)) := by
  have hu : cs.dropWhile Text.isBlank <:+ cs := List.dropWhile_suffix _
  unfold readCount
  rw [dropBlanks_append]
  generalize cs.dropWhile Text.isBlank = u at hu
  have hdigits : Tailed d u Never (some (readCount.digits verbose u.length u))
      (some (readCount.digits verbose (u ++ tail d).length (u ++ tail d))) :=
    tailed_digits (Nat.le_refl _) (Nat.le_refl _)
  dsimp only
  refine hdigits.elim_some (fun ds after hafter => ?_) fun ds hcomment => ?_
  · dsimp only
    rw [dropBlanks_append]
    split
    · exact .of_none
    · exact .left ((List.dropWhile_suffix _).trans (hafter.trans hu))
  · dsimp only
    split
    · exact .of_none
    · exact .swallowed (hu.subset hcomment)

theorem toOption_readBounds (verbose : Bool) (cs : List Char) :
    (readBounds verbose cs).toOption =
      (readCount verbose (skip verbose cs)).bind fun read =>
        (finishBounds verbose read.1 read.2).toOption := by
  unfold readBounds
  cases readCount verbose (skip verbose cs) with
  | none => rfl
  | some read => rfl

theorem tailed_readGreatest {min : Nat} :
    Tailed d cs Never (readGreatest verbose min cs).toOption
      (readGreatest verbose min (cs ++ tail d)).toOption := by
  unfold readGreatest
  refine tailed_readCount.elim_never (fun max after hafter => ?_) (fun max _ => .of_none) .of_none
  cases after with
  | nil => exact .of_none
  | cons c rest =>
    by_cases hc : c = '\x7d'
    · subst hc
      simp only [List.cons_append]
      split
      · exact .of_none
      · exact .left ((List.suffix_cons _ rest).trans hafter)
    · simp only [List.cons_append, Option.some.injEq, Prod.mk.injEq, List.cons.injEq, hc,
        false_and, and_false, imp_self, implies_true]
      exact .of_none

theorem tailed_finishBounds {min : Nat} :
    Tailed d cs Never (finishBounds verbose min cs).toOption
      (finishBounds verbose min (cs ++ tail d)).toOption := by
  unfold finishBounds
  cases cs with
  | nil => exact .of_none
  | cons c rest =>
    by_cases hbrace : c = '\x7d'
    · subst hbrace
      exact .left (List.suffix_cons _ rest)
    by_cases hcomma : c = ','
    · subst hcomma
      simp only [List.cons_append]
      refine skip_cases verbose rest (fun u hu => ?_) fun _ => .of_none
      have hu' : u <:+ ',' :: rest := hu.trans (List.suffix_cons _ rest)
      have hgreatest : Tailed d (',' :: rest) Never (readGreatest verbose min u).toOption
          (readGreatest verbose min (u ++ tail d)).toOption :=
        tailed_readGreatest.wider hu'
      cases u with
      | nil => exact hgreatest
      | cons c' rest' =>
        by_cases hclose : c' = '\x7d'
        · subst hclose
          exact .left ((List.suffix_cons _ rest').trans hu')
        · simp only [List.cons_append, List.cons.injEq, hclose, false_and, imp_self, implies_true]
            at hgreatest ⊢
          exact hgreatest
    · simp only [List.cons_append, List.cons.injEq, hbrace, hcomma, false_and, imp_self,
        implies_true]
      exact .of_none

theorem tailed_readBounds :
    Tailed d cs Never (readBounds verbose cs).toOption
      (readBounds verbose (cs ++ tail d)).toOption := by
  rw [toOption_readBounds, toOption_readBounds]
  refine skip_cases verbose cs (fun u hu => ?_) fun _ => .of_none
  refine tailed_readCount.bind (fun min r _ hr => ?_) (fun min _ => .of_none)
    fun _ _ _ _ h => h.elim
  exact tailed_finishBounds.wider (hr.trans hu)

theorem readGreed_append (cs : List Char) :
    readGreed (cs ++ tail d) = ((readGreed cs).1, (readGreed cs).2 ++ tail d) := by
  cases cs with
  | nil => rfl
  | cons c rest =>
    by_cases hc : c = '?'
    · subst hc
      rfl
    · simp only [readGreed, List.cons_append, List.cons.injEq, hc, false_and, imp_self,
        implies_true]

/-! ## Groups -/

theorem tailed_readFlags {seen : List Char} :
    Tailed d cs (fun _ r => r = tail d) (readFlags flags seen cs).toOption
      (readFlags flags seen (cs ++ tail d)).toOption := by
  induction cs generalizing flags seen with
  | nil =>
    refine .refused fun x r hread => ?_
    simp only [List.nil_append, tail, readFlags, or_true, if_true] at hread
    split at hread
    · cases hread
    · cases hread
      rfl
  | cons c rest ih =>
    have hgo : ∀ {flags seen}, Tailed d (c :: rest) (fun _ r => r = tail d)
        (readFlags flags seen rest).toOption (readFlags flags seen (rest ++ tail d)).toOption :=
      ih.wider (List.suffix_cons c rest)
    simp only [List.cons_append, readFlags]
    split
    · split
      · exact .of_none
      · exact .left List.suffix_rfl
    · split
      · exact .of_none
      · split
        · exact hgo
        · split
          · exact hgo
          · exact .of_none

theorem tailed_readName :
    Tailed d cs Never (readName cs) (readName (cs ++ tail d)) := by
  unfold readName
  rcases until_append (d := d) (c := '>') (by decide) cs with
    ⟨h, h'⟩ | ⟨after, h, hafter, h', htake⟩
  · rw [h, h']
    cases cs.takeWhile (· != '>') <;> cases (cs ++ tail d).takeWhile (· != '>') <;> exact .of_none
  · rw [h, h', htake]
    cases cs.takeWhile (· != '>') with
    | nil => exact .of_none
    | cons first name =>
      simp only
      split
      · exact .left hafter
      · exact .of_none

theorem tailed_openNamed (p : Place) :
    Tailed d cs Never (openNamed p cs).toOption (openNamed p (cs ++ tail d)).toOption := by
  unfold openNamed
  refine tailed_readName.elim_never (fun name after hafter => ?_) (fun name hcomment => ?_) .of_none
  · dsimp only
    split
    · exact .of_none
    · exact .left hafter
  · dsimp only
    split
    · exact .of_none
    · exact .swallowed hcomment

theorem ne_nil_of_readFlags {flags' : Flags} {seen : List Char}
    (h : (readFlags flags seen cs).toOption = some (flags', rest)) : rest ≠ [] := by
  induction cs generalizing flags seen with
  | nil => cases h
  | cons c rest ih =>
    unfold readFlags at h
    split at h
    · split at h
      · cases h
      · cases h
        nofun
    · split at h
      · cases h
      · split at h
        · exact ih h
        · split at h
          · exact ih h
          · cases h

theorem tailed_openFlagged (h : rest ≠ []) :
    Tailed d rest spoilt (openFlagged p (flags, rest)).toOption
      (openFlagged p (flags, rest ++ tail d)).toOption := by
  obtain ⟨c, rest, rfl⟩ := List.exists_cons_of_ne_nil h
  by_cases hc : c = ')'
  · subst hc
    exact .left (List.suffix_cons _ rest)
  · simp only [openFlagged, List.cons_append, List.cons.injEq, hc, false_and, imp_self,
      implies_true]
    exact .left (List.suffix_cons _ rest)

/-- Flags, or a group with flags of its own. -/
theorem tailed_andFlagged (p : Place) :
    Tailed d cs (fun _ r => Spent r) (readFlags p.flags [] cs >>= openFlagged p).toOption
      (readFlags p.flags [] (cs ++ tail d) >>= openFlagged p).toOption := by
  rw [toOption_bind, toOption_bind]
  refine tailed_readFlags.bind (fun flags r hread hr => ?_) (fun flags h => .swallowed h)
    fun flags r q r' hr h => ?_
  · exact (tailed_openFlagged (ne_nil_of_readFlags hread)).wider hr
  · subst hr
    cases h
    exact spent_replicate

/-- What is neither an assertion nor a name after a question mark is flags. -/
theorem openSpecial_flags (h : c ∉ ['=', '!', '<', ')']) (hname : c = 'P' → rest.head? ≠ some '<') :
    openSpecial p (c :: rest) = readFlags p.flags [] (c :: rest) >>= openFlagged p := by
  unfold openSpecial
  split <;> simp_all

theorem tailed_openSpecial (p : Place) :
    Tailed d cs (fun _ r => Spent r) (openSpecial p cs).toOption
      (openSpecial p (cs ++ tail d)).toOption := by
  rcases cs with _ | ⟨c, rest⟩
  · exact .of_none
  have hnamed : ∀ us : List Char, Tailed d us (fun _ r => Spent r)
      (openNamed p us).toOption (openNamed p (us ++ tail d)).toOption := fun us =>
    (tailed_openNamed p).mono List.suffix_rfl fun _ _ h => h.elim
  by_cases hangle : c = '<'
  · subst hangle
    rcases rest with _ | ⟨c, rest⟩
    · exact (hnamed []).wider List.nil_suffix
    by_cases hlook : c = '=' ∨ c = '!'
    · rcases hlook with rfl | rfl <;> exact .of_none
    · rw [not_or] at hlook
      have hopen := hnamed (c :: rest)
      simp only [openSpecial, List.cons_append, List.cons.injEq, hlook, false_and, imp_self,
        implies_true] at hopen ⊢
      exact hopen.wider (List.suffix_cons _ (c :: rest))
  by_cases hother : c ∈ ['=', '!', '<', ')']
  · simp only [List.mem_cons, List.not_mem_nil, or_false] at hother
    rcases hother with rfl | rfl | rfl | rfl
    · exact .of_none
    · exact .of_none
    · exact absurd rfl hangle
    · exact .of_none
  · by_cases hname : c = 'P' → rest.head? ≠ some '<'
    · have hname' : c = 'P' → (rest ++ tail d).head? ≠ some '<' := by
        intro hc
        cases rest with
        | nil => exact nofun
        | cons c' rest => exact hname hc
      rw [List.cons_append, openSpecial_flags hother hname, openSpecial_flags hother hname']
      exact tailed_andFlagged p
    · obtain ⟨rfl, hrest⟩ := Classical.not_imp.1 hname
      obtain ⟨rest, rfl⟩ := List.head?_eq_some_iff.1 (not_not.1 hrest)
      have hnamed : Tailed d rest (fun _ r => Spent r) (openNamed p rest).toOption
          (openNamed p (rest ++ tail d)).toOption := hnamed rest
      exact hnamed.wider ((List.suffix_cons _ rest).trans (List.suffix_cons _ ('<' :: rest)))

theorem tailed_openGroup (p : Place) :
    Tailed d cs (fun _ r => Spent r) (openGroup p cs).toOption
      (openGroup p (cs ++ tail d)).toOption := by
  unfold openGroup
  refine skip_cases p.flags.verbose cs (fun u hu => ?_) fun hcomment => .swallowed hcomment
  cases u with
  | nil => exact .left List.nil_suffix
  | cons c rest =>
    by_cases hc : c = '?'
    · subst hc
      exact (tailed_openSpecial p).wider ((List.suffix_cons _ rest).trans hu)
    · simp only [List.cons_append, List.cons.injEq, hc, false_and, imp_self, implies_true]
      exact .left hu

/-! ## Constructs -/

theorem readGreed_suffix (cs : List Char) : (readGreed cs).2 <:+ cs := by
  unfold readGreed
  split
  · exact List.suffix_cons _ _
  · exact List.suffix_rfl

theorem tailed_again {bounds : Nat × Option Nat} :
    Tailed d cs spoilt (again p bounds cs).toOption
      (again p bounds (cs ++ tail d)).toOption := by
  unfold again
  rw [readGreed_append]
  exact tailed_compute _ (fun parts => { p with group := { p.group with parts } })
    (readGreed_suffix cs)

/-- What the tail makes of a construct that is refused alone cannot be read to the end of the
pattern: only dollar signs are left, or a brace that nothing closes. -/
def Unfinished (q : Place) (r : List Char) : Prop :=
  Spent r ∨ ∃ u d, r = '\x7b' :: u ∧ skip q.flags.verbose u = tail d

theorem tailed_againCounted (p : Place) :
    Tailed d cs spoilt (againCounted p cs).toOption
      (againCounted p (cs ++ tail d)).toOption := by
  unfold againCounted
  split
  · exact .of_none
  · split
    · exact .of_none
    · rw [toOption_bind, toOption_bind]
      refine tailed_readBounds.bind (fun bounds r _ hr => ?_)
        (fun bounds hcomment => .self hcomment fun q r => rest_of_compute)
        fun _ _ _ _ h => h.elim
      dsimp only
      refine skip_cases p.flags.verbose r (fun u hu => ?_) fun hcomment => ?_
      · exact tailed_again.wider (hu.trans hr)
      · exact .self (hr.subset hcomment) fun q r => rest_of_compute

theorem tailed_pushClass (p : Place) :
    Tailed d cs spoilt (pushClass p cs).toOption (pushClass p (cs ++ tail d)).toOption := by
  unfold pushClass
  rw [toOption_bind, toOption_bind]
  refine (tailed_openClass p.flags).bind (fun k r _ hr => ?_) (fun k _ => ?_)
    fun k r q r' hleftover h => ?_
  · rw [toOption_bind, toOption_bind]
    refine (tailed_readClass (Nat.lt_succ_self _) (Nat.lt_succ_self _)).bind
      (fun closed r' _ hr' => .left (hr'.trans hr))
      (fun closed hcomment => .swallowed (hr.subset hcomment)) fun _ _ _ _ h => h.elim
  · rw [toOption_bind, readClass_nil]
    exact .of_none
  · obtain ⟨d', hsub⟩ := hleftover.subset
    rw [toOption_bind, readClass_of_subset hsub] at h
    cases h

theorem tailed_pushEscape (p : Place) :
    Tailed d cs Unfinished (pushEscape p cs).toOption
      (pushEscape p (cs ++ tail d)).toOption := by
  unfold pushEscape
  rw [toOption_bind, toOption_bind]
  refine (tailed_readEscape p.flags).bind (fun primitive r _ hr => ?_)
    (fun primitive hcomment => ?_) fun primitive r q r' hspoilt h => ?_
  · exact tailed_compute _ (fun re => p.push (leaf re)) hr
  · exact .self hcomment fun q r => rest_of_compute
  · dsimp only at h
    cases hre : ofPrimitive p.flags primitive with
    | error fault =>
      rw [hre] at h
      cases h
    | ok re =>
      rw [hre] at h
      cases h
      rcases hspoilt with hspent | ⟨-, u, d', -, hbrace, hskip⟩
      · exact .inl hspent
      · exact .inr ⟨u, d', hbrace, hskip⟩

theorem tailed_readPart (p : Place) (c : Char) :
    Tailed d rest Unfinished (readPart p c rest).toOption
      (readPart p c (rest ++ tail d)).toOption := by
  unfold readPart
  split
  · exact (tailed_openGroup p).mono List.suffix_rfl fun _ _ h => .inl h
  · exact tailed_compute (closeGroup p) (fun q => q) List.suffix_rfl
  · exact .left List.suffix_rfl
  · exact tailed_pushClass p
  · exact tailed_again
  · exact tailed_again
  · exact tailed_again
  · exact tailed_againCounted p
  · exact tailed_pushEscape p
  · exact tailed_compute (dot p.flags) (fun re => p.push (leaf re)) List.suffix_rfl
  · exact .left List.suffix_rfl
  · exact .left List.suffix_rfl
  · exact tailed_compute (ofPrimitive p.flags (.literal c)) (fun re => p.push (leaf re))
      List.suffix_rfl

end Guardrail.Regex
