import Guardrail.Proofs.Regex.Tail

/-!
# Reading a class with a tail

A class in brackets takes any character, but only its closing bracket ends it. So a class that is
open at the end of a text stays open when the text has a tail.

* `tailed_openClass`, `tailed_readItem`: the parts of a class take the tail or leave it.
* `tailed_readClass`: a class that is refused alone is refused with a tail.
-/

namespace Guardrail.Regex

variable {α : Type} {d n m : Nat} {cs us rest r : List Char} {c : Char} {flags : Flags}

/-- What may be left of a tail: all of it, or dollar signs. -/
def Leftover (d : Nat) (r : List Char) : Prop := r = tail d ∨ Spent r

theorem Leftover.subset (h : Leftover d r) : ∃ d', r ⊆ tail d' := by
  rcases h with rfl | hspent
  · exact ⟨d, fun _ hc => hc⟩
  · exact ⟨1, hspent.subset⟩

theorem toOption_bind {ε α β : Type} (a : Except ε α) (f : α → Except ε β) :
    (a >>= f).toOption = a.toOption.bind fun x => (f x).toOption := by
  cases a <;> rfl

/-! ## Opening a class -/

theorem tailed_openItems (negated : Bool) :
    Tailed d cs (fun _ r => Leftover d r) (openItems flags negated cs).toOption
      (openItems flags negated (cs ++ tail d)).toOption := by
  have hhyphens : Tailed d cs Never (some (leadingHyphens flags.verbose cs.length cs))
      (some (leadingHyphens flags.verbose (cs ++ tail d).length (cs ++ tail d))) :=
    tailed_leadingHyphens (Nat.le_refl _) (Nat.le_refl _)
  -- Where the class alone would end, the tail is its first items.
  have hrefused : ∀ k : OpenClass, Tailed d cs (fun _ r => Leftover d r) none
      (some (k, tail d)) := by
    intro k
    refine .refused fun x r h => ?_
    cases h
    exact .inl rfl
  unfold openItems
  refine hhyphens.elim_some (fun hyphens after hafter => ?_) fun hyphens _ => ?_
  · dsimp only
    split
    · cases after with
      | nil => exact hrefused _
      | cons c rest => exact .left hafter
    · cases after with
      | nil => exact hrefused _
      | cons c rest =>
        by_cases hc : c = ']'
        · subst hc
          simp only [List.cons_append]
          refine skip_cases flags.verbose rest (fun u hu => ?_) fun _ => .of_none
          cases u with
          | nil => exact hrefused _
          | cons c' rest' => exact .left ((hu.trans (List.suffix_cons _ rest)).trans hafter)
        · simp only [List.cons_append, List.cons.injEq, hc, false_and, imp_self, implies_true]
          exact .left hafter
  · dsimp only
    split
    · exact .of_none
    · exact .of_none

theorem tailed_openClass (flags : Flags) :
    Tailed d cs (fun _ r => Leftover d r) (openClass flags cs).toOption
      (openClass flags (cs ++ tail d)).toOption := by
  unfold openClass
  refine skip_cases flags.verbose cs (fun u hu => ?_) fun _ => .of_none
  cases u with
  | nil => exact (tailed_openItems false).wider hu
  | cons c rest =>
    by_cases hc : c = '^'
    · subst hc
      simp only [List.cons_append]
      refine skip_cases flags.verbose rest (fun u hu' => ?_) fun _ => .of_none
      exact (tailed_openItems true).wider ((hu'.trans (List.suffix_cons _ rest)).trans hu)
    · have hitems : Tailed d (c :: rest) (fun _ r => Leftover d r)
          (openItems flags false (c :: rest)).toOption
          (openItems flags false (c :: rest ++ tail d)).toOption := tailed_openItems false
      simp only [List.cons_append, List.cons.injEq, hc, false_and, imp_self, implies_true]
        at hitems ⊢
      exact hitems.wider hu

/-! ## Named classes -/

theorem tailed_namedSet? (negated : Bool) :
    Tailed d cs Never (namedSet? negated cs) (namedSet? negated (cs ++ tail d)) := by
  unfold namedSet?
  rcases until_append (d := d) (c := ':') (by decide) cs with
    ⟨h, h'⟩ | ⟨after, h, hafter, h', htake⟩
  · simp only [h, h']
    exact .of_none
  · simp only [h, h', htake]
    cases after with
    | nil => exact .of_none
    | cons c after =>
      by_cases hc : c = ']'
      · subst hc
        simp only [List.cons_append]
        cases CharClass.posix? (String.ofList (cs.takeWhile (· != ':'))) with
        | none => exact .of_none
        | some set => exact .left ((List.suffix_cons _ after).trans hafter)
      · simp only [List.cons_append, List.cons.injEq, hc, false_and, and_false, imp_self,
          implies_true]
        exact .of_none

theorem tailed_namedClass? :
    Tailed d cs Never (namedClass? cs) (namedClass? (cs ++ tail d)) := by
  rcases cs with _ | ⟨c, rest⟩
  · exact .of_none
  by_cases hcolon : c = ':'
  · subst hcolon
    rcases rest with _ | ⟨c, rest⟩
    · have hset : Tailed d [] Never (namedSet? false []) (namedSet? false ([] ++ tail d)) :=
        tailed_namedSet? false
      exact hset.wider List.nil_suffix
    by_cases hcaret : c = '^'
    · subst hcaret
      exact (tailed_namedSet? true).wider
        ((List.suffix_cons _ rest).trans (List.suffix_cons _ ('^' :: rest)))
    · have hset : Tailed d (c :: rest) Never (namedSet? false (c :: rest))
          (namedSet? false (c :: rest ++ tail d)) := tailed_namedSet? false
      simp only [namedClass?, List.cons_append, List.cons.injEq, hcaret, false_and, imp_self,
        implies_true] at hset ⊢
      exact hset.wider (List.suffix_cons _ (c :: rest))
  · simp only [namedClass?, List.cons_append, List.cons.injEq, hcolon, false_and, imp_self,
      implies_true]
    exact .of_none

/-! ## Items -/

theorem tailed_classPrimitive :
    Tailed d cs.tail (Spoilt flags.verbose) (classPrimitive flags cs).toOption
      (classPrimitive flags (cs ++ tail d)).toOption := by
  cases cs with
  | nil =>
    refine .refused fun x r hread => ?_
    cases hread
    exact .inl spent_replicate
  | cons c rest =>
    by_cases hc : c = '\\'
    · subst hc
      exact tailed_readEscape flags
    · simp only [List.cons_append, classPrimitive]
      exact .left List.suffix_rfl

theorem peek_append (verbose : Bool) (cs : List Char) :
    peek verbose (cs ++ tail d) = (peek verbose cs).or (some ')') := by
  have hhead : ∀ us : List Char, (us ++ tail d).head? = us.head?.or (some ')') := by
    intro us
    cases us <;> rfl
  unfold peek
  cases verbose with
  | false => exact hhead cs
  | true =>
    simp only [Bool.not_true, Bool.false_eq_true, if_false]
    rw [dropBlanks_append]
    generalize cs.dropWhile Text.isBlank = u
    cases u with
    | nil => rfl
    | cons c rest =>
      by_cases hc : c = '#'
      · subst hc
        simp only [List.cons_append]
        rw [dropBlanks_append, hhead]
      · simp only [List.cons_append, List.cons.injEq, hc, false_and, imp_self, implies_true]
        rfl

theorem peek_append_iff {verbose : Bool} (hc : c ≠ ')') :
    peek verbose (cs ++ tail d) = some c ↔ peek verbose cs = some c := by
  rw [peek_append]
  cases peek verbose cs with
  | none => simp [Ne.symm hc]
  | some c' => simp

theorem tailed_soleItem (first : Primitive) {spoilt : Text.CharSet → List Char → Prop} :
    Tailed d rest spoilt (soleItem flags rest first).toOption
      (soleItem flags (rest ++ tail d) first).toOption := by
  cases first with
  | literal c => exact tailed_compute _ _ List.suffix_rfl
  | byte c => exact tailed_compute _ _ List.suffix_rfl
  | «class» set => exact .left List.suffix_rfl
  | look l => exact .of_none

theorem rest_of_soleItem {first : Primitive} {x : Text.CharSet}
    (h : (soleItem flags rest first).toOption = some (x, r)) : r = rest := by
  cases first with
  | literal c => exact rest_of_compute h
  | byte c => exact rest_of_compute h
  | «class» set =>
    cases h
    rfl
  | look l => cases h

theorem tailed_rangeBetween {first last : Primitive} {spoilt : Text.CharSet → List Char → Prop}
    (h : rest <:+ cs) :
    Tailed d cs spoilt (rangeBetween flags first (last, rest)).toOption
      (rangeBetween flags first (last, rest ++ tail d)).toOption := by
  simp only [rangeBetween]
  cases literal? flags first with
  | error e => exact .of_none
  | ok lo =>
    cases literal? flags last with
    | error e => exact .of_none
    | ok hi =>
      simp only [bind, Except.bind]
      split
      · exact .of_none
      · exact .left h

/-- A range ends with a literal. -/
theorem of_rangeBetween {first last : Primitive} {x : Text.CharSet}
    (h : (rangeBetween flags first (last, rest)).toOption = some (x, r)) :
    r = rest ∧ ∀ l, last ≠ .look l := by
  rw [rangeBetween] at h
  cases hlo : literal? flags first with
  | error e =>
    rw [hlo] at h
    cases h
  | ok lo =>
    cases hhi : literal? flags last with
    | error e =>
      rw [hlo, hhi] at h
      cases h
    | ok hi =>
      simp only [hlo, hhi, bind, Except.bind] at h
      split at h
      · cases h
      · cases h
        refine ⟨rfl, ?_⟩
        rintro l rfl
        cases hhi

theorem tailed_range (first : Primitive) :
    Tailed d cs (fun _ r => Leftover d r)
      (classPrimitive flags cs >>= rangeBetween flags first).toOption
      (classPrimitive flags (cs ++ tail d) >>= rangeBetween flags first).toOption := by
  rw [toOption_bind, toOption_bind]
  refine tailed_classPrimitive.bind (fun last r _ hr => ?_) (fun last hcomment => ?_)
    fun last r x r' hspoilt h => ?_
  · exact tailed_rangeBetween (hr.trans (List.tail_suffix cs))
  · exact .self ((List.tail_suffix cs).subset hcomment) fun x r h => (of_rangeBetween h).1
  · obtain ⟨rfl, hlast⟩ := of_rangeBetween h
    rcases hspoilt with hspent | ⟨l, u, d', rfl, -⟩
    · exact .inr hspent
    · exact absurd rfl (hlast l)

theorem tailed_finishItem (first : Primitive) :
    Tailed d cs (fun _ r => Leftover d r) (finishItem flags (first, cs)).toOption
      (finishItem flags (first, cs ++ tail d)).toOption := by
  rw [finishItem, finishItem]
  refine skip_cases flags.verbose cs (fun u hu => ?_) fun _ => .of_none
  cases u with
  | nil => exact .refused fun x r hread => .inl (rest_of_soleItem hread)
  | cons c rest =>
    by_cases hc : c = '-'
    · subst hc
      simp only [List.cons_append, peek_append_iff (show ']' ≠ ')' by decide),
        peek_append_iff (show '-' ≠ ')' by decide)]
      split
      · exact (tailed_soleItem first).wider hu
      · refine skip_cases flags.verbose rest (fun u hu' => ?_) fun _ => .of_none
        exact (tailed_range first).wider ((hu'.trans (List.suffix_cons _ rest)).trans hu)
    · have hsole : Tailed d (c :: rest) (fun _ r => Leftover d r)
          (soleItem flags (c :: rest) first).toOption
          (soleItem flags (c :: rest ++ tail d) first).toOption := tailed_soleItem first
      simp only [List.cons_append, List.cons.injEq, hc, false_and, imp_self, implies_true]
        at hsole ⊢
      exact hsole.wider hu

theorem leftover_of_finishItem {first : Primitive} {x : Text.CharSet}
    (hspoilt : Spoilt flags.verbose first cs)
    (h : (finishItem flags (first, cs)).toOption = some (x, r)) : Leftover d r := by
  rw [finishItem] at h
  rcases hspoilt with hspent | ⟨l, u, d', rfl, rfl, -⟩
  · rw [skip_spent hspent] at h
    cases cs with
    | nil => cases h
    | cons c rest =>
      obtain rfl := hspent c List.mem_cons_self
      rw [rest_of_soleItem h]
      exact .inr hspent
  · have hskip : skip flags.verbose ('\x7b' :: u) = '\x7b' :: u := by
      cases flags.verbose <;> rfl
    rw [hskip] at h
    cases h

theorem tailed_classItem :
    Tailed d cs.tail (fun _ r => Leftover d r) (classItem flags cs).toOption
      (classItem flags (cs ++ tail d)).toOption := by
  unfold classItem
  rw [toOption_bind, toOption_bind]
  refine tailed_classPrimitive.bind (fun first r _ hr => ?_) (fun first _ => .of_none)
    fun first r y r' hspoilt h => leftover_of_finishItem hspoilt h
  exact (tailed_finishItem first).wider hr

/-! ## Operations -/

/-- The parenthesis of a tail is no part of a pair of other characters. -/
theorem front_of_append (hc : c ≠ ')') (h : cs ++ tail d = c :: c :: rest) :
    ∃ us, cs = c :: c :: us := by
  rcases cs with _ | ⟨c₁, _ | ⟨c₂, us⟩⟩
  · simp only [tail, List.nil_append, List.cons.injEq] at h
    exact absurd h.1.symm hc
  · simp only [tail, List.cons_append, List.nil_append, List.cons.injEq] at h
    exact absurd h.2.1.symm hc
  · cases h
    exact ⟨us, rfl⟩

theorem tailed_classOp? :
    Tailed d cs.tail Never (classOp? cs) (classOp? (cs ++ tail d)) := by
  unfold classOp?
  split
  · exact .left (List.suffix_cons _ _)
  · exact .left (List.suffix_cons _ _)
  · exact .left (List.suffix_cons _ _)
  · next hinter hdiff hsymm =>
    refine .refused fun x r hread => ?_
    split at hread
    · next heq =>
      obtain ⟨us, rfl⟩ := front_of_append (by decide) heq
      exact hinter us rfl
    · next heq =>
      obtain ⟨us, rfl⟩ := front_of_append (by decide) heq
      exact hdiff us rfl
    · next heq =>
      obtain ⟨us, rfl⟩ := front_of_append (by decide) heq
      exact hsymm us rfl
    · cases hread

/-! ## Classes -/

theorem tailed_readItem (k : OpenClass) :
    Tailed d cs.tail (fun _ r => Leftover d r) (readItem flags k cs).toOption
      (readItem flags k (cs ++ tail d)).toOption := by
  unfold readItem
  refine tailed_classOp?.elim_never (fun op r hr => .left hr) (fun op h => .swallowed h) ?_
  dsimp only
  rw [toOption_bind, toOption_bind]
  refine tailed_classItem.bind (fun set r _ hr => .left hr) (fun set h => .swallowed h)
    fun set r x r' hleftover h => ?_
  cases h
  exact hleftover

theorem tailed_readInner (k : OpenClass) :
    Tailed d cs (fun _ r => Leftover d r) (readInner flags k cs).toOption
      (readInner flags k (cs ++ tail d)).toOption := by
  unfold readInner
  refine tailed_namedClass?.elim_never (fun named r hr => ?_) (fun named hcomment => ?_) ?_
  · exact tailed_compute _ (fun set => [k.add ⟨set, 0⟩]) hr
  · exact .self hcomment fun x r h => rest_of_compute (f := fun set => [k.add ⟨set, 0⟩]) h
  · dsimp only
    rw [toOption_bind, toOption_bind]
    refine (tailed_openClass flags).bind (fun opened r _ hr => .left hr)
      (fun opened h => .swallowed h) fun opened r x r' hleftover h => ?_
    cases h
    exact hleftover

theorem rest_of_readItem {k k' : OpenClass} (h : c :: rest ⊆ tail d)
    (hread : readItem flags k (c :: rest) = .ok (k', r)) : r = rest := by
  have hrest : rest ⊆ tail d := fun _ hc => h (List.mem_cons_of_mem _ hc)
  have hitem : readItem flags k (c :: rest) =
      (finishItem flags (.literal c, rest)).map fun read => (k.add ⟨read.1, 0⟩, read.2) := by
    rcases eq_of_mem_tail (h List.mem_cons_self) with rfl | rfl <;> rfl
  rw [hitem, finishItem, skip_of_subset hrest] at hread
  cases rest with
  | nil => cases hread
  | cons c' rest =>
    have hsole : (soleItem flags (c' :: rest) (.literal c)).map
        (fun read => (k.add ⟨read.1, 0⟩, read.2)) = .ok (k', r) := by
      rcases eq_of_mem_tail (hrest List.mem_cons_self) with rfl | rfl <;> exact hread
    cases hset : soleItem flags (c' :: rest) (.literal c) with
    | error e =>
      rw [hset] at hsole
      cases hsole
    | ok read =>
      rw [hset] at hsole
      cases hsole
      exact rest_of_soleItem (congrArg Except.toOption hset)

/-- A class that is open before a tail stays open. -/
theorem readClass_of_subset {stack : List OpenClass} (h : cs ⊆ tail d) :
    (readClass flags m stack cs).toOption = none := by
  induction m generalizing stack cs with
  | zero => rfl
  | succ m ih =>
    rcases stack with _ | ⟨k, outer⟩
    · rfl
    rw [readClass, skip_of_subset h]
    rcases cs with _ | ⟨c, rest⟩
    · rfl
    have hitem : (readItem flags k (c :: rest) >>= fun read =>
        readClass flags m (read.1 :: outer) read.2).toOption = none := by
      cases hread : readItem flags k (c :: rest) with
      | error e => rfl
      | ok read =>
        obtain rfl := rest_of_readItem h hread
        exact ih fun _ hc => h (List.mem_cons_of_mem _ hc)
    rcases eq_of_mem_tail (h List.mem_cons_self) with rfl | rfl <;> exact hitem

theorem readClass_nil {stack : List OpenClass} : (readClass flags m stack []).toOption = none :=
  readClass_of_subset (d := 0) (List.nil_subset _)

/-- A class that goes on after a part of it. -/
theorem tailed_andClass (stack : α → List OpenClass) {a b : Except Fault (α × List Char)}
    (h : Tailed d us (fun _ r => Leftover d r) a.toOption b.toOption)
    (hgo : ∀ {u : List Char} {stack : List OpenClass}, u <:+ us →
      Tailed d cs Never (readClass flags n stack u).toOption
        (readClass flags m stack (u ++ tail d)).toOption) :
    Tailed d cs Never
      (a >>= fun read => readClass flags n (stack read.1) read.2).toOption
      (b >>= fun read => readClass flags m (stack read.1) read.2).toOption := by
  rw [toOption_bind, toOption_bind]
  refine h.bind (fun x r _ hr => hgo hr) (fun x _ => ?_) fun x r y r' hleftover hread => ?_
  · rw [readClass_nil, readClass_nil]
    exact .of_none
  · obtain ⟨d', hsub⟩ := hleftover.subset
    rw [readClass_of_subset hsub] at hread
    cases hread

theorem tailed_readClass {stack : List OpenClass} (hn : cs.length < n)
    (hm : (cs ++ tail d).length < m) :
    Tailed d cs Never (readClass flags n stack cs).toOption
      (readClass flags m stack (cs ++ tail d)).toOption := by
  induction n generalizing cs m stack with
  | zero => omega
  | succ n ih =>
    obtain ⟨m, rfl⟩ : ∃ k, m = k + 1 := ⟨m - 1, by omega⟩
    rcases stack with _ | ⟨k, outer⟩
    · exact .of_none
    rw [List.length_append] at hm
    rw [readClass, readClass]
    refine skip_cases flags.verbose cs (fun u hu => ?_) fun _ => .of_none
    rcases u with _ | ⟨c, rest⟩
    · have hnone : (readClass flags (m + 1) (k :: outer) (tail d)).toOption = none :=
        readClass_of_subset fun _ hc => hc
      rw [readClass, skip_tail] at hnone
      rw [List.nil_append, hnone]
      exact .of_none
    have hrest : rest <:+ cs := (List.suffix_cons c rest).trans hu
    -- Whatever part of the class is read next, a shorter text is left to go on with.
    have hgo : ∀ {us : List Char} {stack : List OpenClass}, us <:+ rest →
        Tailed d cs Never (readClass flags n stack us).toOption
          (readClass flags m stack (us ++ tail d)).toOption := by
      intro us stack hus
      have hlen := hu.length_le
      have hlen' := hus.length_le
      rw [List.length_cons] at hlen
      refine (ih (by omega) ?_).wider (hus.trans hrest)
      rw [List.length_append]
      omega
    by_cases hopen : c = '['
    · subst hopen
      simp only [List.cons_append]
      exact tailed_andClass (· ++ outer) (tailed_readInner k) hgo
    · by_cases hclose : c = ']'
      · subst hclose
        simp only [List.cons_append]
        cases k.close flags with
        | error e => exact .of_none
        | ok closed =>
          cases outer with
          | nil => exact .left hrest
          | cons j outer => exact hgo List.suffix_rfl
      · have hitem : Tailed d (c :: rest).tail (fun _ r => Leftover d r)
            (readItem flags k (c :: rest)).toOption
            (readItem flags k (c :: rest ++ tail d)).toOption := tailed_readItem k
        simp only [List.cons_append, List.cons.injEq, hopen, hclose, false_and, imp_self,
          implies_true] at hitem ⊢
        exact tailed_andClass (· :: outer) hitem hgo

end Guardrail.Regex
