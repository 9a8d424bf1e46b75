import Mathlib.Data.List.TakeWhile
import Guardrail.Regex.Parser

/-!
# Reading a pattern with a tail

What a reader of a part of a pattern makes of a text with a closing parenthesis after it, beside
what it makes of the text alone. The parenthesis is a part of no construct but those that take any
character: an escape, a property of one letter, a class. So what is read from the text alone is read
from it with the tail too, and what is refused alone either is refused or takes the parenthesis. The
one exception is a comment, which takes the whole tail.

* `tailed_readEscape`: escapes.
* `skip_cases`, `Tailed.elim`: the cases in which all readers are proved to be so.
-/

namespace Guardrail.Regex

/-- A closing parenthesis with dollar signs after it. -/
def tail (d : Nat) : List Char := ')' :: List.replicate d '$'

/-- Nothing but dollar signs: what may be left of a tail whose parenthesis has been read. -/
def Spent (cs : List Char) : Prop := ∀ c ∈ cs, c = '$'

/-- What a reader makes of a text alone and of the text with a tail.

Either it is the same, and the tail is left over; or it is the same, since a comment at the end of
the text has swallowed the tail; or the text is refused alone, and what is read with the tail, if
anything is, is as `spoilt` says. What is left of the text is a part at its end. -/
inductive Tailed {α : Type} (d : Nat) (cs : List Char) (spoilt : α → List Char → Prop) :
    Option (α × List Char) → Option (α × List Char) → Prop
  | left {x : α} {r : List Char} :
    r <:+ cs → Tailed d cs spoilt (some (x, r)) (some (x, r ++ tail d))
  | swallowed {x : α} : '#' ∈ cs → Tailed d cs spoilt (some (x, [])) (some (x, []))
  | refused {b : Option (α × List Char)} :
    (∀ x r, b = some (x, r) → spoilt x r) → Tailed d cs spoilt none b

variable {α : Type} {d n m : Nat} {verbose : Bool} {cs us rest : List Char} {c : Char}
  {spoilt spoilt' : α → List Char → Prop}

/-- A text that is refused alone is refused with a tail. -/
abbrev Never : α → List Char → Prop := fun _ _ => False

theorem eq_none_of_never {a : Option (α × List Char)} (h : ∀ x r, a = some (x, r) → Never x r) :
    a = none := by
  cases a with
  | none => rfl
  | some read => exact (h _ _ rfl).elim

namespace Tailed

theorem of_none : Tailed d cs spoilt none none := .refused nofun

/-- What a reader makes of a text that a comment has swallowed the tail of. -/
theorem self {a : Option (α × List Char)} (hcs : '#' ∈ cs) (h : ∀ x r, a = some (x, r) → r = []) :
    Tailed d cs spoilt a a := by
  cases a with
  | none => exact .of_none
  | some read =>
    obtain ⟨x, r⟩ := read
    obtain rfl := h x r rfl
    exact .swallowed hcs

theorem mono {a b : Option (α × List Char)} (h : Tailed d us spoilt a b) (hcs : us <:+ cs)
    (hspoilt : ∀ x r, spoilt x r → spoilt' x r) : Tailed d cs spoilt' a b := by
  cases h with
  | left hr => exact .left (hr.trans hcs)
  | swallowed hus => exact .swallowed (hcs.subset hus)
  | refused hb => exact .refused fun x r h => hspoilt x r (hb x r h)

theorem wider {a b : Option (α × List Char)} (h : Tailed d us spoilt a b) (hcs : us <:+ cs) :
    Tailed d cs spoilt a b := h.mono hcs fun _ _ h => h

/-- What follows for a reader that goes on with what another one made of a text. -/
@[elab_as_elim]
theorem elim {a b : Option (α × List Char)}
    {motive : Option (α × List Char) → Option (α × List Char) → Prop} (h : Tailed d cs spoilt a b)
    (hleft : ∀ x r, r <:+ cs → motive (some (x, r)) (some (x, r ++ tail d)))
    (hswallowed : ∀ x, '#' ∈ cs → motive (some (x, [])) (some (x, [])))
    (hrefused : ∀ b, (∀ x r, b = some (x, r) → spoilt x r) → motive none b) : motive a b := by
  cases h with
  | left hr => exact hleft _ _ hr
  | swallowed hcs => exact hswallowed _ hcs
  | refused hb => exact hrefused _ hb

/-- The cases of a reader that refuses with a tail what it refuses alone. -/
@[elab_as_elim]
theorem elim_never {a b : Option (α × List Char)}
    {motive : Option (α × List Char) → Option (α × List Char) → Prop} (h : Tailed d cs Never a b)
    (hleft : ∀ x r, r <:+ cs → motive (some (x, r)) (some (x, r ++ tail d)))
    (hswallowed : ∀ x, '#' ∈ cs → motive (some (x, [])) (some (x, [])))
    (hnone : motive none none) : motive a b := by
  refine h.elim hleft hswallowed fun b hb => ?_
  rwa [eq_none_of_never hb]

/-- The cases of a reader that refuses nothing. -/
@[elab_as_elim]
theorem elim_some {x y : α × List Char} {motive : α × List Char → α × List Char → Prop}
    (h : Tailed d cs spoilt (some x) (some y))
    (hleft : ∀ x r, r <:+ cs → motive (x, r) (x, r ++ tail d))
    (hswallowed : ∀ x, '#' ∈ cs → motive (x, []) (x, [])) : motive x y := by
  cases h with
  | left hr => exact hleft _ _ hr
  | swallowed hcs => exact hswallowed _ hcs

theorem map {β : Type} {a b : Option (α × List Char)} (f : α → β)
    {spoilt' : β → List Char → Prop} (h : Tailed d cs spoilt a b)
    (hspoilt : ∀ x r, spoilt x r → spoilt' (f x) r) :
    Tailed d cs spoilt' (a.map fun (x, r) => (f x, r)) (b.map fun (x, r) => (f x, r)) := by
  cases h with
  | left hr => exact .left hr
  | swallowed hcs => exact .swallowed hcs
  | refused hb =>
    refine .refused fun y r h => ?_
    obtain ⟨⟨x, r⟩, hx, heq⟩ := Option.map_eq_some_iff.1 h
    cases heq
    exact hspoilt x r (hb x r hx)

/-- What second readers make of what the first one left. -/
theorem bind {β : Type} {spoilt' : β → List Char → Prop} {a b : Option (α × List Char)}
    {f g : α × List Char → Option (β × List Char)} (h : Tailed d cs spoilt a b)
    (hleft : ∀ x r, a = some (x, r) → r <:+ cs →
      Tailed d us spoilt' (f (x, r)) (g (x, r ++ tail d)))
    (hswallowed : ∀ x, '#' ∈ cs → Tailed d us spoilt' (f (x, [])) (g (x, [])))
    (hspoilt : ∀ x r y r', spoilt x r → g (x, r) = some (y, r') → spoilt' y r') :
    Tailed d us spoilt' (a.bind f) (b.bind g) := by
  cases h with
  | left hr => exact hleft _ _ rfl hr
  | swallowed hcs => exact hswallowed _ hcs
  | refused hb =>
    refine .refused fun y r' h => ?_
    obtain ⟨⟨x, r⟩, hread, hg⟩ := Option.bind_eq_some_iff.1 h
    exact hspoilt x r y r' (hb x r hread) hg

/-- What is read alone is read with the tail. -/
theorem of_ok {a b : Except Fault (α × List Char)} {x : α} {r : List Char}
    (h : Tailed d cs spoilt a.toOption b.toOption) (ha : a = .ok (x, r)) :
    (r <:+ cs ∧ b = .ok (x, r ++ tail d)) ∨ (r = [] ∧ '#' ∈ cs ∧ b = .ok (x, [])) := by
  subst ha
  cases b with
  | error fault => cases h
  | ok read =>
    cases h with
    | left hr => exact .inl ⟨hr, rfl⟩
    | swallowed hcs => exact .inr ⟨rfl, hcs, rfl⟩

/-- What is refused alone, but read with the tail. -/
theorem of_error {a b : Except Fault (α × List Char)} {fault : Fault} {read : α × List Char}
    (h : Tailed d cs spoilt a.toOption b.toOption) (ha : a = .error fault) (hb : b = .ok read) :
    spoilt read.1 read.2 := by
  subst ha hb
  cases h with
  | refused hspoilt => exact hspoilt _ _ rfl

end Tailed

/-! ## Blanks and comments -/

theorem eq_of_mem_tail (h : c ∈ tail d) : c = ')' ∨ c = '$' :=
  (List.mem_cons.1 h).imp id fun h => (List.mem_replicate.1 h).2

theorem notMem_tail (h : c ≠ ')' ∧ c ≠ '$') : c ∉ tail d :=
  fun hmem => (eq_of_mem_tail hmem).elim h.1 h.2

theorem skip_of_subset (h : cs ⊆ tail d) : skip verbose cs = cs := by
  cases cs with
  | nil => rfl
  | cons c rest =>
    rcases eq_of_mem_tail (h List.mem_cons_self) with rfl | rfl
    · simp [skip, show Text.isBlank ')' = false from rfl]
    · simp [skip, show Text.isBlank '$' = false from rfl]

theorem Spent.subset (h : Spent cs) : cs ⊆ tail 1 := fun c hc => by
  rw [h c hc]
  exact List.mem_cons_of_mem _ List.mem_cons_self

theorem skip_spent (h : Spent cs) : skip verbose cs = cs := skip_of_subset h.subset

theorem skip_tail : skip verbose (tail d) = tail d := skip_of_subset fun _ h => h

theorem comment_of_notMem (h : '\n' ∉ cs) : skip.comment verbose cs = [] := by
  induction cs with
  | nil => rfl
  | cons c rest ih =>
    rw [List.mem_cons, not_or] at h
    simp only [skip.comment, if_neg (Ne.symm h.1)]
    exact ih h.2

theorem skip_append_cases (verbose : Bool) (cs : List Char) :
    (skip verbose (cs ++ tail d) = skip verbose cs ++ tail d ∨
        '#' ∈ cs ∧ skip verbose cs = [] ∧ skip verbose (cs ++ tail d) = []) ∧
      (skip.comment verbose (cs ++ tail d) = skip.comment verbose cs ++ tail d ∨
        skip.comment verbose cs = [] ∧ skip.comment verbose (cs ++ tail d) = []) := by
  induction cs with
  | nil => exact ⟨.inl skip_tail, .inr ⟨rfl, comment_of_notMem (notMem_tail (by decide))⟩⟩
  | cons c rest ih =>
    simp only [List.cons_append, skip, skip.comment]
    constructor
    · split
      · exact .inl rfl
      · split
        · exact ih.1.imp_right fun h => ⟨List.mem_cons_of_mem _ h.1, h.2⟩
        · split
          · next hcomment => exact ih.2.imp_right fun h => ⟨hcomment ▸ List.mem_cons_self, h⟩
          · exact .inl rfl
    · split
      · exact ih.1.imp_right fun h => h.2
      · exact ih.2

/-- Blanks and comments at the front are skipped the same, unless a comment swallows the tail. -/
theorem skip_append (verbose : Bool) (cs : List Char) :
    skip verbose (cs ++ tail d) = skip verbose cs ++ tail d ∨
      '#' ∈ cs ∧ skip verbose cs = [] ∧ skip verbose (cs ++ tail d) = [] :=
  (skip_append_cases verbose cs).1

theorem skip_suffix_cases (verbose : Bool) (cs : List Char) :
    skip verbose cs <:+ cs ∧ skip.comment verbose cs <:+ cs := by
  induction cs with
  | nil => exact ⟨List.suffix_rfl, List.suffix_rfl⟩
  | cons c rest ih =>
    have hcons : rest <:+ c :: rest := List.suffix_cons c rest
    simp only [skip, skip.comment]
    constructor
    · split
      · exact List.suffix_rfl
      · split
        · exact ih.1.trans hcons
        · split
          · exact ih.2.trans hcons
          · exact List.suffix_rfl
    · split
      · exact ih.1.trans hcons
      · exact ih.2.trans hcons

theorem skip_suffix (verbose : Bool) (cs : List Char) : skip verbose cs <:+ cs :=
  (skip_suffix_cases verbose cs).1

/-- The two ways in which blanks and comments before a tail are skipped. -/
@[elab_as_elim]
theorem skip_cases {motive : List Char → List Char → Prop} (verbose : Bool) (cs : List Char)
    (hread : ∀ u, u <:+ cs → motive u (u ++ tail d)) (hnil : '#' ∈ cs → motive [] []) :
    motive (skip verbose cs) (skip verbose (cs ++ tail d)) := by
  rcases skip_append (d := d) verbose cs with h | ⟨hcs, h, h'⟩
  · rw [h]
    exact hread _ (skip_suffix verbose cs)
  · rw [h, h']
    exact hnil hcs

/-! ## Characters up to an end -/

theorem dropBlanks_append (cs : List Char) :
    (cs ++ tail d).dropWhile Text.isBlank = cs.dropWhile Text.isBlank ++ tail d := by
  rw [List.dropWhile_append]
  split
  · next h =>
    rw [List.isEmpty_iff.1 h]
    rfl
  · rfl

/-- What stands up to a character that no tail has. -/
theorem until_append (h : c ≠ ')' ∧ c ≠ '$') (cs : List Char) :
    (cs.dropWhile (· != c) = [] ∧ (cs ++ tail d).dropWhile (· != c) = []) ∨
      ∃ after, cs.dropWhile (· != c) = c :: after ∧ after <:+ cs ∧
        (cs ++ tail d).dropWhile (· != c) = c :: (after ++ tail d) ∧
        (cs ++ tail d).takeWhile (· != c) = cs.takeWhile (· != c) := by
  induction cs with
  | nil =>
    refine .inl ⟨rfl, List.dropWhile_eq_nil_iff.2 fun c' hc' => ?_⟩
    rw [bne_iff_ne]
    rintro rfl
    exact notMem_tail h hc'
  | cons c' rest ih =>
    by_cases hc : c' = c
    · subst hc
      exact .inr ⟨rest, by simp, by simp, by simp, by simp⟩
    · have hskip : (c' != c) = true := bne_iff_ne.2 hc
      simp only [List.cons_append, List.dropWhile_cons, List.takeWhile_cons, hskip, if_true]
      refine ih.imp id ?_
      rintro ⟨after, hdrop, hafter, hdrop', htake⟩
      exact ⟨after, hdrop, hafter.trans (List.suffix_cons c' rest), hdrop', congrArg _ htake⟩

theorem tailed_takeChars : Tailed d cs (fun ds _ => ')' ∈ ds) (takeChars verbose n cs)
    (takeChars verbose n (cs ++ tail d)) := by
  induction n generalizing cs with
  | zero => exact .left List.suffix_rfl
  | succ n ih =>
    cases cs with
    | nil =>
      refine .refused fun ds r h => ?_
      obtain ⟨⟨ds, r⟩, -, heq⟩ := Option.map_eq_some_iff.1 h
      cases heq
      exact List.mem_cons_self
    | cons c rest =>
      simp only [List.cons_append, takeChars]
      refine skip_cases verbose rest (fun u hu => ?_) fun hrest => ?_
      · exact (ih.wider (hu.trans (List.suffix_cons c rest))).map (c :: ·)
          fun _ _ hx => List.mem_cons_of_mem c hx
      · cases n with
        | zero => exact .swallowed (List.mem_cons_of_mem c hrest)
        | succ n => exact .of_none

theorem takeBraced_of_subset (h : cs ⊆ tail d) : takeBraced verbose n cs = none := by
  induction n generalizing cs with
  | zero => rfl
  | succ n ih =>
    rw [takeBraced, skip_of_subset h]
    split
    · rfl
    · exact absurd (h List.mem_cons_self) (notMem_tail (by decide))
    · rw [ih fun _ hc => h (List.mem_cons_of_mem _ hc), Option.map_none]

theorem tailed_takeBraced (hn : cs.length < n) (hm : (cs ++ tail d).length < m) :
    Tailed d cs Never (takeBraced verbose n cs) (takeBraced verbose m (cs ++ tail d)) := by
  induction n generalizing cs m with
  | zero => omega
  | succ n ih =>
    obtain ⟨m, rfl⟩ : ∃ k, m = k + 1 := ⟨m - 1, by omega⟩
    rw [List.length_append] at hm
    rw [takeBraced, takeBraced]
    refine skip_cases verbose cs (fun u hu => ?_) fun _ => .of_none
    cases u with
    | nil =>
      have hnone : takeBraced verbose (m + 1) (tail d) = none :=
        takeBraced_of_subset fun _ hc => hc
      rw [takeBraced, skip_tail] at hnone
      rw [List.nil_append, hnone]
      exact .of_none
    | cons c rest =>
      have hrest : rest <:+ cs := (List.suffix_cons c rest).trans hu
      have hlen := hu.length_le
      rw [List.length_cons] at hlen
      by_cases hc : c = '\x7d'
      · subst hc
        exact .left hrest
      · simp only [List.cons_append]
        have hread : Tailed d rest Never (takeBraced verbose n rest)
            (takeBraced verbose m (rest ++ tail d)) :=
          ih (by omega) (by rw [List.length_append]; omega)
        exact (hread.wider hrest).map (c :: ·) fun _ _ hx => hx

/-! ## Runs of characters -/

/-- A reader of a run of characters, blanks after each skipped, takes the same run. -/
theorem tailed_run {f : Nat → List Char → α × List Char} {x : α} (verbose : Bool)
    (p : Char → Bool) (g : Char → α → α) (hzero : ∀ cs, f 0 cs = (x, cs))
    (hnil : ∀ n, f n [] = (x, []))
    (hcons : ∀ n c rest, f (n + 1) (c :: rest) =
      if p c then (g c (f n (skip verbose rest)).1, (f n (skip verbose rest)).2)
      else (x, c :: rest))
    (hclose : p ')' = false) (hn : cs.length ≤ n) (hm : (cs ++ tail d).length ≤ m) :
    Tailed d cs Never (some (f n cs)) (some (f m (cs ++ tail d))) := by
  have hstop : ∀ m, f m (tail d) = (x, tail d) := by
    intro m
    cases m with
    | zero => exact hzero _
    | succ m => rw [tail, hcons, if_neg (by rw [hclose]; exact Bool.false_ne_true)]
  induction n generalizing cs m with
  | zero =>
    obtain rfl := List.length_eq_zero_iff.1 (Nat.le_zero.1 hn)
    rw [hzero, List.nil_append, hstop]
    exact .left List.suffix_rfl
  | succ n ih =>
    cases cs with
    | nil =>
      rw [hnil, List.nil_append, hstop]
      exact .left List.suffix_rfl
    | cons c rest =>
      obtain ⟨m, rfl⟩ : ∃ k, m = k + 1 := ⟨m - 1, by simp at hm; omega⟩
      rw [List.cons_append, hcons, hcons]
      by_cases hp : p c = true
      · rw [if_pos hp, if_pos hp]
        refine skip_cases verbose rest (fun u hu => ?_) fun hrest => ?_
        · have hlen := hu.length_le
          rw [List.length_append] at hm
          rw [List.length_cons] at hn hm
          have hread : Tailed d u Never (some (f n u)) (some (f m (u ++ tail d))) :=
            ih (by omega) (by rw [List.length_append]; omega)
          exact (hread.wider (hu.trans (List.suffix_cons c rest))).map (g c) fun _ _ hx => hx
        · rw [hnil, hnil]
          exact .swallowed (List.mem_cons_of_mem c hrest)
      · rw [if_neg hp, if_neg hp]
        exact .left List.suffix_rfl

theorem tailed_takeName (hn : cs.length ≤ n) (hm : (cs ++ tail d).length ≤ m) :
    Tailed d cs Never (some (takeName verbose n cs))
      (some (takeName verbose m (cs ++ tail d))) := by
  refine tailed_run verbose (fun c => c.isAlpha || c == '-') (· :: ·) (fun _ => rfl)
    (fun n => ?_) (fun n c rest => rfl) rfl hn hm
  cases n <;> rfl

theorem tailed_leadingHyphens (hn : cs.length ≤ n) (hm : (cs ++ tail d).length ≤ m) :
    Tailed d cs Never (some (leadingHyphens verbose n cs))
      (some (leadingHyphens verbose m (cs ++ tail d))) := by
  refine tailed_run verbose (· == '-') (fun _ k => k + 1) (fun _ => rfl) (fun n => ?_)
    (fun n c rest => ?_) rfl hn hm
  · cases n <;> rfl
  · by_cases hc : c = '-'
    · subst hc
      rfl
    · simp [leadingHyphens, hc]

theorem tailed_digits (hn : cs.length ≤ n) (hm : (cs ++ tail d).length ≤ m) :
    Tailed d cs Never (some (readCount.digits verbose n cs))
      (some (readCount.digits verbose m (cs ++ tail d))) := by
  refine tailed_run verbose Char.isDigit (· :: ·) (fun _ => rfl) (fun n => ?_)
    (fun n c rest => rfl) rfl hn hm
  cases n <;> rfl

/-! ## Escapes -/

theorem hexChar?_of_mem {ds : List Char} (h : ')' ∈ ds) : hexChar? ds = none := by
  have hnone : ds.mapM hexValue? = none := by
    induction ds with
    | nil => cases h
    | cons c ds ih =>
      rcases List.mem_cons.1 h with rfl | h
      · rfl
      · cases hc : hexValue? c <;> simp [List.mapM_cons, hc, ih h]
  unfold hexChar?
  split
  · rfl
  · rw [hnone, Option.bind_none]

theorem tailed_ofHex (read : Char → Primitive) {a b : Option (List Char × List Char)}
    (h : Tailed d cs (fun ds _ => ')' ∈ ds) a b) :
    Tailed d cs Never (ofHex read a).toOption (ofHex read b).toOption := by
  cases h with
  | @left ds r hr =>
    simp only [ofHex]
    cases hexChar? ds with
    | none => exact .of_none
    | some c => exact .left hr
  | @swallowed ds hcs =>
    simp only [ofHex]
    cases hexChar? ds with
    | none => exact .of_none
    | some c => exact .swallowed hcs
  | @refused b hb =>
    refine .refused fun x r h => ?_
    rcases b with _ | ⟨ds, after⟩
    · cases h
    · simp only [ofHex, hexChar?_of_mem (hb ds after rfl)] at h
      cases h

theorem tailed_hexEscape (digits : Nat) :
    Tailed d cs Never (hexEscape verbose digits cs).toOption
      (hexEscape verbose digits (cs ++ tail d)).toOption := by
  unfold hexEscape
  refine skip_cases verbose cs (fun u hu => ?_) fun _ => ?_
  · have hplain : Tailed d cs (fun ds _ => ')' ∈ ds) (takeChars verbose digits u)
        (takeChars verbose digits (u ++ tail d)) := tailed_takeChars.wider hu
    cases u with
    | nil => exact tailed_ofHex _ hplain
    | cons c rest =>
      by_cases hc : c = '\x7b'
      · subst hc
        have hbraced : Tailed d rest Never (takeBraced verbose (rest.length + 1) rest)
            (takeBraced verbose ((rest ++ tail d).length + 1) (rest ++ tail d)) :=
          tailed_takeBraced (Nat.lt_succ_self _) (Nat.lt_succ_self _)
        exact tailed_ofHex _ (hbraced.mono ((List.suffix_cons _ rest).trans hu) nofun)
      · simp only [List.cons_append, List.cons.injEq, hc, false_and, imp_self, implies_true]
        exact tailed_ofHex _ hplain
  · cases digits with
    | zero => exact .of_none
    | succ k => exact .of_none

theorem spent_replicate : Spent (List.replicate d '$') := fun _ h => (List.mem_replicate.1 h).2

/-- What is computed beside a reader leaves the rest as it is. -/
theorem tailed_compute {β : Type} (e : Except Fault β) (f : β → α) (h : rest <:+ cs) :
    Tailed d cs spoilt (do return (f (← e), rest) : Except Fault (α × List Char)).toOption
      (do return (f (← e), rest ++ tail d) : Except Fault (α × List Char)).toOption := by
  cases e with
  | error fault => exact .of_none
  | ok x => exact .left h

theorem tailed_letterClass (flags : Flags) (negated : Bool) (set : Text.CharSet)
    {spoilt : Primitive → List Char → Prop} :
    Tailed d rest spoilt (letterClass flags negated set rest).toOption
      (letterClass flags negated set (rest ++ tail d)).toOption :=
  tailed_compute (checkAscii flags (set.complIf negated)) Primitive.class List.suffix_rfl

theorem rest_of_compute {β : Type} {e : Except Fault β} {f : β → α} {x : α} {r : List Char}
    (h : (do return (f (← e), rest) : Except Fault (α × List Char)).toOption = some (x, r)) :
    r = rest := by
  cases e with
  | error fault => cases h
  | ok y =>
    cases h
    rfl

theorem tailed_ofProperty {flags : Flags} {negated : Bool} {name : List Char}
    {spoilt : Primitive → List Char → Prop} (h : rest <:+ cs) :
    Tailed d cs spoilt (ofProperty flags negated name rest).toOption
      (ofProperty flags negated name (rest ++ tail d)).toOption := by
  unfold ofProperty
  split
  · exact .of_none
  · split
    · exact tailed_compute _ _ h
    · exact .of_none

theorem rest_of_ofProperty {flags : Flags} {negated : Bool} {name r : List Char} {x : Primitive}
    (h : (ofProperty flags negated name rest).toOption = some (x, r)) : r = rest := by
  unfold ofProperty at h
  split at h
  · cases h
  · split at h
    · exact rest_of_compute h
    · cases h

theorem tailed_propertyEscape (flags : Flags) (negated : Bool) :
    Tailed d cs (fun _ r => Spent r) (propertyEscape flags negated cs).toOption
      (propertyEscape flags negated (cs ++ tail d)).toOption := by
  unfold propertyEscape
  refine skip_cases flags.verbose cs (fun u hu => ?_) fun _ => .of_none
  cases u with
  | nil =>
    refine .refused fun x r hread => ?_
    change (ofProperty flags negated [')'] (List.replicate d '$')).toOption = some (x, r) at hread
    rw [rest_of_ofProperty hread]
    exact spent_replicate
  | cons c rest =>
    have hrest : rest <:+ cs := (List.suffix_cons c rest).trans hu
    by_cases hc : c = '\x7b'
    · subst hc
      have hbraced : Tailed d rest Never
          (takeBraced flags.verbose (rest.length + 1) rest)
          (takeBraced flags.verbose ((rest ++ tail d).length + 1) (rest ++ tail d)) :=
        tailed_takeBraced (Nat.lt_succ_self _) (Nat.lt_succ_self _)
      simp only [List.cons_append]
      refine hbraced.elim_never (fun name after hafter => ?_) (fun name hcomment => ?_) .of_none
      · exact tailed_ofProperty (hafter.trans hrest)
      · exact .self (hrest.subset hcomment) fun x r => rest_of_ofProperty
    · simp only [List.cons_append]
      split
      · exact .of_none
      · exact tailed_ofProperty hrest

/-- A word boundary before a brace that the tail has left open. -/
def Braced (verbose : Bool) (x : Primitive) (r : List Char) : Prop :=
  ∃ l u d, x = .look l ∧ r = '\x7b' :: u ∧ skip verbose u = tail d

theorem tailed_closeEdge {flags : Flags} {name : List Char}
    {spoilt : Primitive → List Char → Prop} :
    Tailed d cs spoilt (closeEdge flags name cs).toOption
      (closeEdge flags name (cs ++ tail d)).toOption := by
  cases cs with
  | nil => exact .of_none
  | cons c rest =>
    by_cases hc : c = '\x7d'
    · subst hc
      simp only [List.cons_append, closeEdge]
      split
      · exact .left (List.suffix_cons _ rest)
      · exact .of_none
    · simp only [List.cons_append, closeEdge, List.cons.injEq, hc, false_and, imp_self,
        implies_true]
      exact .of_none

theorem tailed_wordBoundary (flags : Flags) :
    Tailed d cs (Braced flags.verbose) (wordBoundary flags cs).toOption
      (wordBoundary flags (cs ++ tail d)).toOption := by
  unfold wordBoundary
  cases cs with
  | nil => exact .left List.suffix_rfl
  | cons c rest =>
    by_cases hc : c = '\x7b'
    · subst hc
      simp only [List.cons_append]
      rcases skip_append (d := d) flags.verbose rest with h | ⟨-, h, h'⟩
      · rw [h]
        have hrest : skip flags.verbose rest <:+ '\x7b' :: rest :=
          (skip_suffix flags.verbose rest).trans (List.suffix_cons _ rest)
        generalize skip flags.verbose rest = u at h hrest
        cases u with
        | nil =>
          -- The tail is no name, so that the boundary stands before a brace that nothing closes.
          refine .refused fun x r hread => ?_
          cases hread
          exact ⟨_, _, d, rfl, rfl, h⟩
        | cons first us =>
          have hname : Tailed d (first :: us) Never
              (some (takeName flags.verbose (first :: us).length (first :: us)))
              (some (takeName flags.verbose (first :: us ++ tail d).length
                (first :: us ++ tail d))) :=
            tailed_takeName (Nat.le_refl _) (Nat.le_refl _)
          simp only [List.cons_append] at hname ⊢
          refine hname.elim_some (fun name after hafter => ?_) fun name hcomment => ?_
          · cases name with
            | nil => exact .left List.suffix_rfl
            | cons c' name => exact tailed_closeEdge.wider (hafter.trans hrest)
          · cases name with
            | nil => exact .left List.suffix_rfl
            | cons c' name => exact .of_none
      · rw [h, h']
        exact .of_none
    · simp only [List.cons_append, List.cons.injEq, hc, false_and, imp_self, implies_true]
      exact .left List.suffix_rfl

/-- What the tail makes of an escape that is refused alone: its parenthesis is escaped or names a
property, or it leaves open a brace after a word boundary. -/
def Spoilt (verbose : Bool) (x : Primitive) (r : List Char) : Prop := Spent r ∨ Braced verbose x r

theorem tailed_readEscape (flags : Flags) :
    Tailed d cs (Spoilt flags.verbose) (readEscape flags cs).toOption
      (readEscape flags (cs ++ tail d)).toOption := by
  cases cs with
  | nil =>
    refine .refused fun x r hread => ?_
    have hclose : (readEscape flags (tail d)).toOption =
        some (.literal ')', List.replicate d '$') := rfl
    cases hclose.symm.trans hread
    exact .inl spent_replicate
  | cons c rest =>
    have hrest : rest <:+ c :: rest := List.suffix_cons c rest
    simp only [List.cons_append, readEscape]
    split
    · exact .of_none
    · split
      · exact .left hrest
      · split
        · exact (tailed_hexEscape 2).mono hrest nofun
        · exact (tailed_hexEscape 4).mono hrest nofun
        · exact (tailed_hexEscape 8).mono hrest nofun
        · exact (tailed_propertyEscape flags false).mono hrest fun _ _ h => .inl h
        · exact (tailed_propertyEscape flags true).mono hrest fun _ _ h => .inl h
        all_goals first
          | exact (tailed_letterClass flags _ _).mono hrest fun _ _ h => h
          | exact (tailed_wordBoundary flags).mono hrest fun _ _ h => .inr h
          | exact .left hrest
          | exact .of_none

end Guardrail.Regex
