import Mathlib.Data.List.TakeWhile
import Mathlib.Tactic.SplitIfs
import Guardrail.Proofs.Json.Balanced

/-!
# What a reader takes off a text

A reader takes a value off the front of a text. What it takes is a balanced text, and it would take
the same off the front of any other text: what follows plays no part, except that it must not
continue a numeral. The bound on the number of items plays no part either, since it grows with the
text.

Results:
* `readChars_eq_some`: a string is read up to its closing quote.
* `text_of_readNumeral`, `readNumeral_of_text`: a numeral is read as the grammar has it.
* `text_of_readSequence`: the items of a container are read up to its closing character.
* `local_readValue`: a value is read from a balanced text, whatever follows.
* `container_of_ofChars?`: JSON text that begins with a bracket is a container and ends, blanks
  apart, with the partner of that bracket.
-/

namespace Guardrail.Json

variable {cs rest : List Char} {c : Char}

/-! ## Strings -/

/-- What may stand between the place that the reader of a string has reached and the closing
quote. -/
def StringState.Body : StringState → List Char → Prop
  | .escape _, b => StringBody ('\\' :: b)
  | _, b => StringBody b

theorem le_toNat_of_letterEscape? {e : Char} (h : letterEscape? c = some e) : 32 ≤ c.toNat := by
  unfold letterEscape? at h
  split at h <;> first | decide | cases h

theorem plain_of_hexValue? {d : Nat} (h : hexValue? c = some d) :
    c ≠ '"' ∧ c ≠ '\\' ∧ 32 ≤ c.toNat := by
  have hrange : 48 ≤ c.toNat ∧ c.toNat ≠ 92 := by
    unfold hexValue? at h
    dsimp only at h
    split_ifs at h <;> omega
  refine ⟨?_, ?_, by omega⟩
  · rintro rfl
    exact absurd hrange.1 (by decide)
  · rintro rfl
    exact hrange.2 rfl

/-- One step of the reader of a string, other than the last: it comes to another state, and the
character that it reads there, if it is complete, goes before those that follow. -/
structure StringStep (st : StringState) (c : Char) (st' : StringState) (read : List Char) :
    Prop where
  readChars_eq : ∀ cs, readChars st (c :: cs) =
    (readChars st' cs).map fun (s, r) => (read ++ s, r)
  body : ∀ b, st'.Body b → st.Body (c :: b)

/-- A reader of a string is at the closing quote, or goes on to another state. -/
theorem readChars_cases {st : StringState} {s : List Char}
    (h : readChars st (c :: cs) = some (s, rest)) :
    (st = .plain ∧ c = '"' ∧ s = [] ∧ cs = rest) ∨
      ∃ st' read, StringStep st c st' read := by
  cases st with
  | plain =>
    by_cases hquote : c = '"'
    · simp only [readChars, hquote, if_true, Option.some.injEq, Prod.mk.injEq] at h
      exact .inl ⟨rfl, hquote, h.1.symm, h.2⟩
    · refine .inr ?_
      by_cases hslash : c = '\\'
      · subst hslash
        refine ⟨.escape none, [], fun cs => ?_, fun b hb => hb⟩
        simp [readChars]
      · have hcontrol : ¬ c.toNat < 32 := by
          intro hcontrol
          simp [readChars, hquote, hslash, hcontrol] at h
        refine ⟨.plain, [c], fun cs => ?_, fun b hb => ?_⟩
        · simp [readChars, hquote, hslash, hcontrol]
        · exact .plain hquote hslash (Nat.not_lt.1 hcontrol) hb
  | paired high =>
    by_cases hslash : c = '\\'
    · subst hslash
      refine .inr ⟨.escape (some high), [], fun cs => ?_, fun b hb => hb⟩
      simp [readChars]
    · simp [readChars, hslash] at h
  | escape high =>
    refine .inr ?_
    by_cases hu : c = 'u'
    · subst hu
      refine ⟨.hex high 3 0, [], fun cs => ?_, fun b hb => .escaped (by decide) hb⟩
      simp [readChars]
    · cases high with
      | some high => simp [readChars, hu] at h
      | none =>
        cases he : letterEscape? c with
        | none => simp [readChars, hu, he] at h
        | some e =>
          refine ⟨.plain, [e], fun cs => ?_, fun b hb => ?_⟩
          · simp [readChars, hu, he]
          · exact .escaped (le_toNat_of_letterEscape? he) hb
  | hex high left value =>
    refine .inr ?_
    cases hd : hexValue? c with
    | none => simp [readChars, hd] at h
    | some d =>
      obtain ⟨hquote, hslash, hcontrol⟩ := plain_of_hexValue? hd
      have hbody : ∀ st' : StringState, (∀ b, st'.Body b → StringBody b) →
          ∀ b, st'.Body b → StringBody (c :: b) :=
        fun st' hst b hb => .plain hquote hslash hcontrol (hst b hb)
      cases left with
      | succ left =>
        refine ⟨.hex high left (value * 16 + d), [], fun cs => ?_, hbody _ fun b hb => hb⟩
        simp [readChars, hd]
      | zero =>
        cases hunit : unitMeaning? high (value * 16 + d) with
        | none => simp [readChars, hd, hunit] at h
        | some meaning =>
          cases meaning with
          | inl e =>
            refine ⟨.plain, [e], fun cs => ?_, hbody _ fun b hb => hb⟩
            simp [readChars, hd, hunit]
          | inr h =>
            refine ⟨.paired h, [], fun cs => ?_, hbody _ fun b hb => hb⟩
            simp [readChars, hd, hunit]

/-- The reader of a string takes a body and the closing quote, whatever follows. -/
theorem readChars_eq_some {st : StringState} {s : List Char}
    (h : readChars st cs = some (s, rest)) :
    ∃ body, cs = body ++ '"' :: rest ∧ st.Body body ∧
      ∀ more, readChars st (body ++ '"' :: more) = some (s, more) := by
  induction cs generalizing st s with
  | nil => cases st <;> cases h
  | cons c cs ih =>
    obtain ⟨rfl, rfl, rfl, rfl⟩ | ⟨st', read, hstep⟩ := readChars_cases h
    · exact ⟨[], rfl, .nil, fun more => rfl⟩
    · rw [hstep.readChars_eq] at h
      obtain ⟨⟨s', r⟩, hread, heq⟩ := Option.map_eq_some_iff.1 h
      obtain ⟨rfl, rfl⟩ := Prod.mk.inj heq
      obtain ⟨body, rfl, hbody, htakes⟩ := ih hread
      refine ⟨c :: body, rfl, hstep.body body hbody, fun more => ?_⟩
      rw [List.cons_append, hstep.readChars_eq, htakes more]
      rfl

/-! ## The front of a text -/

/-- A text falls into the characters of a kind at its front and a rest that does not begin with
one. -/
theorem exists_front (p : Char → Bool) (cs : List Char) :
    ∃ front rest, cs = front ++ rest ∧ (∀ c ∈ front, p c = true) ∧
      ∀ c ∈ rest.head?, p c = false := by
  refine ⟨cs.takeWhile p, cs.dropWhile p, List.takeWhile_append_dropWhile.symm,
    fun c hc => List.mem_takeWhile_imp hc, fun c hc => ?_⟩
  have hhead := List.head?_dropWhile_not p cs
  rw [Option.mem_def.1 hc] at hhead
  exact hhead

theorem takeWhile_front {p : Char → Bool} {front : List Char} (hfront : ∀ c ∈ front, p c = true)
    (hrest : ∀ c ∈ rest.head?, p c = false) :
    (front ++ rest).takeWhile p = front ∧ (front ++ rest).dropWhile p = rest := by
  rw [List.takeWhile_append_of_pos hfront, List.dropWhile_append_of_pos hfront]
  cases rest with
  | nil => exact ⟨List.append_nil _, rfl⟩
  | cons c rest =>
    have hc : ¬ p c = true := by rw [hrest c rfl]; exact Bool.false_ne_true
    rw [List.takeWhile_cons_of_neg hc, List.dropWhile_cons_of_neg hc, List.append_nil]
    exact ⟨rfl, rfl⟩

/-! ## Numerals -/

/-- The text does not begin with a character that could continue a numeral. -/
def Stops (cs : List Char) : Prop :=
  ∀ c ∈ cs.head?, c.isDigit = false ∧ c ≠ '.' ∧ c ≠ 'e' ∧ c ≠ 'E'

/-- The reader takes the text off the front of every text in which nothing continues it. -/
def Takes (r : Reader α) (text : List Char) (x : α) : Prop :=
  ∀ rest, Stops rest → r (text ++ rest) = some (x, rest)

theorem takeDigits_front {ds : List Char} (hds : ∀ c ∈ ds, c.isDigit = true)
    (hrest : ∀ c ∈ rest.head?, c.isDigit = false) :
    takeDigits (ds ++ rest) = (ds.map digitValue, rest) := by
  obtain ⟨htake, hdrop⟩ := takeWhile_front hds hrest
  rw [takeDigits, htake, hdrop]

/-- A point with the digits after it. -/
inductive FractionText : List Char → Option (List Nat) → Prop
  | none : FractionText [] none
  | digits {ds : List Char} (hne : ds ≠ []) (hds : ∀ c ∈ ds, c.isDigit = true) :
      FractionText ('.' :: ds) (some (ds.map digitValue))

/-- The mark of an exponent with the sign and the digits after it. -/
inductive ExponentText : List Char → Option (Bool × List Nat) → Prop
  | none : ExponentText [] none
  | digits {mark : Char} {sign ds : List Char} {negative : Bool} (hmark : mark = 'e' ∨ mark = 'E')
      (hsign : (sign, negative) ∈ [([], false), (['+'], false), (['-'], true)]) (hne : ds ≠ [])
      (hds : ∀ c ∈ ds, c.isDigit = true) :
      ExponentText (mark :: (sign ++ ds)) (some (negative, ds.map digitValue))

theorem readFraction_of_text {text : List Char} {fraction : Option (List Nat)}
    (h : FractionText text fraction)
    (hrest : ∀ c ∈ rest.head?, c.isDigit = false ∧ c ≠ '.') :
    readFraction (text ++ rest) = some (fraction, rest) := by
  cases h with
  | none =>
    cases rest with
    | nil => rfl
    | cons c rest =>
      rw [List.nil_append]
      unfold readFraction
      split
      · next heq => exact absurd (List.cons.inj heq).1 (hrest c rfl).2
      · rfl
  | @digits ds hne hds =>
    have hdigits := takeDigits_front hds fun c hc => (hrest c hc).1
    rw [List.cons_append, readFraction, hdigits]
    cases ds with
    | nil => exact absurd rfl hne
    | cons d ds => rfl

theorem text_of_readFraction {fraction : Option (List Nat)}
    (h : readFraction cs = some (fraction, rest)) :
    ∃ text, cs = text ++ rest ∧ FractionText text fraction := by
  unfold readFraction at h
  split at h
  · next after =>
    obtain ⟨ds, rest', rfl, hds, hrest'⟩ := exists_front Char.isDigit after
    rw [takeDigits_front hds hrest'] at h
    cases ds with
    | nil => cases h
    | cons d ds =>
      simp only [List.map_cons, Option.some.injEq, Prod.mk.injEq] at h
      obtain ⟨rfl, rfl⟩ := h
      exact ⟨'.' :: d :: ds, rfl, .digits (List.cons_ne_nil _ _) hds⟩
  · obtain ⟨rfl, rfl⟩ := Prod.mk.inj (Option.some.inj h)
    exact ⟨[], rfl, .none⟩

/-- The sign of an exponent, and what follows it. -/
def exponentSign : List Char → Bool × List Char
  | '-' :: rest => (true, rest)
  | '+' :: rest => (false, rest)
  | rest => (false, rest)

theorem readExponent_mark (hmark : c = 'e' ∨ c = 'E') :
    readExponent (c :: cs) =
      match takeDigits (exponentSign cs).2 with
      | ([], _) => none
      | (ds, rest) => some (some ((exponentSign cs).1, ds), rest) := by
  unfold readExponent exponentSign
  exact if_pos hmark

theorem exists_exponentSign (cs : List Char) :
    ∃ sign rest, cs = sign ++ rest ∧
      (sign, (exponentSign cs).1) ∈ [([], false), (['+'], false), (['-'], true)] ∧
      (exponentSign cs).2 = rest := by
  unfold exponentSign
  split
  · exact ⟨['-'], _, rfl, by simp, rfl⟩
  · exact ⟨['+'], _, rfl, by simp, rfl⟩
  · exact ⟨[], _, rfl, by simp, rfl⟩

theorem exponentSign_of_digit {sign : List Char} {negative : Bool}
    (hsign : (sign, negative) ∈ [([], false), (['+'], false), (['-'], true)])
    (hc : c.isDigit = true) : exponentSign (sign ++ c :: cs) = (negative, c :: cs) := by
  simp only [List.mem_cons, Prod.mk.injEq, List.not_mem_nil, or_false] at hsign
  rcases hsign with ⟨rfl, rfl⟩ | ⟨rfl, rfl⟩ | ⟨rfl, rfl⟩
  · rw [List.nil_append]
    unfold exponentSign
    split
    · next heq => cases heq; cases hc
    · next heq => cases heq; cases hc
    · rfl
  · rfl
  · rfl

theorem readExponent_of_text {text : List Char} {exponent : Option (Bool × List Nat)}
    (h : ExponentText text exponent)
    (hrest : ∀ c ∈ rest.head?, c.isDigit = false ∧ c ≠ 'e' ∧ c ≠ 'E') :
    readExponent (text ++ rest) = some (exponent, rest) := by
  cases h with
  | none =>
    cases rest with
    | nil => rfl
    | cons c rest =>
      obtain ⟨-, hlower, hupper⟩ := hrest c rfl
      simp [readExponent, hlower, hupper]
  | @digits mark sign ds negative hmark hsign hne hds =>
    have hdigits := takeDigits_front hds fun c hc => (hrest c hc).1
    obtain ⟨d, ds, rfl⟩ := List.exists_cons_of_ne_nil hne
    have hd : d.isDigit = true := hds d List.mem_cons_self
    rw [List.cons_append, List.append_assoc, readExponent_mark hmark, List.cons_append,
      exponentSign_of_digit hsign hd, ← List.cons_append, hdigits]
    rfl

theorem text_of_readExponent {exponent : Option (Bool × List Nat)}
    (h : readExponent cs = some (exponent, rest)) :
    ∃ text, cs = text ++ rest ∧ ExponentText text exponent := by
  cases cs with
  | nil =>
    obtain ⟨rfl, rfl⟩ := Prod.mk.inj (Option.some.inj h)
    exact ⟨[], rfl, .none⟩
  | cons c cs =>
    by_cases hmark : c = 'e' ∨ c = 'E'
    · rw [readExponent_mark hmark] at h
      obtain ⟨sign, after, rfl, hsign, hafter⟩ := exists_exponentSign cs
      obtain ⟨ds, rest', rfl, hds, hrest'⟩ := exists_front Char.isDigit after
      rw [hafter, takeDigits_front hds hrest'] at h
      cases ds with
      | nil => cases h
      | cons d ds =>
        simp only [List.map_cons, Option.some.injEq, Prod.mk.injEq] at h
        obtain ⟨rfl, rfl⟩ := h
        refine ⟨c :: (sign ++ d :: ds), by simp, .digits hmark hsign (List.cons_ne_nil _ _) hds⟩
    · simp only [readExponent, if_neg hmark, Option.some.injEq, Prod.mk.injEq] at h
      obtain ⟨rfl, rfl⟩ := h
      exact ⟨[], rfl, .none⟩

/-- A numeral as the grammar has it. -/
inductive NumeralText : List Char → Numeral → Prop
  | parts {sign ds fractionText exponentText : List Char} {negative : Bool}
      {fraction : Option (List Nat)} {exponent : Option (Bool × List Nat)}
      (hsign : (sign, negative) ∈ [([], false), (['-'], true)]) (hne : ds ≠ [])
      (hds : ∀ c ∈ ds, c.isDigit = true)
      (hzero : ∀ d more, ds.map digitValue ≠ 0 :: d :: more)
      (hfraction : FractionText fractionText fraction)
      (hexponent : ExponentText exponentText exponent) :
      NumeralText (sign ++ (ds ++ (fractionText ++ exponentText)))
        ⟨negative, ds.map digitValue, fraction, exponent⟩

/-- The sign of a numeral, and what follows it. -/
def numeralSign : List Char → Bool × List Char
  | '-' :: rest => (true, rest)
  | cs => (false, cs)

theorem exists_numeralSign (cs : List Char) :
    ∃ sign rest, cs = sign ++ rest ∧
      (sign, (numeralSign cs).1) ∈ [([], false), (['-'], true)] ∧ (numeralSign cs).2 = rest := by
  unfold numeralSign
  split
  · exact ⟨['-'], _, rfl, by simp, rfl⟩
  · exact ⟨[], _, rfl, by simp, rfl⟩

theorem numeralSign_of_digit {sign : List Char} {negative : Bool}
    (hsign : (sign, negative) ∈ [([], false), (['-'], true)]) (hc : c.isDigit = true) :
    numeralSign (sign ++ c :: cs) = (negative, c :: cs) := by
  simp only [List.mem_cons, Prod.mk.injEq, List.not_mem_nil, or_false] at hsign
  rcases hsign with ⟨rfl, rfl⟩ | ⟨rfl, rfl⟩
  · rw [List.nil_append]
    unfold numeralSign
    split
    · next heq => cases heq; cases hc
    · rfl
  · rfl

theorem readNumeral_eq (cs : List Char) :
    readNumeral cs =
      match takeDigits (numeralSign cs).2 with
      | ([], _) => none
      | (0 :: _ :: _, _) => none
      | (whole, rest) =>
        match readFraction rest with
        | none => none
        | some (fraction, rest) =>
          match readExponent rest with
          | none => none
          | some (exponent, rest) =>
            some (⟨(numeralSign cs).1, whole, fraction, exponent⟩, rest) := rfl

/-- What follows the digits of a numeral does not continue them. -/
theorem head_fractionText {text : List Char} {fraction : Option (List Nat)}
    (h : FractionText text fraction) (hrest : ∀ c ∈ rest.head?, c.isDigit = false) :
    ∀ c ∈ (text ++ rest).head?, c.isDigit = false := by
  cases h with
  | none => exact hrest
  | digits hne hds =>
    intro c hc
    obtain rfl := Option.some.inj hc
    rfl

theorem head_exponentText {text : List Char} {exponent : Option (Bool × List Nat)}
    (h : ExponentText text exponent) (hrest : ∀ c ∈ rest.head?, c.isDigit = false ∧ c ≠ '.') :
    ∀ c ∈ (text ++ rest).head?, c.isDigit = false ∧ c ≠ '.' := by
  cases h with
  | none => exact hrest
  | digits hmark hsign hne hds =>
    intro c hc
    obtain rfl := Option.some.inj hc
    rcases hmark with rfl | rfl <;> decide

theorem readNumeral_of_text {text : List Char} {n : Numeral} (h : NumeralText text n) :
    Takes readNumeral text n := by
  intro rest hrest
  cases h with
  | @parts sign ds fractionText exponentText negative fraction exponent hsign hne hds hzero
      hfraction hexponent =>
    have hexp := readExponent_of_text hexponent fun c hc => ⟨(hrest c hc).1, (hrest c hc).2.2⟩
    have hhead := head_exponentText hexponent fun c hc => ⟨(hrest c hc).1, (hrest c hc).2.1⟩
    have hfrac := readFraction_of_text hfraction hhead
    have hdigits := takeDigits_front hds (head_fractionText hfraction fun c hc => (hhead c hc).1)
    obtain ⟨d, ds, rfl⟩ := List.exists_cons_of_ne_nil hne
    have hd : d.isDigit = true := hds d List.mem_cons_self
    have hshape : sign ++ (d :: ds ++ (fractionText ++ exponentText)) ++ rest =
        sign ++ d :: (ds ++ (fractionText ++ (exponentText ++ rest))) := by
      simp
    rw [List.cons_append] at hdigits
    rw [hshape, readNumeral_eq, numeralSign_of_digit hsign hd]
    dsimp only
    rw [hdigits]
    split
    · next heq => cases heq
    · next heq => exact absurd (Prod.mk.inj heq).1 (hzero _ _)
    · next heq =>
      obtain ⟨rfl, rfl⟩ := Prod.mk.inj heq
      rw [hfrac]
      dsimp only
      rw [hexp]

theorem text_of_readNumeral {n : Numeral} (h : readNumeral cs = some (n, rest)) :
    ∃ text, cs = text ++ rest ∧ NumeralText text n := by
  rw [readNumeral_eq] at h
  obtain ⟨sign, after, rfl, hsign, hafter⟩ := exists_numeralSign cs
  obtain ⟨ds, rest', rfl, hds, hrest'⟩ := exists_front Char.isDigit after
  rw [hafter, takeDigits_front hds hrest'] at h
  split at h
  · cases h
  · cases h
  · next hnil hzero heq =>
    obtain ⟨rfl, rfl⟩ := Prod.mk.inj heq
    cases hfraction : readFraction rest' with
    | none => simp [hfraction] at h
    | some f =>
      obtain ⟨fraction, rest₁⟩ := f
      cases hexponent : readExponent rest₁ with
      | none => simp [hfraction, hexponent] at h
      | some e =>
        obtain ⟨exponent, rest₂⟩ := e
        simp only [hfraction, hexponent, Option.some.injEq, Prod.mk.injEq] at h
        obtain ⟨rfl, rfl⟩ := h
        obtain ⟨fractionText, rfl, hf⟩ := text_of_readFraction hfraction
        obtain ⟨exponentText, rfl, he⟩ := text_of_readExponent hexponent
        have hne : ds ≠ [] := by
          rintro rfl
          exact hnil rfl
        exact ⟨sign ++ (ds ++ (fractionText ++ exponentText)), by simp,
          .parts hsign hne hds (fun d more hmap => hzero d more hmap) hf he⟩

theorem not_mem_marks_of_isDigit (h : c.isDigit = true) : c ∉ marks :=
  not_mem_marks rfl h

/-- In a numeral there are no quotes and no brackets. -/
theorem balanced_of_numeralText {text : List Char} {n : Numeral} (h : NumeralText text n) :
    Balanced text := by
  have hdigits : ∀ ds : List Char, (∀ c ∈ ds, c.isDigit = true) → Balanced ds :=
    fun ds hds => balanced_of_forall fun c hc => not_mem_marks_of_isDigit (hds c hc)
  cases h with
  | parts hsign hne hds hzero hfraction hexponent =>
    refine .append ?_ (.append (hdigits _ hds) (.append ?_ ?_))
    · simp only [List.mem_cons, Prod.mk.injEq, List.not_mem_nil, or_false] at hsign
      rcases hsign with ⟨rfl, -⟩ | ⟨rfl, -⟩ <;> exact balanced_of_all rfl
    · cases hfraction with
      | none => exact .nil
      | digits hne hds => exact .bare (by decide) (hdigits _ hds)
    · cases hexponent with
      | none => exact .nil
      | digits hmark hsign hne hds =>
        simp only [List.mem_cons, Prod.mk.injEq, List.not_mem_nil, or_false] at hsign
        refine .bare (by rcases hmark with rfl | rfl <;> decide) (.append ?_ (hdigits _ hds))
        rcases hsign with ⟨rfl, -⟩ | ⟨rfl, -⟩ | ⟨rfl, -⟩ <;> exact balanced_of_all rfl

/-- A numeral begins with its sign or a digit. -/
theorem head_numeralText {text : List Char} {n : Numeral} (h : NumeralText text n) :
    ∃ c more, text = c :: more ∧ (c = '-' ∨ c.isDigit = true) := by
  cases h with
  | @parts sign ds fractionText exponentText negative fraction exponent hsign hne hds =>
    simp only [List.mem_cons, Prod.mk.injEq, List.not_mem_nil, or_false] at hsign
    rcases hsign with ⟨rfl, -⟩ | ⟨rfl, -⟩
    · obtain ⟨d, ds, rfl⟩ := List.exists_cons_of_ne_nil hne
      exact ⟨d, _, rfl, .inr (hds d List.mem_cons_self)⟩
    · exact ⟨'-', _, rfl, .inl rfl⟩

/-! ## Scalars -/

/-- What a reader takes off the front of a text is balanced and not empty, and it takes the same off
the front of every text in which nothing continues it. -/
def Local (r : Reader α) : Prop :=
  ∀ cs x rest, r cs = some (x, rest) →
    ∃ text, cs = text ++ rest ∧ Balanced text ∧ text ≠ [] ∧ Takes r text x

theorem readScalar_of_numeralText {text : List Char} {n : Numeral} {v : Number}
    (h : NumeralText text n) (hv : n.value? = some v) : Takes readScalar text (.num v) := by
  intro rest hrest
  have hread := readNumeral_of_text h rest hrest
  obtain ⟨c, more, rfl, hc⟩ := head_numeralText h
  have hletter : c ≠ 'n' ∧ c ≠ 't' ∧ c ≠ 'f' ∧ c ≠ '"' := by
    rcases hc with rfl | hdigit
    · decide
    · refine ⟨?_, ?_, ?_, ?_⟩ <;>
      · rintro rfl
        cases hdigit
  unfold readScalar
  split
  · next heq => exact absurd (List.cons.inj heq).1 hletter.1
  · next heq => exact absurd (List.cons.inj heq).1 hletter.2.1
  · next heq => exact absurd (List.cons.inj heq).1 hletter.2.2.1
  · next heq => exact absurd (List.cons.inj heq).1 hletter.2.2.2
  · rw [hread]
    dsimp only
    rw [hv]
    rfl

theorem text_of_readString {s : String} (h : readString cs = some (s, rest)) :
    ∃ body, cs = body ++ '"' :: rest ∧ StringBody body ∧
      ∀ more, readString (body ++ '"' :: more) = some (s, more) := by
  obtain ⟨⟨chars, r⟩, hchars, heq⟩ := Option.map_eq_some_iff.1 h
  obtain ⟨rfl, rfl⟩ := Prod.mk.inj heq
  obtain ⟨body, rfl, hbody, htakes⟩ := readChars_eq_some hchars
  refine ⟨body, rfl, hbody, fun more => ?_⟩
  unfold readString
  rw [htakes more]
  rfl

theorem local_readScalar : Local readScalar := by
  intro cs v rest h
  unfold readScalar at h
  split at h
  · obtain ⟨rfl, rfl⟩ := Prod.mk.inj (Option.some.inj h)
    exact ⟨['n', 'u', 'l', 'l'], rfl, balanced_of_all rfl, List.cons_ne_nil _ _,
      fun rest _ => rfl⟩
  · obtain ⟨rfl, rfl⟩ := Prod.mk.inj (Option.some.inj h)
    exact ⟨['t', 'r', 'u', 'e'], rfl, balanced_of_all rfl, List.cons_ne_nil _ _,
      fun rest _ => rfl⟩
  · obtain ⟨rfl, rfl⟩ := Prod.mk.inj (Option.some.inj h)
    exact ⟨['f', 'a', 'l', 's', 'e'], rfl, balanced_of_all rfl, List.cons_ne_nil _ _,
      fun rest _ => rfl⟩
  · obtain ⟨⟨s, r⟩, hs, heq⟩ := Option.map_eq_some_iff.1 h
    obtain ⟨rfl, rfl⟩ := Prod.mk.inj heq
    obtain ⟨body, rfl, hbody, htakes⟩ := text_of_readString hs
    refine ⟨'"' :: (body ++ ['"']), by simp, .string hbody .nil, List.cons_ne_nil _ _,
      fun rest _ => ?_⟩
    have hshape : '"' :: (body ++ ['"']) ++ rest = '"' :: (body ++ '"' :: rest) := by simp
    rw [hshape, readScalar, htakes rest]
    rfl
  · split at h
    · cases h
    · next n rest' hn =>
      obtain ⟨v, hv, heq⟩ := Option.map_eq_some_iff.1 h
      obtain ⟨rfl, rfl⟩ := Prod.mk.inj heq
      obtain ⟨text, rfl, htext⟩ := text_of_readNumeral hn
      obtain ⟨c, more, hcons, -⟩ := head_numeralText htext
      exact ⟨text, rfl, balanced_of_numeralText htext, by rw [hcons]; exact List.cons_ne_nil _ _,
        readScalar_of_numeralText htext hv⟩

/-! ## Blanks -/

theorem skipSpace_front {sp : List Char} (hsp : ∀ c ∈ sp, isSpace c = true)
    (hrest : ∀ c ∈ rest.head?, isSpace c = false) : skipSpace (sp ++ rest) = rest :=
  (takeWhile_front hsp hrest).2

theorem skipSpace_cons_front {sp : List Char} (hsp : ∀ c ∈ sp, isSpace c = true)
    (hc : isSpace c = false) : skipSpace (sp ++ c :: cs) = c :: cs :=
  skipSpace_front hsp fun c' hc' => by
    obtain rfl := Option.some.inj hc'
    exact hc

theorem exists_skipSpace (cs : List Char) :
    ∃ sp, cs = sp ++ skipSpace cs ∧ (∀ c ∈ sp, isSpace c = true) ∧
      ∀ c ∈ (skipSpace cs).head?, isSpace c = false := by
  obtain ⟨sp, rest, rfl, hsp, hrest⟩ := exists_front isSpace cs
  rw [skipSpace_front hsp hrest]
  exact ⟨sp, rfl, hsp, hrest⟩

theorem stops_cons (h : c.isDigit = false ∧ c ≠ '.' ∧ c ≠ 'e' ∧ c ≠ 'E') : Stops (c :: cs) := by
  intro c' hc'
  obtain rfl := Option.some.inj hc'
  exact h

/-- A text that begins with a blank, or after blanks with a character that does not continue a
numeral, does not continue one. -/
theorem stops_of_spaces {sp more : List Char} (hsp : ∀ c ∈ sp, isSpace c = true)
    (hc : c.isDigit = false ∧ c ≠ '.' ∧ c ≠ 'e' ∧ c ≠ 'E') : Stops (sp ++ c :: more) := by
  cases sp with
  | nil => exact stops_cons hc
  | cons s sp =>
    refine stops_cons ?_
    have hspace := hsp s List.mem_cons_self
    simp only [isSpace, Bool.or_eq_true, beq_iff_eq] at hspace
    rcases hspace with ((rfl | rfl) | rfl) | rfl <;> decide

/-! ## Sequences -/

section Sequences

variable {α : Type} {item : Reader α} {close : Char} {text sp more : List Char} {x : α} {fuel : Nat}

/-- The closing characters of containers. -/
def IsClosing (close : Char) : Prop := close = ']' ∨ close = '\x7d'

theorem IsClosing.stops (h : IsClosing close) :
    close.isDigit = false ∧ close ≠ '.' ∧ close ≠ 'e' ∧ close ≠ 'E' := by
  rcases h with rfl | rfl <;> decide

theorem IsClosing.isSpace_eq_false (h : IsClosing close) : isSpace close = false := by
  rcases h with rfl | rfl <;> rfl

theorem IsClosing.ne_comma (h : IsClosing close) : close ≠ ',' := by
  rcases h with rfl | rfl <;> decide

theorem readItems_cons (htext : Takes item text x) (hsp : ∀ c ∈ sp, isSpace c = true) :
    readItems item close (fuel + 1) (text ++ (sp ++ ',' :: more)) =
      (readItems item close fuel more).map fun (xs, r) => (x :: xs, r) := by
  have hread := htext (sp ++ ',' :: more) (stops_of_spaces hsp (by decide))
  have hskip : skipSpace (sp ++ ',' :: more) = ',' :: more := skipSpace_cons_front hsp rfl
  simp only [readItems, hread, hskip, if_true]

theorem readItems_last (htext : Takes item text x) (hsp : ∀ c ∈ sp, isSpace c = true)
    (hclose : IsClosing close) :
    readItems item close (fuel + 1) (text ++ (sp ++ close :: more)) = some ([x], more) := by
  have hread := htext (sp ++ close :: more) (stops_of_spaces hsp hclose.stops)
  have hskip : skipSpace (sp ++ close :: more) = close :: more :=
    skipSpace_cons_front hsp hclose.isSpace_eq_false
  simp only [readItems, hread, hskip, hclose.ne_comma, if_false, if_true]

/-- Items are read from a balanced text that ends before the closing character, with any fuel that
is enough for their number. -/
theorem text_of_readItems (hitem : Local item) (hclose : IsClosing close) {xs : List α}
    (h : readItems item close fuel cs = some (xs, rest)) :
    ∃ body, cs = body ++ close :: rest ∧ Balanced body ∧ xs.length ≤ body.length ∧
      ∀ fuel' more, xs.length ≤ fuel' →
        readItems item close fuel' (body ++ close :: more) = some (xs, more) := by
  induction fuel generalizing cs xs with
  | zero => cases h
  | succ fuel ih =>
    rw [readItems] at h
    cases hx : item cs with
    | none => simp [hx] at h
    | some first =>
      obtain ⟨x, after⟩ := first
      obtain ⟨text, rfl, hbalanced, hne, htakes⟩ := hitem _ _ _ hx
      have hpos : 0 < text.length := List.length_pos_iff.2 hne
      obtain ⟨sp, hafter, hsp, -⟩ := exists_skipSpace after
      cases hskip : skipSpace after with
      | nil => simp [hx, hskip] at h
      | cons c next =>
        rw [hskip] at hafter
        subst hafter
        simp only [hx, hskip] at h
        split_ifs at h with hcomma hend
        · obtain ⟨⟨ys, r⟩, hys, heq⟩ := Option.map_eq_some_iff.1 h
          obtain ⟨rfl, rfl⟩ := Prod.mk.inj heq
          obtain ⟨body, rfl, hbody, hlen, hread⟩ := ih hys
          subst hcomma
          refine ⟨text ++ (sp ++ ',' :: body), by simp, ?_, ?_, ?_⟩
          · exact hbalanced.append ((balanced_of_isSpace hsp).append (.bare (by decide) hbody))
          · simp only [List.length_append, List.length_cons]
            omega
          · intro fuel' more hfuel
            obtain ⟨fuel', rfl⟩ := Nat.exists_eq_add_of_le' hfuel
            have hshape : text ++ (sp ++ ',' :: body) ++ close :: more =
                text ++ (sp ++ ',' :: (body ++ close :: more)) := by simp
            rw [hshape, List.length_cons, ← Nat.add_assoc, readItems_cons htakes hsp,
              hread _ _ (Nat.le_add_left _ _)]
            rfl
        · obtain ⟨rfl, rfl⟩ := Prod.mk.inj (Option.some.inj h)
          subst hend
          refine ⟨text ++ sp, by simp, hbalanced.append (balanced_of_isSpace hsp), ?_, ?_⟩
          · simp only [List.length_append, List.length_singleton]
            omega
          · intro fuel' more hfuel
            obtain ⟨fuel', rfl⟩ := Nat.exists_eq_add_of_le' hfuel
            rw [List.append_assoc, List.length_singleton]
            exact readItems_last htakes hsp hclose

theorem readSequence_nil (hsp : ∀ c ∈ sp, isSpace c = true) (hclose : IsClosing close) :
    readSequence item close (sp ++ close :: more) = some ([], more) := by
  have hskip : skipSpace (sp ++ close :: more) = close :: more :=
    skipSpace_cons_front hsp hclose.isSpace_eq_false
  simp only [readSequence, hskip, if_true]

theorem readSequence_eq (hsp : ∀ c ∈ sp, isSpace c = true) (hspace : isSpace c = false)
    (hc : c ≠ close) :
    readSequence item close (sp ++ c :: more) =
      readItems item close (sp ++ c :: more).length (sp ++ c :: more) := by
  have hskip : skipSpace (sp ++ c :: more) = c :: more := skipSpace_cons_front hsp hspace
  simp only [readSequence, hskip, if_neg hc]

/-- The items of a container are read from a balanced text that ends before the closing character,
whatever follows. -/
theorem text_of_readSequence (hitem : Local item) (hclose : IsClosing close) {xs : List α}
    (h : readSequence item close cs = some (xs, rest)) :
    ∃ body, cs = body ++ close :: rest ∧ Balanced body ∧
      ∀ more, readSequence item close (body ++ close :: more) = some (xs, more) := by
  obtain ⟨sp, hcs, hsp, hhead⟩ := exists_skipSpace cs
  cases hskip : skipSpace cs with
  | nil => simp [readSequence, hskip] at h
  | cons c after =>
    rw [hskip] at hcs hhead
    have hspace : isSpace c = false := hhead c rfl
    subst hcs
    by_cases hc : c = close
    · subst hc
      rw [readSequence_nil hsp hclose] at h
      obtain ⟨rfl, rfl⟩ := Prod.mk.inj (Option.some.inj h)
      exact ⟨sp, rfl, balanced_of_isSpace hsp, fun more => readSequence_nil hsp hclose⟩
    · rw [readSequence_eq hsp hspace hc] at h
      obtain ⟨body, hbody, hbalanced, hlen, hread⟩ := text_of_readItems hitem hclose h
      -- the first character that is no blank is part of the items
      obtain ⟨inner, rfl⟩ : ∃ inner, body = sp ++ c :: inner := by
        rcases List.append_eq_append_iff.1 hbody with ⟨ys, rfl, hys⟩ | ⟨ys, rfl, hys⟩
        · cases ys with
          | nil => exact absurd (List.cons.inj hys).1 hc
          | cons y ys =>
            obtain ⟨rfl, -⟩ := List.cons.inj hys
            exact ⟨ys, rfl⟩
        · cases ys with
          | nil => exact absurd (List.cons.inj hys).1.symm hc
          | cons y ys =>
            obtain ⟨rfl, -⟩ := List.cons.inj hys
            have hblank := hsp close (by simp)
            rw [hclose.isSpace_eq_false] at hblank
            cases hblank
      refine ⟨_, hbody, hbalanced, fun more => ?_⟩
      have hshape : sp ++ c :: inner ++ close :: more = sp ++ c :: (inner ++ close :: more) := by
        simp
      rw [hshape, readSequence_eq hsp hspace hc, ← hshape]
      exact hread _ _ (hlen.trans (List.prefix_append _ _).length_le)

end Sequences

/-! ## Values -/

theorem readMember_text {value : Reader Json} {sp sp' body text : List Char} {key : String}
    {v : Json} (hsp : ∀ c ∈ sp, isSpace c = true) (hsp' : ∀ c ∈ sp', isSpace c = true)
    (hkey : ∀ more, readString (body ++ '"' :: more) = some (key, more))
    (hvalue : Takes value text v) :
    Takes (readMember value) (sp ++ '"' :: (body ++ '"' :: (sp' ++ ':' :: text))) (key, v) := by
  intro rest hrest
  have hshape : sp ++ '"' :: (body ++ '"' :: (sp' ++ ':' :: text)) ++ rest =
      sp ++ '"' :: (body ++ '"' :: (sp' ++ ':' :: (text ++ rest))) := by simp
  have hskip : ∀ more, skipSpace (sp ++ '"' :: more) = '"' :: more := fun more =>
    skipSpace_cons_front hsp rfl
  have hskip' : ∀ more, skipSpace (sp' ++ ':' :: more) = ':' :: more := fun more =>
    skipSpace_cons_front hsp' rfl
  rw [hshape]
  unfold readMember
  simp only [hskip, hkey, hskip', hvalue rest hrest, Option.map_some]

theorem local_readMember {value : Reader Json} (hvalue : Local value) :
    Local (readMember value) := by
  intro cs e rest h
  obtain ⟨sp, hcs, hsp, -⟩ := exists_skipSpace cs
  unfold readMember at h
  split at h
  · next after hskip =>
    split at h
    · cases h
    · next key after' hkey =>
      obtain ⟨body, rfl, hbody, hread⟩ := text_of_readString hkey
      obtain ⟨sp', hafter', hsp', -⟩ := exists_skipSpace after'
      split at h
      · next cs' hskip' =>
        obtain ⟨⟨v, r⟩, hv, heq⟩ := Option.map_eq_some_iff.1 h
        obtain ⟨rfl, rfl⟩ := Prod.mk.inj heq
        obtain ⟨text, rfl, hbalanced, -, htakes⟩ := hvalue _ _ _ hv
        rw [hskip'] at hafter'
        rw [hskip, hafter'] at hcs
        refine ⟨_, ?_, ?_, ?_, readMember_text hsp hsp' hread htakes⟩
        · rw [hcs]
          simp
        · exact (balanced_of_isSpace hsp).append (.string hbody
            ((balanced_of_isSpace hsp').append (.bare (by decide) hbalanced)))
        · simp
      · cases h
  · cases h

/-- Blanks before a value do not count. -/
theorem readValue_append_of_isSpace {depth : Nat} {sp : List Char}
    (hsp : ∀ c ∈ sp, isSpace c = true) : readValue depth (sp ++ cs) = readValue depth cs := by
  have hskip : skipSpace (sp ++ cs) = skipSpace cs := List.dropWhile_append_of_pos hsp
  cases depth <;> simp only [readValue, hskip]

theorem readValue_arr {depth : Nat} :
    readValue (depth + 1) ('[' :: cs) =
      (readSequence (readValue depth) ']' cs).map fun (items, r) => (.arr items, r) := rfl

theorem readValue_obj {depth : Nat} :
    readValue (depth + 1) ('\x7b' :: cs) =
      (readSequence (readMember (readValue depth)) '\x7d' cs).map fun (members, r) =>
        (.ofMembers members, r) := rfl

/-- A value that is no container is read after blanks. -/
theorem readValue_scalar {depth : Nat} {sp : List Char} (hsp : ∀ c ∈ sp, isSpace c = true)
    (hc : ∀ c ∈ cs.head?, isSpace c = false ∧ c ≠ '[' ∧ c ≠ '\x7b') :
    readValue depth (sp ++ cs) = readScalar cs := by
  have hskip : skipSpace (sp ++ cs) = cs := skipSpace_front hsp fun c h => (hc c h).1
  cases depth with
  | zero => simp only [readValue, hskip]
  | succ depth =>
    unfold readValue
    rw [hskip]
    split
    · next heq => exact absurd rfl (hc _ rfl).2.1
    · next heq => exact absurd rfl (hc _ rfl).2.2
    · rfl

/-- A value that is no container is read from a balanced text at any depth. -/
theorem text_of_readScalar {v : Json} (h : readScalar (skipSpace cs) = some (v, rest)) :
    ∃ text, cs = text ++ rest ∧ Balanced text ∧ text ≠ [] ∧
      ∀ depth, Takes (readValue depth) text v := by
  obtain ⟨sp, hcs, hsp, hhead⟩ := exists_skipSpace cs
  obtain ⟨text, hskip, hbalanced, hne, htakes⟩ := local_readScalar _ _ _ h
  rw [hskip] at hcs hhead
  obtain ⟨c, text, rfl⟩ := List.exists_cons_of_ne_nil hne
  have hspace : isSpace c = false := hhead c rfl
  have hbracket : c ≠ '[' ∧ c ≠ '\x7b' := by
    rw [hskip] at h
    constructor
    · rintro rfl
      cases h
    · rintro rfl
      cases h
  refine ⟨sp ++ c :: text, by rw [hcs, List.append_assoc],
    (balanced_of_isSpace hsp).append hbalanced, by simp, fun depth rest hrest => ?_⟩
  rw [List.append_assoc, readValue_scalar hsp, htakes rest hrest]
  intro c' hc'
  obtain rfl := Option.some.inj hc'
  exact ⟨hspace, hbracket⟩

/-- What is read is a container, whose bracket stands behind blanks, or no container. -/
theorem readValue_cases {depth : Nat} {v : Json} (h : readValue (depth + 1) cs = some (v, rest)) :
    (∃ opening closing sp after, (opening, closing) ∈ bracketPairs ∧ cs = sp ++ opening :: after ∧
        (∀ c ∈ sp, isSpace c = true) ∧
        readValue (depth + 1) (opening :: after) = some (v, rest)) ∨
      readScalar (skipSpace cs) = some (v, rest) := by
  obtain ⟨sp, hcs, hsp, -⟩ := exists_skipSpace cs
  unfold readValue at h
  split at h
  · next after hskip =>
    rw [hskip] at hcs
    exact .inl ⟨'[', ']', sp, after, .head _, hcs, hsp, h⟩
  · next after hskip =>
    rw [hskip] at hcs
    exact .inl ⟨'\x7b', '\x7d', sp, after, .tail _ (.head _), hcs, hsp, h⟩
  · exact .inr h

/-- A container is read up to the partner of its bracket, whatever follows. -/
theorem text_of_container {depth : Nat} {opening closing : Char} {v : Json}
    (hpair : (opening, closing) ∈ bracketPairs) (hvalue : Local (readValue depth))
    (h : readValue (depth + 1) (opening :: cs) = some (v, rest)) :
    ∃ body, cs = body ++ closing :: rest ∧ Balanced body ∧
      (∀ more, readValue (depth + 1) (opening :: (body ++ closing :: more)) = some (v, more)) ∧
      (opening = '[' ∧ v.isArray = true ∨ opening = '\x7b' ∧ v.isObject = true) := by
  rcases bracketPairs_cases hpair with ⟨rfl, rfl⟩ | ⟨rfl, rfl⟩
  · obtain ⟨⟨items, r⟩, hitems, heq⟩ := Option.map_eq_some_iff.1 h
    obtain ⟨rfl, rfl⟩ := Prod.mk.inj heq
    obtain ⟨body, rfl, hbody, hread⟩ := text_of_readSequence hvalue (.inl rfl) hitems
    refine ⟨body, rfl, hbody, fun more => ?_, .inl ⟨rfl, rfl⟩⟩
    rw [readValue_arr, hread more]
    rfl
  · obtain ⟨⟨members, r⟩, hmembers, heq⟩ := Option.map_eq_some_iff.1 h
    obtain ⟨rfl, rfl⟩ := Prod.mk.inj heq
    obtain ⟨body, rfl, hbody, hread⟩ :=
      text_of_readSequence (local_readMember hvalue) (.inr rfl) hmembers
    refine ⟨body, rfl, hbody, fun more => ?_, .inr ⟨rfl, rfl⟩⟩
    rw [readValue_obj, hread more]
    rfl

/-- A value is read from a balanced text, whatever follows. -/
theorem local_readValue (depth : Nat) : Local (readValue depth) := by
  induction depth with
  | zero =>
    intro cs v rest h
    obtain ⟨text, hcs, hbalanced, hne, htakes⟩ := text_of_readScalar h
    exact ⟨text, hcs, hbalanced, hne, htakes 0⟩
  | succ depth ih =>
    intro cs v rest h
    obtain ⟨opening, closing, sp, after, hpair, rfl, hsp, hcontainer⟩ | hscalar :=
      readValue_cases h
    · obtain ⟨body, rfl, hbody, hread, -⟩ := text_of_container hpair ih hcontainer
      refine ⟨sp ++ opening :: (body ++ [closing]), by simp, ?_, by simp, fun rest _ => ?_⟩
      · exact (balanced_of_isSpace hsp).append (.brackets hpair hbody .nil)
      · have hshape : sp ++ opening :: (body ++ [closing]) ++ rest =
            sp ++ opening :: (body ++ closing :: rest) := by simp
        rw [hshape, readValue_append_of_isSpace hsp, hread rest]
    · obtain ⟨text, hcs, hbalanced, hne, htakes⟩ := text_of_readScalar hscalar
      exact ⟨text, hcs, hbalanced, hne, htakes (depth + 1)⟩

/-! ## Whole texts -/

theorem ofChars?_eq_some_iff {v : Json} :
    ofChars? cs = some v ↔ ∃ sp, readValue maxDepth cs = some (v, sp) ∧
      ∀ c ∈ sp, isSpace c = true := by
  unfold ofChars?
  cases hread : readValue maxDepth cs with
  | none => simp
  | some r =>
    obtain ⟨w, sp⟩ := r
    have hempty : (skipSpace sp).isEmpty = true ↔ ∀ c ∈ sp, isSpace c = true := by
      rw [List.isEmpty_iff, skipSpace, List.dropWhile_eq_nil_iff]
    constructor
    · intro h
      dsimp only at h
      split_ifs at h with hsp
      obtain rfl := Option.some.inj h
      exact ⟨sp, rfl, hempty.1 hsp⟩
    · rintro ⟨sp', heq, hsp'⟩
      obtain ⟨rfl, rfl⟩ := Prod.mk.inj (Option.some.inj heq)
      exact if_pos (hempty.2 hsp')

/-- JSON text is balanced. -/
theorem balanced_of_ofChars? {v : Json} (h : ofChars? cs = some v) : Balanced cs := by
  obtain ⟨sp, hread, hsp⟩ := ofChars?_eq_some_iff.1 h
  obtain ⟨text, rfl, hbalanced, -, -⟩ := local_readValue _ _ _ _ hread
  exact hbalanced.append (balanced_of_isSpace hsp)

/-- JSON text that begins with a bracket is a container and ends with the partner of that bracket,
with nothing but blanks after it. -/
theorem container_of_ofChars? {opening closing : Char} {v : Json}
    (hpair : (opening, closing) ∈ bracketPairs) (h : ofChars? (opening :: cs) = some v) :
    ∃ body sp, cs = body ++ closing :: sp ∧ Balanced body ∧ (∀ c ∈ sp, isSpace c = true) ∧
      ofChars? (opening :: (body ++ [closing])) = some v ∧
      (opening = '[' ∧ v.isArray = true ∨ opening = '\x7b' ∧ v.isObject = true) := by
  obtain ⟨sp, hread, hsp⟩ := ofChars?_eq_some_iff.1 h
  obtain ⟨body, rfl, hbody, hall, hkind⟩ := text_of_container hpair (local_readValue _) hread
  exact ⟨body, sp, rfl, hbody, hsp,
    ofChars?_eq_some_iff.2 ⟨[], hall [], List.forall_mem_nil _⟩, hkind⟩

theorem kind_of_readScalar {v : Json} (h : readScalar cs = some (v, rest)) :
    v.isArray = false ∧ v.isObject = false := by
  unfold readScalar at h
  split at h
  · obtain ⟨rfl, -⟩ := Prod.mk.inj (Option.some.inj h)
    exact ⟨rfl, rfl⟩
  · obtain ⟨rfl, -⟩ := Prod.mk.inj (Option.some.inj h)
    exact ⟨rfl, rfl⟩
  · obtain ⟨rfl, -⟩ := Prod.mk.inj (Option.some.inj h)
    exact ⟨rfl, rfl⟩
  · obtain ⟨⟨s, r⟩, -, heq⟩ := Option.map_eq_some_iff.1 h
    obtain ⟨rfl, -⟩ := Prod.mk.inj heq
    exact ⟨rfl, rfl⟩
  · split at h
    · cases h
    · obtain ⟨n, -, heq⟩ := Option.map_eq_some_iff.1 h
      obtain ⟨rfl, -⟩ := Prod.mk.inj heq
      exact ⟨rfl, rfl⟩

/-- The JSON text of a container begins, blanks apart, with its bracket. -/
theorem opening_of_ofChars? {v : Json} (h : ofChars? cs = some v)
    (hkind : v.isArray = true ∨ v.isObject = true) :
    ∃ opening closing sp after, (opening, closing) ∈ bracketPairs ∧ cs = sp ++ opening :: after ∧
      (∀ c ∈ sp, isSpace c = true) ∧ ofChars? (opening :: after) = some v := by
  obtain ⟨left, hread, hend⟩ := ofChars?_eq_some_iff.1 h
  obtain ⟨opening, closing, sp, after, hpair, hcs, hsp, hcontainer⟩ | hscalar :=
    readValue_cases hread
  · exact ⟨opening, closing, sp, after, hpair, hcs, hsp,
      ofChars?_eq_some_iff.2 ⟨left, hcontainer, hend⟩⟩
  · obtain ⟨harray, hobject⟩ := kind_of_readScalar hscalar
    rw [harray, hobject] at hkind
    rcases hkind with hkind | hkind <;> cases hkind

/-- A text that is taken to its end is JSON. -/
theorem ofChars?_of_takes {v : Json} (h : Takes (readValue maxDepth) cs v) :
    ofChars? cs = some v := by
  have hread := h [] (by rintro c ⟨⟩)
  rw [List.append_nil] at hread
  exact ofChars?_eq_some_iff.2 ⟨[], hread, by simp⟩

end Guardrail.Json
