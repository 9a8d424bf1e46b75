import Guardrail.Json.Reader

/-!
# Texts in which quotes and brackets match

In JSON text every bracket outside of strings has its partner, and strings end where their closing
quote says. Line breaks stand only outside of strings and backticks only inside, so a place next to
one of them is known to be outside or inside without reading the text from the start.

Results:
* `Balanced.append`: balanced texts one after another are balanced.
* `walk?_of_balanced`: a walk through a balanced text ends outside of strings.
* `eq_outside_of_lineBreak`, `ne_outside_of_backtick`: where such a walk is at a line break and at a
  backtick.
-/

namespace Guardrail.Json

/-- The characters that outside of strings are not just part of a value or a blank. -/
def marks : List Char := ['"', '\\', '\x60', '[', ']', '\x7b', '\x7d']

/-- The brackets of containers. -/
def bracketPairs : List (Char × Char) := [('[', ']'), ('\x7b', '\x7d')]

/-- What stands between the quotes of a string: characters that need no escape, and escaped ones. Of
an escape by number the digits count as characters of their own. -/
inductive StringBody : List Char → Prop
  | nil : StringBody []
  | plain {c : Char} {s : List Char} (hquote : c ≠ '"') (hslash : c ≠ '\\')
      (hcontrol : 32 ≤ c.toNat) (hs : StringBody s) : StringBody (c :: s)
  | escaped {c : Char} {s : List Char} (hcontrol : 32 ≤ c.toNat) (hs : StringBody s) :
      StringBody ('\\' :: c :: s)

/-- A text in which quotes and brackets match. -/
inductive Balanced : List Char → Prop
  | nil : Balanced []
  | bare {c : Char} {t : List Char} (hc : c ∉ marks) (ht : Balanced t) : Balanced (c :: t)
  | string {s t : List Char} (hs : StringBody s) (ht : Balanced t) :
      Balanced ('"' :: (s ++ '"' :: t))
  | brackets {opening closing : Char} {s t : List Char}
      (hpair : (opening, closing) ∈ bracketPairs) (hs : Balanced s) (ht : Balanced t) :
      Balanced (opening :: (s ++ closing :: t))

variable {s t before after : List Char} {c : Char}

/-! ## Putting texts together -/

theorem Balanced.append (hs : Balanced s) (ht : Balanced t) : Balanced (s ++ t) := by
  induction hs with
  | nil => exact ht
  | bare hc _ ih => exact .bare hc ih
  | string hbody _ ih =>
    rw [List.cons_append, List.append_assoc, List.cons_append]
    exact .string hbody ih
  | brackets hpair hinside _ _ ih =>
    rw [List.cons_append, List.append_assoc, List.cons_append]
    exact .brackets hpair hinside ih

/-- A text without marks is balanced. -/
theorem balanced_of_forall (h : ∀ c ∈ t, c ∉ marks) : Balanced t := by
  induction t with
  | nil => exact .nil
  | cons c t ih =>
    obtain ⟨hc, ht⟩ := List.forall_mem_cons.1 h
    exact .bare hc (ih ht)

/-- A given text without marks is balanced. -/
theorem balanced_of_all (h : t.all (· ∉ marks) = true) : Balanced t :=
  balanced_of_forall fun c hc => of_decide_eq_true (List.all_eq_true.1 h c hc)

/-- A character with a property that no mark has is none. -/
theorem not_mem_marks {p : Char → Bool} (hmarks : marks.all (! p ·) = true) (hc : p c = true) :
    c ∉ marks := by
  intro hmem
  have hnot := List.all_eq_true.1 hmarks c hmem
  rw [hc] at hnot
  cases hnot

theorem balanced_of_isSpace (h : ∀ c ∈ t, isSpace c = true) : Balanced t :=
  balanced_of_forall fun c hc => not_mem_marks rfl (h c hc)

/-- There are two kinds of containers. -/
theorem bracketPairs_cases {opening closing : Char} (h : (opening, closing) ∈ bracketPairs) :
    opening = '[' ∧ closing = ']' ∨ opening = '\x7b' ∧ closing = '\x7d' := by
  simpa [bracketPairs] using h

/-! ## Places in a text -/

/-- Where a place in a text is. -/
inductive Place
  | outside
  /-- Inside a string. -/
  | inside
  /-- Inside a string, after a backslash. -/
  | escaped
deriving DecidableEq

/-- Where the next place is, if the character between may stand there. -/
def Place.next? : Place → Char → Option Place
  | outside, c => if c = '"' then some inside else if c = '\x60' then none else some outside
  | inside, c =>
    if c = '"' then some outside
    else if c = '\\' then some escaped
    else if c.toNat < 32 then none
    else some inside
  | escaped, c => if c.toNat < 32 then none else some inside

/-- Where a text leads to, if its characters may stand where they do. -/
def walk? : Place → List Char → Option Place
  | p, [] => some p
  | p, c :: cs => (p.next? c).bind (walk? · cs)

variable {p q : Place}

theorem walk?_append (p : Place) (s t : List Char) :
    walk? p (s ++ t) = (walk? p s).bind (walk? · t) := by
  induction s generalizing p with
  | nil => rfl
  | cons c s ih =>
    rw [List.cons_append, walk?, walk?]
    cases p.next? c with
    | none => rfl
    | some q => exact ih q

theorem walk?_of_stringBody (h : StringBody s) : walk? .inside s = some .inside := by
  induction h with
  | nil => rfl
  | plain hquote hslash hcontrol _ ih =>
    rw [walk?, Place.next?, if_neg hquote, if_neg hslash, if_neg (Nat.not_lt.2 hcontrol),
      Option.bind_some, ih]
  | escaped hcontrol _ ih =>
    have hslash : Place.next? .inside '\\' = some .escaped := rfl
    have hback : Place.next? .escaped _ = some .inside := if_neg (Nat.not_lt.2 hcontrol)
    rw [walk?, hslash, Option.bind_some, walk?, hback, Option.bind_some, ih]

theorem next?_outside_of_ne (hquote : c ≠ '"') (htick : c ≠ '\x60') :
    Place.next? .outside c = some .outside := by
  rw [Place.next?, if_neg hquote, if_neg htick]

/-- A walk through a balanced text ends outside of strings. -/
theorem walk?_of_balanced (h : Balanced t) : walk? .outside t = some .outside := by
  induction h with
  | nil => rfl
  | bare hc _ ih =>
    have hquote := List.ne_of_not_mem_cons hc
    have htick := List.ne_of_not_mem_cons
      (List.not_mem_of_not_mem_cons (List.not_mem_of_not_mem_cons hc))
    rw [walk?, next?_outside_of_ne hquote htick, Option.bind_some, ih]
  | string hbody _ ih =>
    have hopen : Place.next? .outside '"' = some .inside := rfl
    have hclose : Place.next? .inside '"' = some .outside := rfl
    rw [walk?, hopen, Option.bind_some, walk?_append, walk?_of_stringBody hbody, Option.bind_some,
      walk?, hclose, Option.bind_some, ih]
  | @brackets opening closing s t hpair _ _ ihs iht =>
    obtain ⟨hopen, hclose⟩ : Place.next? .outside opening = some .outside ∧
        Place.next? .outside closing = some .outside := by
      rcases bracketPairs_cases hpair with ⟨rfl, rfl⟩ | ⟨rfl, rfl⟩ <;> exact ⟨rfl, rfl⟩
    rw [walk?, hopen, Option.bind_some, walk?_append, ihs, Option.bind_some, walk?, hclose,
      Option.bind_some, iht]

/-- A walk that goes on after a text was somewhere there. -/
theorem walk?_append_eq_some (h : walk? p (before ++ c :: after) = some q) :
    ∃ here, walk? p before = some here ∧ (here.next? c).isSome := by
  rw [walk?_append] at h
  obtain ⟨here, hhere, hrest⟩ := Option.bind_eq_some_iff.1 h
  exact ⟨here, hhere, Option.isSome_of_isSome_bind (by rw [walk?] at hrest; rw [hrest]; rfl)⟩

/-- Only outside of strings there are line breaks. -/
theorem eq_outside_of_lineBreak (h : (p.next? '\n').isSome) : p = .outside := by
  cases p with
  | outside => rfl
  | inside => cases h
  | escaped => cases h

/-- Only inside of strings there are backticks. -/
theorem ne_outside_of_backtick (h : (p.next? '\x60').isSome) : p ≠ .outside := by
  rintro rfl
  cases h

end Guardrail.Json
