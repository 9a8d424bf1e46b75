import Guardrail.Path.Text
import Guardrail.Proofs.Json.Consumed
import Guardrail.Regex.CharClass

/-!
# Paths read back from their text

The text of a path is read back as the path, whatever characters its keys contain, with one
exception. A key that is not plain is written in quotes and brackets, and what stands in brackets
ends at the first closing one, inside of quotes too.

Results:
* `isAlphanumeric_of_isBlank`: letters and numbers are not blank, so a path has no blank end.
* `segments?_renderSegment`: a step is read back in front of any other steps.
* `parse_render`: a path is read back.
* `readable_of_parse`: a path that was read can be written and read again, if no key has a closing
  bracket.
* `parse_render_iff`: a path with a closing bracket in a key is not read back.
-/

namespace Guardrail

/-- Whether a step is read back from its text. Numbers must fit a width. -/
def Segment.Readable : Segment → Prop
  | .key k => ']' ∉ k.toList
  | .index i => i < Nat.pow 2 64
  | .wildcard => True

instance : DecidablePred Segment.Readable
  | .key k => inferInstanceAs (Decidable (']' ∉ k.toList))
  | .index i => inferInstanceAs (Decidable (i < Nat.pow 2 64))
  | .wildcard => inferInstanceAs (Decidable True)

/-- Whether a path is read back from its text. -/
def Path.Readable (p : Path) : Prop := ∀ s ∈ p, s.Readable

instance (p : Path) : Decidable p.Readable := inferInstanceAs (Decidable (∀ s ∈ p, s.Readable))

/-- Whether a step that is an index fits the width in which numbers are read. -/
def Segment.Fits : Segment → Prop
  | .index i => i < Nat.pow 2 64
  | _ => True

/-- Whether no key of a path has a closing bracket. -/
def Path.Bracketless (p : Path) : Prop := ∀ key, Segment.key key ∈ p → ']' ∉ key.toList

/-! ## Characters of plain keys -/

namespace Text

/-- Whether the ranges of a set are in order and meet none of another one. -/
def CharSet.apart (a b : CharSet) : Bool :=
  a.all fun r => Nat.ble r.1 r.2 && b.all fun s => Nat.blt r.2 s.1 || Nat.blt s.2 r.1

theorem CharSet.contains_eq_false_of_apart {a b : CharSet} (h : a.apart b = true) {c : Char}
    (hc : b.contains c = true) : a.contains c = false := by
  simp only [contains, has, List.any_eq_true, List.any_eq_false, Bool.and_eq_true,
    decide_eq_true_eq] at hc ⊢
  obtain ⟨s, hs, hsc⟩ := hc
  rintro r hr hrc
  have hrs := List.all_eq_true.1 ((Bool.and_eq_true _ _).mp (List.all_eq_true.1 h r hr)).2 s hs
  simp only [Nat.blt_eq, Bool.or_eq_true] at hrs
  omega

/-- The tables that the letters and numbers are put together from. -/
def alphanumericTables : List CharSet :=
  [uppercaseLetterSet, lowercaseLetterSet, titlecaseLetterSet, modifierLetterSet, otherLetterSet,
    letterNumberSet, otherAlphabeticSet, otherNumberSet, decimalSet]

theorem apart_blankSet : alphanumericTables.all (·.apart CharClass.blankSet) = true := by
  decide +kernel

/-- Outside of ASCII the letters and numbers are those of the tables. -/
theorem contains_alphanumericTables (c : Char) :
    (alphabeticSet.contains c || numericSet.contains c) =
      alphanumericTables.any (·.contains c) := by
  have hle : ∀ set ∈ alphanumericTables, ∀ r ∈ set, r.1 ≤ r.2 := by
    intro set hset r hr
    have hapart := List.all_eq_true.1 (List.all_eq_true.1 apart_blankSet set hset) r hr
    exact Nat.le_of_ble_eq_true ((Bool.and_eq_true _ _).mp hapart).1
  have hsub : ∀ {sets : List CharSet}, sets ⊆ alphanumericTables →
      ∀ set ∈ sets, ∀ r ∈ set, r.1 ≤ r.2 := fun hsets set hset => hle set (hsets hset)
  have hcased : (∀ r ∈ casedLetterSet, r.1 ≤ r.2) ∧ ∀ c, casedLetterSet.contains c = _ :=
    CharSet.contains_unions (hsub (by simp [alphanumericTables]))
  have hletter : (∀ r ∈ letterSet, r.1 ≤ r.2) ∧ ∀ c, letterSet.contains c = _ :=
    CharSet.contains_unions
      (List.forall_mem_cons.2 ⟨hcased.1, hsub (by simp [alphanumericTables])⟩)
  have halphabetic : (∀ r ∈ alphabeticSet, r.1 ≤ r.2) ∧ ∀ c, alphabeticSet.contains c = _ :=
    CharSet.contains_unions
      (List.forall_mem_cons.2 ⟨hletter.1, hsub (by simp [alphanumericTables])⟩)
  have hnumeric : (∀ r ∈ numericSet, r.1 ≤ r.2) ∧ ∀ c, numericSet.contains c = _ :=
    CharSet.contains_unions (hsub (by simp [alphanumericTables]))
  rw [halphabetic.2, hnumeric.2]
  simp only [hletter.2, hcased.2, alphanumericTables, List.any_cons, List.any_nil]
  grind

/-- Letters and numbers are not blank. -/
theorem isAlphanumeric_of_isBlank {c : Char} (h : isBlank c = true) : isAlphanumeric c = false := by
  unfold isAlphanumeric isAlphabetic isNumeric
  split
  · next hascii =>
    have hall : ∀ n < 128, isBlank (Char.ofNat n) = true →
        ((Char.ofNat n).isAlpha || (Char.ofNat n).isDigit) = false := by decide
    have hc := hall c.toNat hascii
    rw [Char.ofNat_toNat] at hc
    exact hc h
  · have hblank : CharClass.blankSet.contains c = true := by rwa [CharClass.contains_blankSet]
    rw [contains_alphanumericTables, List.any_eq_false]
    intro set hset
    rw [CharSet.contains_eq_false_of_apart (List.all_eq_true.1 apart_blankSet set hset) hblank]
    exact Bool.false_ne_true

/-- Only what stands in a text is left when it is trimmed. -/
theorem trimChars_subset (cs : List Char) : trimChars cs ⊆ cs := by
  intro c hc
  have hback := (List.dropWhile_suffix _).subset (List.mem_reverse.1 hc)
  exact (List.dropWhile_suffix _).subset (List.mem_reverse.1 hback)

theorem lt_of_nat? {bits n : Nat} {cs : List Char} (h : nat? bits cs = some n) :
    n < Nat.pow 2 bits := by
  obtain ⟨m, -, hm⟩ := Option.bind_eq_some_iff.1 h
  obtain ⟨hlt, rfl⟩ := Option.ite_some_none_eq_some.1 hm
  exact hlt

end Text

namespace Path

variable {c : Char} {s : Segment} {p : Path} {body key rest : List Char}

/-- A character of a plain key neither ends the key nor is blank. -/
theorem of_isPlainChar (h : isPlainChar c = true) : endsKey c = false ∧ Text.isBlank c = false := by
  constructor
  · cases hends : endsKey c with
    | false => rfl
    | true =>
      simp only [endsKey, Bool.or_eq_true, beq_iff_eq] at hends
      rcases hends with rfl | rfl <;> cases h
  · cases hblank : Text.isBlank c with
    | false => rfl
    | true =>
      simp only [isPlainChar, Text.isAlphanumeric_of_isBlank hblank, Bool.false_or,
        Bool.or_eq_true, beq_iff_eq] at h
      rcases h with rfl | rfl <;> cases hblank

/-! ## Steps -/

/-- The text of steps. -/
def renderSegments (p : Path) : List Char := p.flatMap fun s => (renderSegment s).toList

theorem toList_render (p : Path) : p.render.toList = '$' :: renderSegments p := by
  have hfold : ∀ text : String, (p.foldl (fun text s => text ++ renderSegment s) text).toList =
      text.toList ++ renderSegments p := by
    induction p with
    | nil => simp [renderSegments]
    | cons s p ih => simp [ih, renderSegments, List.append_assoc]
  exact hfold "$"

/-- A key after a point runs up to the next step. -/
theorem segments?_point (hkey : keySegment? key = .ok s) (hplain : ∀ c ∈ key, endsKey c = false)
    (hrest : ∀ c ∈ rest.head?, endsKey c = true) :
    segments? ('.' :: (key ++ rest)) = (segments? rest).map (s :: ·) := by
  obtain ⟨htake, hdrop⟩ : (key ++ rest).takeWhile (!endsKey ·) = key ∧
      (key ++ rest).dropWhile (!endsKey ·) = rest :=
    Json.takeWhile_front (by simpa using hplain) (by simpa using hrest)
  rw [segments?, htake, hdrop, hkey]
  cases segments? rest <;> rfl

theorem splitBracket?_eq_some (hbody : ']' ∉ body) :
    splitBracket? (body ++ ']' :: rest) = some (body, rest) := by
  induction body with
  | nil => rfl
  | cons c body ih =>
    obtain ⟨hc, hbody⟩ := not_or.1 (mt List.mem_cons.2 hbody)
    rw [List.cons_append, splitBracket?, if_neg (Ne.symm hc), ih hbody]
    rfl

/-- What stands in brackets runs up to the first closing one. -/
theorem segments?_bracket (hs : bracketSegment? body = .ok s) (hbody : ']' ∉ body) :
    segments? ('[' :: (body ++ ']' :: rest)) = (segments? rest).map (s :: ·) := by
  rw [segments?]
  split
  · next hnone =>
    rw [splitBracket?_eq_some hbody] at hnone
    cases hnone
  · next body' after hsplit =>
    rw [splitBracket?_eq_some hbody] at hsplit
    obtain ⟨rfl, rfl⟩ := Prod.mk.inj (Option.some.inj hsplit)
    rw [hs]
    cases segments? rest <;> rfl

/-! ### The forms of steps -/

theorem toList_renderSegment_plain {k : String} (h : isPlainKey k = true) :
    (renderSegment (.key k)).toList = '.' :: k.toList := by
  rw [renderSegment, if_pos h]
  simp

theorem toList_renderSegment_quoted {k : String} (h : ¬ isPlainKey k = true) :
    (renderSegment (.key k)).toList = '[' :: (('\'' :: (k.toList ++ ['\''])) ++ [']']) := by
  rw [renderSegment, if_neg h]
  simp

theorem toList_renderSegment_index (i : Nat) :
    (renderSegment (.index i)).toList = '[' :: (Nat.toDigits 10 i ++ [']']) := by
  rw [renderSegment, String.toList_append, String.toList_append]
  exact congrArg ('[' :: · ++ [']']) Nat.toList_repr

theorem keySegment?_of_isPlainKey {k : String} (h : isPlainKey k = true) :
    keySegment? k.toList = .ok (.key k) ∧ ∀ c ∈ k.toList, isPlainChar c = true := by
  simp only [isPlainKey, Bool.and_eq_true, Bool.not_eq_true', bne_iff_ne, List.all_eq_true] at h
  obtain ⟨⟨hempty, hstar⟩, hplain⟩ := h
  have hnil : k.toList ≠ [] := by simpa using hempty
  have hwildcard : k.toList ≠ ['*'] := fun heq =>
    hstar (by rw [← String.ofList_toList (s := k), heq])
  refine ⟨?_, hplain⟩
  rw [keySegment?, if_neg hnil, if_neg hwildcard, String.ofList_toList]

theorem bracketSegment?_quoted (k : String) :
    bracketSegment? ('\'' :: (k.toList ++ ['\''])) = .ok (.key k) := by
  have htrim : Text.trimChars ('\'' :: (k.toList ++ ['\''])) = '\'' :: (k.toList ++ ['\'']) := by
    refine Text.trimChars_eq_self (fun c hc => ?_) fun c hc => ?_
    · obtain rfl := Option.some.inj hc
      rfl
    · rw [← List.cons_append, List.getLast?_concat] at hc
      obtain rfl := Option.some.inj hc
      rfl
  have hnat : Text.nat? 64 ('\'' :: (k.toList ++ ['\''])) = none := rfl
  have hquoted : unquote? '\'' ('\'' :: (k.toList ++ ['\''])) = some k.toList := by
    simp [unquote?]
  unfold bracketSegment?
  rw [htrim, if_neg (by simp)]
  simp only [hnat, hquoted, Option.some_or, String.ofList_toList]

theorem nat?_toDigits {bits i : Nat} (hi : i < Nat.pow 2 bits) :
    Text.nat? bits (Nat.toDigits 10 i) = some i := by
  have hdigits : ∀ c ∈ Nat.toDigits 10 i, c.isDigit = true := fun _ =>
    Nat.isDigit_of_mem_toDigits (by decide) (by decide)
  have hvalue : Text.natOfDigits? (Nat.toDigits 10 i) = some i := by
    have hfold : (Nat.toDigits 10 i).foldl (fun n c => n * 10 + (c.toNat - '0'.toNat)) 0 = i := by
      simpa only [Nat.ofDigitChars_eq_foldl, Nat.mul_comm] using Nat.ofDigitChars_ten_toDigits
    rw [Text.natOfDigits?, hfold]
    simpa [Nat.toDigits_ne_nil] using hdigits
  unfold Text.nat?
  split
  · next rest hplus =>
    rw [hplus] at hdigits
    cases hdigits '+' List.mem_cons_self
  · dsimp only
    rw [hvalue, Option.bind_some]
    exact if_pos hi

theorem bracketSegment?_index {i : Nat} (hi : i < Nat.pow 2 64) :
    bracketSegment? (Nat.toDigits 10 i) = .ok (.index i) := by
  have hdigits : ∀ c ∈ Nat.toDigits 10 i, c.isDigit = true := fun _ =>
    Nat.isDigit_of_mem_toDigits (by decide) (by decide)
  have hblank : ∀ c ∈ Nat.toDigits 10 i, Text.isBlank c = false := by
    intro c hc
    have hdigit := hdigits c hc
    simp only [Char.isDigit, Bool.and_eq_true, decide_eq_true_eq, ge_iff_le,
      UInt32.le_iff_toNat_le] at hdigit
    have hpoint : 48 ≤ c.toNat ∧ c.toNat ≤ 57 := hdigit
    simp [Text.isBlank]
    omega
  have htrim : Text.trimChars (Nat.toDigits 10 i) = Nat.toDigits 10 i :=
    Text.trimChars_eq_self (fun c hc => hblank c (List.mem_of_mem_head? hc))
      fun c hc => hblank c (List.mem_of_mem_getLast? hc)
  have hstar : Nat.toDigits 10 i ≠ ['*'] := by
    intro heq
    rw [heq] at hdigits
    cases hdigits '*' List.mem_cons_self
  unfold bracketSegment?
  rw [htrim, if_neg hstar]
  simp only [nat?_toDigits hi]

/-- A step is read back in front of any others. -/
theorem segments?_renderSegment (hs : s.Readable) (hrest : ∀ c ∈ rest.head?, endsKey c = true) :
    segments? ((renderSegment s).toList ++ rest) = (segments? rest).map (s :: ·) := by
  cases s with
  | key k =>
    by_cases hplain : isPlainKey k = true
    · obtain ⟨hkey, hchars⟩ := keySegment?_of_isPlainKey hplain
      rw [toList_renderSegment_plain hplain]
      exact segments?_point hkey (fun c hc => (of_isPlainChar (hchars c hc)).1) hrest
    · have hbody : ']' ∉ '\'' :: (k.toList ++ ['\'']) := by
        have hk : ']' ∉ k.toList := hs
        simp [hk]
      rw [toList_renderSegment_quoted hplain, List.cons_append, List.append_assoc,
        List.singleton_append]
      exact segments?_bracket (bracketSegment?_quoted k) hbody
  | index i =>
    have hbody : ']' ∉ Nat.toDigits 10 i := by
      intro hmem
      cases Nat.isDigit_of_mem_toDigits (by decide) (by decide) hmem
    rw [toList_renderSegment_index, List.cons_append, List.append_assoc, List.singleton_append]
    exact segments?_bracket (bracketSegment?_index hs) hbody
  | wildcard =>
    have hbody : ']' ∉ ['*'] := by decide
    exact segments?_bracket rfl hbody

/-! ## Paths -/

/-- Every step begins with a point or a bracket and ends in a character that is not blank. -/
theorem ends_renderSegment (s : Segment) :
    ∃ first last : Char, (renderSegment s).toList.head? = some first ∧ endsKey first = true ∧
      (renderSegment s).toList.getLast? = some last ∧ Text.isBlank last = false := by
  cases s with
  | key k =>
    by_cases hplain : isPlainKey k = true
    · obtain ⟨-, hchars⟩ := keySegment?_of_isPlainKey hplain
      rw [toList_renderSegment_plain hplain]
      cases hlast : k.toList.getLast? with
      | none => exact ⟨'.', '.', rfl, rfl, by simp [List.getLast?_cons, hlast], rfl⟩
      | some last =>
        exact ⟨'.', last, rfl, rfl, by simp [List.getLast?_cons, hlast],
          (of_isPlainChar (hchars last (List.mem_of_mem_getLast? hlast))).2⟩
    · rw [toList_renderSegment_quoted hplain]
      exact ⟨'[', ']', rfl, rfl, List.getLast?_concat (l := '[' :: _), rfl⟩
  | index i =>
    rw [toList_renderSegment_index]
    exact ⟨'[', ']', rfl, rfl, List.getLast?_concat (l := '[' :: _), rfl⟩
  | wildcard => exact ⟨'[', ']', rfl, rfl, rfl, rfl⟩

theorem ends_renderSegments (p : Path) :
    (∀ c ∈ (renderSegments p).head?, endsKey c = true) ∧
      ∀ c ∈ (renderSegments p).getLast?, Text.isBlank c = false := by
  induction p with
  | nil => exact ⟨by rintro c ⟨⟩, by rintro c ⟨⟩⟩
  | cons s p ih =>
    obtain ⟨first, last, hhead, hfirst, hgetLast, hlast⟩ := ends_renderSegment s
    have hsplit : renderSegments (s :: p) = (renderSegment s).toList ++ renderSegments p := rfl
    constructor
    · intro c hc
      rw [hsplit, List.head?_append, hhead] at hc
      obtain rfl := Option.some.inj hc
      exact hfirst
    · intro c hc
      rw [hsplit, List.getLast?_append, hgetLast] at hc
      cases hrest : (renderSegments p).getLast? with
      | none =>
        rw [hrest] at hc
        obtain rfl := Option.some.inj hc
        exact hlast
      | some d =>
        rw [hrest] at hc
        exact ih.2 c (hrest.trans hc)

theorem segments?_renderSegments (hp : p.Readable) : segments? (renderSegments p) = .ok p := by
  induction p with
  | nil => rw [renderSegments, List.flatMap_nil, segments?]
  | cons s p ih =>
    obtain ⟨hs, hp⟩ := List.forall_mem_cons.1 hp
    have hread := segments?_renderSegment hs (ends_renderSegments p).1
    rw [ih hp] at hread
    exact hread

/-- What comes behind the dollar sign of a text is read as steps, if it looks like one. -/
theorem ofChars?_cons {first : Char} (hfirst : endsKey first = true)
    (htrim : Text.trimChars ('$' :: first :: rest) = '$' :: first :: rest) :
    ofChars? ('$' :: first :: rest) = segments? (first :: rest) := by
  unfold ofChars?
  rw [htrim, if_neg (by simp)]
  simp only [endsKey, Bool.or_eq_true, beq_iff_eq] at hfirst
  rcases hfirst with rfl | rfl <;> rfl

/-- The text of a path is read step by step. -/
theorem parse_render_eq (p : Path) :
    parse p.render = (segments? (renderSegments p)).mapError fun fault =>
      .invalidPath p.render fault.message := by
  have htrim : Text.trimChars ('$' :: renderSegments p) = '$' :: renderSegments p := by
    refine Text.trimChars_eq_self (fun c hc => ?_) fun c hc => ?_
    · obtain rfl := Option.some.inj hc
      rfl
    · rw [List.getLast?_cons] at hc
      cases hlast : (renderSegments p).getLast? with
      | none =>
        rw [hlast] at hc
        obtain rfl := Option.some.inj hc
        rfl
      | some d =>
        rw [hlast] at hc
        exact (ends_renderSegments p).2 c (hlast.trans hc)
  have hchars : ofChars? ('$' :: renderSegments p) = segments? (renderSegments p) := by
    cases hsteps : renderSegments p with
    | nil =>
      rw [segments?]
      rfl
    | cons first more =>
      have hfirst : endsKey first = true := (ends_renderSegments p).1 first (by rw [hsteps]; rfl)
      rw [hsteps] at htrim
      exact ofChars?_cons hfirst htrim
  rw [parse, toList_render, hchars]
  cases segments? (renderSegments p) <;> rfl

/-- A path is read back, whatever characters its keys contain apart from the closing bracket. -/
theorem parse_render (hp : p.Readable) : parse p.render = .ok p := by
  rw [parse_render_eq, segments?_renderSegments hp]
  rfl

/-! ## Paths that were read -/

theorem fits_of_keySegment? (h : keySegment? key = .ok s) : s.Fits := by
  rw [keySegment?] at h
  split at h
  · cases h
  · split at h <;> cases h <;> trivial

theorem fits_of_bracketSegment? (h : bracketSegment? body = .ok s) : s.Fits := by
  unfold bracketSegment? at h
  dsimp only at h
  split at h
  · cases h
    trivial
  · split at h
    · next hread =>
      cases h
      exact Text.lt_of_nat? hread
    · split at h <;> cases h
      trivial

/-- Every step comes from a key after a point or from what stands in brackets. -/
theorem fits_of_segments? {cs : List Char} (h : segments? cs = .ok p) : ∀ s ∈ p, s.Fits := by
  induction cs using segments?.induct generalizing p with
  | case1 =>
    rw [segments?] at h
    cases h
    simp
  | case2 rest ih =>
    rw [segments?] at h
    obtain ⟨s, hs, h⟩ := bind_eq_ok h
    obtain ⟨q, hq, h⟩ := bind_eq_ok h
    cases h
    exact List.forall_mem_cons.2 ⟨fits_of_keySegment? hs, ih hq⟩
  | case3 rest hnone =>
    rw [segments?] at h
    split at h
    · cases h
    · next hsome =>
      rw [hnone] at hsome
      cases hsome
  | case4 rest body after hsome ih =>
    rw [segments?] at h
    split at h
    · cases h
    · next hsome' =>
      rw [hsome] at hsome'
      cases hsome'
      obtain ⟨s, hs, h⟩ := bind_eq_ok h
      obtain ⟨q, hq, h⟩ := bind_eq_ok h
      cases h
      exact List.forall_mem_cons.2 ⟨fits_of_bracketSegment? hs, ih hq⟩
  | case5 c rest hpoint hbracket =>
    rw [segments?] at h
    · cases h
    · exact hpoint
    · exact hbracket

theorem fits_of_parse {text : String} (h : parse text = .ok p) : ∀ s ∈ p, s.Fits := by
  rw [parse] at h
  split at h
  · next hread =>
    cases h
    unfold ofChars? at hread
    dsimp only at hread
    split at hread
    · cases hread
      simp [root]
    · split at hread <;> exact fits_of_segments? hread
  · cases h

theorem readable_iff : p.Readable ↔ p.Bracketless ∧ ∀ s ∈ p, s.Fits := by
  constructor
  · intro hp
    refine ⟨fun k hk => hp _ hk, fun s hs => ?_⟩
    cases s with
    | index i => exact hp _ hs
    | key k => trivial
    | wildcard => trivial
  · rintro ⟨hkeys, hfits⟩ s hs
    cases s with
    | key k => exact hkeys k hs
    | index i => exact hfits _ hs
    | wildcard => trivial

/-- A path that was read is read back from its text, if no key has a closing bracket. -/
theorem readable_of_parse {text : String} (h : parse text = .ok p) (hp : p.Bracketless) :
    p.Readable :=
  readable_iff.2 ⟨hp, fits_of_parse h⟩

/-! ## Keys with a closing bracket

What is read from brackets stood between them, and no closing bracket stands there. So a key with a
closing bracket in it may be read as another key, or not at all, but never as itself. -/

theorem not_mem_of_splitBracket? {cs after : List Char}
    (h : splitBracket? cs = some (body, after)) : ']' ∉ body := by
  induction cs generalizing body with
  | nil => cases h
  | cons c cs ih =>
    rw [splitBracket?] at h
    by_cases hc : c = ']'
    · rw [if_pos hc] at h
      cases h
      simp
    · rw [if_neg hc] at h
      obtain ⟨⟨inside, rest⟩, hrest, heq⟩ := Option.map_eq_some_iff.1 h
      cases heq
      simp only [List.mem_cons, not_or]
      exact ⟨Ne.symm hc, ih hrest⟩

theorem subset_of_unquote? {quote : Char} (h : unquote? quote body = some key) : key ⊆ body := by
  cases body with
  | nil => cases h
  | cons c rest =>
    obtain ⟨-, rfl⟩ := Option.ite_some_none_eq_some.1 h
    exact fun d hd => List.mem_cons_of_mem _ (List.dropLast_subset _ hd)

/-- A key that is read from brackets is part of what stands there. -/
theorem subset_of_bracketSegment? {k : String} (h : bracketSegment? body = .ok (.key k)) :
    k.toList ⊆ body := by
  unfold bracketSegment? at h
  dsimp only at h
  split at h
  · cases h
  · split at h
    · cases h
    · split at h
      · next inside hinside =>
        cases h
        rw [String.toList_ofList]
        have hsub : inside ⊆ Text.trimChars body := by
          rcases Option.or_eq_some_iff.1 hinside with hquoted | ⟨-, hquoted⟩
          · exact subset_of_unquote? hquoted
          · exact subset_of_unquote? hquoted
        exact fun c hc => Text.trimChars_subset body (hsub hc)
      · cases h

/-- The first step that is read from the text of a key with a closing bracket is not the key. -/
theorem segments?_renderSegment_ne {k : String} (hk : ']' ∈ k.toList) :
    segments? ((renderSegment (.key k)).toList ++ rest) ≠ .ok (.key k :: p) := by
  have hplain : ¬ isPlainKey k = true := by
    intro hplain
    have hbracket := (keySegment?_of_isPlainKey hplain).2 _ hk
    cases hbracket
  rw [toList_renderSegment_quoted hplain, List.cons_append, segments?]
  intro h
  split at h
  · cases h
  · next body after hsplit =>
    obtain ⟨s, hs, h⟩ := bind_eq_ok h
    obtain ⟨q, -, h⟩ := bind_eq_ok h
    cases h
    exact not_mem_of_splitBracket? hsplit (subset_of_bracketSegment? hs hk)

/-- Only steps that are read back one by one are read back together. -/
theorem readable_of_segments? (h : segments? (renderSegments p) = .ok p) : p.Readable := by
  induction p with
  | nil => exact fun s hs => absurd hs List.not_mem_nil
  | cons s p ih =>
    have hs : s.Readable := by
      cases s with
      | key k => exact fun hk => segments?_renderSegment_ne hk h
      | index i => exact fits_of_segments? h _ List.mem_cons_self
      | wildcard => trivial
    have hread : segments? (renderSegments (s :: p)) = _ :=
      segments?_renderSegment hs (ends_renderSegments p).1
    rw [h] at hread
    obtain ⟨q, hq, heq⟩ := map_eq_ok hread.symm
    cases heq
    exact List.forall_mem_cons.2 ⟨hs, ih hq⟩

/-- The text of a path is read as this path exactly if no key has a closing bracket. Indexes fit the
width in which numbers are read. -/
theorem parse_render_iff (hp : ∀ s ∈ p, s.Fits) : parse p.render = .ok p ↔ p.Bracketless := by
  constructor
  · intro h
    rw [parse_render_eq] at h
    cases hread : segments? (renderSegments p) with
    | error fault =>
      rw [hread] at h
      cases h
    | ok q =>
      rw [hread] at h
      cases h
      exact (readable_iff.1 (readable_of_segments? hread)).1
  · exact fun hkeys => parse_render (readable_iff.2 ⟨hkeys, hp⟩)

/-- Keys that look like something else are read back, and one that closes its own brackets is
not. -/
theorem parse_render_iff_of_odd_keys :
    let odd : Path := [.key "", .key "*", .key "output", .key "$", .key "12", .key "a.b",
      .key "it's", .key "\"", .key "[", .key " x ", .key "größe", .index 7, .wildcard]
    let closing : Path := [.key "a']['b"]
    (∀ s ∈ odd, s.Fits) ∧ parse odd.render = .ok odd ∧
      (∀ s ∈ closing, s.Fits) ∧ closing.render = "$['a']['b']" ∧
      parse closing.render ≠ .ok closing := by
  intro odd closing
  obtain ⟨hkeys, hfits⟩ : odd.Bracketless ∧ ∀ s ∈ odd, s.Fits := readable_iff.1 (by decide)
  have hclosing : ∀ s ∈ closing, s.Fits := by
    intro s hs
    obtain rfl := List.mem_singleton.1 hs
    trivial
  refine ⟨hfits, (parse_render_iff hfits).2 hkeys, hclosing, by decide, fun h => ?_⟩
  exact (parse_render_iff hclosing).1 h "a']['b" List.mem_cons_self (by decide)

end Path
end Guardrail
