import Guardrail.Json.Writer
import Guardrail.Proofs.Dict.Insert
import Guardrail.Proofs.Json.Consumed

/-!
# Reading back what was written

A value is read back from its compact and from its pretty text, whatever its strings hold: what the
writer escapes is what the reader could not take as it stands. Both forms of a container are its
items with commas between them, and they differ only in the blanks around the items.

Numbers are left to a condition: binary64 numbers that are written and read again need not be the
same, integers of 64 bits are (`readsBack_int`).

Results:
* `readChars_flatMap_escapeChar`: a string is read back.
* `readSequence_intercalate`: so are the items of a container, if each of them is.
* `takes_compact`, `takes_prettyAt`: so is a value.
-/

namespace Guardrail

open Json

/-- The number is read back from its numeral. -/
def Number.ReadsBack (n : Number) : Prop :=
  readScalar (numeral n).toList = some (.num n, [])

namespace Json

/-- The value has at most so many containers inside one another, its objects are in key order, and
its numbers are read back. -/
def ReadableTo : Nat → Json → Prop
  | _, .num n => n.ReadsBack
  | 0, .arr _ => False
  | 0, .obj _ => False
  | depth + 1, .arr items => ∀ x ∈ items, x.ReadableTo depth
  | depth + 1, .obj members => Dict.Sorted members ∧ ∀ e ∈ members, e.2.ReadableTo depth
  | _, _ => True

variable {α : Type} {cs sp text more : List Char} {c close : Char} {depth : Nat} {v : Json}

/-! ## Strings -/

theorem hexValue?_hexDigit {n : Nat} (h : n < 16) : hexValue? (hexDigit n) = some n := by
  have hall : ∀ n < 16, hexValue? (hexDigit n) = some n := by decide
  exact hall n h

/-- A character is read back from its escape by number. -/
theorem readChars_numberEscape (h : c.toNat < 32) :
    readChars .plain
        ('\\' :: 'u' :: '0' :: '0' :: hexDigit (c.toNat / 16) :: hexDigit (c.toNat % 16) :: cs) =
      (readChars .plain cs).map fun (s, r) => (c :: s, r) := by
  have hzero : hexValue? '0' = some 0 := rfl
  have hhigh := hexValue?_hexDigit (n := c.toNat / 16) (by omega)
  have hlow := hexValue?_hexDigit (n := c.toNat % 16) (by omega)
  have hsum : c.toNat / 16 * 16 + c.toNat % 16 = c.toNat := by omega
  have hmeaning : unitMeaning? none c.toNat = some (.inl c) := by
    rw [unitMeaning?, if_neg (by omega), if_neg (by omega), Char.ofNat_toNat]
  simp [readChars, hzero, hhigh, hlow, hsum, hmeaning]

/-- A character is read back. -/
theorem readChars_escapeChar (c : Char) (cs : List Char) :
    readChars .plain (escapeChar c ++ cs) =
      (readChars .plain cs).map fun (s, r) => (c :: s, r) := by
  unfold escapeChar
  split_ifs with hquote hslash hback hform hline hreturn htab hcontrol
  all_goals first | subst c; rfl | skip
  · exact readChars_numberEscape hcontrol
  · simp [readChars, hquote, hslash, hcontrol]

/-- A string is read back. -/
theorem readChars_flatMap_escapeChar (s more : List Char) :
    readChars .plain (s.flatMap escapeChar ++ '"' :: more) = some (s, more) := by
  induction s with
  | nil => rfl
  | cons c s ih =>
    rw [List.flatMap_cons, List.append_assoc, readChars_escapeChar, ih]
    rfl

theorem toList_quote (s : String) :
    (quote s).toList = '"' :: (s.toList.flatMap escapeChar ++ ['"']) := by
  rw [quote, String.toList_ofList]

theorem readString_quote (s : String) (more : List Char) :
    readString (s.toList.flatMap escapeChar ++ '"' :: more) = some (s, more) := by
  rw [readString, readChars_flatMap_escapeChar]
  exact congrArg (fun s => some (s, more)) String.ofList_toList

/-! ## Scalars -/

/-- What is read as a value that is no container does not begin with a blank. -/
theorem skipSpace_of_readScalar {rest : List Char} (h : readScalar cs = some (v, rest)) :
    skipSpace cs = cs := by
  cases cs with
  | nil => rfl
  | cons c cs =>
    have hc : ¬ isSpace c = true := by
      intro hspace
      simp only [isSpace, Bool.or_eq_true, beq_iff_eq] at hspace
      rcases hspace with ((rfl | rfl) | rfl) | rfl <;> cases h
    exact List.dropWhile_cons_of_neg hc

/-- A value that is no container is read back as one of any depth. -/
theorem takes_of_readScalar (h : readScalar text = some (v, [])) :
    Takes (readValue depth) text v := by
  have hskip : readScalar (skipSpace text) = some (v, []) := by rwa [skipSpace_of_readScalar h]
  obtain ⟨text', htext, -, -, htakes⟩ := text_of_readScalar hskip
  rw [List.append_nil] at htext
  rw [htext]
  exact htakes depth

theorem takes_quote (s : String) : Takes (readValue depth) (quote s).toList (.str s) := by
  refine takes_of_readScalar ?_
  rw [toList_quote, readScalar, readString_quote]
  rfl

/-! ## Integers -/

theorem natOfDigits_map_digitValue (cs : List Char) :
    natOfDigits (cs.map digitValue) = Nat.ofDigitChars 10 cs 0 := by
  rw [natOfDigits, List.foldl_map, Nat.ofDigitChars_eq_foldl]
  congr 1
  funext n c
  rw [Nat.mul_comm]
  rfl

/-- The first digit of a number of more than one digit is no zero. -/
theorem head_toDigits {m : Nat} (hm : 0 < m) :
    ∀ c ∈ (Nat.toDigits 10 m).head?, digitValue c ≠ 0 := by
  induction m using Nat.strong_induction_on with
  | _ m ih =>
    by_cases hlt : m < 10
    · rw [Nat.toDigits_of_lt_base hlt]
      intro c hc
      obtain rfl := Option.some.inj hc
      have hvalue : digitValue m.digitChar = m := Nat.toNat_digitChar_sub_48_of_lt_ten hlt
      rw [hvalue]
      exact Nat.pos_iff_ne_zero.1 hm
    · have hfront := ih (m / 10) (by omega) (by omega)
      obtain ⟨d, ds, hds⟩ :=
        List.exists_cons_of_ne_nil (Nat.toDigits_ne_nil (n := m / 10) (b := 10))
      rw [Nat.toDigits_of_base_le (by decide) (Nat.not_lt.1 hlt), hds]
      rw [hds] at hfront
      exact hfront

/-- The digits of a number make a numeral. -/
theorem numeralText_toDigits {sign : List Char} {negative : Bool}
    (hsign : (sign, negative) ∈ [([], false), (['-'], true)]) (m : Nat) :
    NumeralText (sign ++ Nat.toDigits 10 m)
      ⟨negative, (Nat.toDigits 10 m).map digitValue, none, none⟩ := by
  have hdigits : ∀ c ∈ Nat.toDigits 10 m, c.isDigit = true :=
    fun c hc => Nat.isDigit_of_mem_toDigits (by decide) (by decide) hc
  have hzero : ∀ d more, (Nat.toDigits 10 m).map digitValue ≠ 0 :: d :: more := by
    intro d more heq
    cases m with
    | zero => cases heq
    | succ m =>
      obtain ⟨c, cs, hcs, hc, -⟩ := List.map_eq_cons_iff.1 heq
      exact head_toDigits (Nat.succ_pos m) c (by rw [hcs]; rfl) hc
  have htext := NumeralText.parts hsign Nat.toDigits_ne_nil hdigits hzero .none .none
  rwa [List.append_nil, List.append_nil] at htext

/-- The digits of a number have that number as their value, if it fits 64 bits. -/
theorem value?_toDigits {m : Nat} (h : m ≤ maxUnsigned) :
    Numeral.value? ⟨false, (Nat.toDigits 10 m).map digitValue, none, none⟩ = some (.int m) := by
  simp [Numeral.value?, natOfDigits_map_digitValue, Nat.ofDigitChars_ten_toDigits, h]

theorem value?_neg_toDigits {m : Nat} (hpos : m ≠ 0) (h : m ≤ Nat.pow 2 63) :
    Numeral.value? ⟨true, (Nat.toDigits 10 m).map digitValue, none, none⟩ =
      some (.int (-(m : Int))) := by
  simp [Numeral.value?, natOfDigits_map_digitValue, Nat.ofDigitChars_ten_toDigits, hpos, h]

/-- Integers of 64 bits, signed or not, are read back. -/
theorem readsBack_int {n : Int} (hlow : -↑(Nat.pow 2 63) ≤ n) (hhigh : n ≤ ↑maxUnsigned) :
    (Number.int n).ReadsBack := by
  have hread : ∀ {sign : List Char} {negative : Bool} {m : Nat} {x : Number},
      (sign, negative) ∈ [([], false), (['-'], true)] →
      Numeral.value? ⟨negative, (Nat.toDigits 10 m).map digitValue, none, none⟩ = some x →
      readScalar (sign ++ Nat.toDigits 10 m) = some (.num x, []) := by
    intro sign negative m x hsign hx
    have htakes := readScalar_of_numeralText (numeralText_toDigits hsign m) hx [] (by rintro c ⟨⟩)
    rwa [List.append_nil] at htakes
  cases n with
  | ofNat m =>
    have hnumeral : (numeral (.int (.ofNat m))).toList = [] ++ Nat.toDigits 10 m := Nat.toList_repr
    rw [Number.ReadsBack, hnumeral]
    exact hread (.head _) (value?_toDigits (Int.ofNat_le.1 hhigh))
  | negSucc m =>
    have hnumeral : (numeral (.int (.negSucc m))).toList = ['-'] ++ Nat.toDigits 10 (m + 1) := by
      have hrepr : numeral (.int (.negSucc m)) = "-" ++ Nat.repr (m + 1) := rfl
      rw [hrepr, String.toList_append, Nat.toList_repr]
      rfl
    have hm : m + 1 ≤ Nat.pow 2 63 := Int.ofNat_le.1 (Int.neg_le_neg_iff.1 hlow)
    rw [Number.ReadsBack, hnumeral]
    exact hread (.tail _ (.head _)) (value?_neg_toDigits (Nat.succ_ne_zero m) hm)

/-! ## Sequences -/

/-- The reader takes nothing off a text that begins, blanks apart, with a character. -/
def Rejects (r : Reader α) (c : Char) : Prop :=
  ∀ sp more, (∀ s ∈ sp, isSpace s = true) → r (sp ++ c :: more) = none

/-- What a reader takes begins, blanks apart, with a character that it does not reject. -/
theorem exists_head_of_takes {r : Reader α} {x : α} (hclose : IsClosing close)
    (hreject : Rejects r close) (h : Takes r text x) :
    ∃ sp c more, text = sp ++ c :: more ∧ (∀ s ∈ sp, isSpace s = true) ∧ isSpace c = false ∧
      c ≠ close := by
  obtain ⟨sp, rest, rfl, hsp, hrest⟩ := exists_front isSpace text
  cases rest with
  | nil =>
    have hread := h [close] (stops_cons hclose.stops)
    rw [List.append_nil, hreject sp [] hsp] at hread
    cases hread
  | cons c rest =>
    refine ⟨sp, c, rest, rfl, hsp, hrest c rfl, ?_⟩
    rintro rfl
    have hread := h [] (by rintro c ⟨⟩)
    rw [List.append_assoc, List.cons_append, hreject sp _ hsp] at hread
    cases hread

section Sequences

variable {item : Reader α} {f : α → List Char} {xs : List α}

theorem intercalate_map_cons_cons (x y : α) (ys : List α) :
    List.intercalate [','] ((x :: y :: ys).map f) =
      f x ++ ',' :: List.intercalate [','] ((y :: ys).map f) := by
  simp

/-- One or more items with commas between them are read back, if each of them is. -/
theorem readItems_intercalate (hclose : IsClosing close) (hsp : ∀ s ∈ sp, isSpace s = true)
    (hf : ∀ x ∈ xs, Takes item (f x) x) (hne : xs ≠ []) {fuel : Nat} (hfuel : xs.length ≤ fuel)
    (more : List Char) :
    readItems item close fuel (List.intercalate [','] (xs.map f) ++ (sp ++ close :: more)) =
      some (xs, more) := by
  induction xs generalizing fuel with
  | nil => exact absurd rfl hne
  | cons x xs ih =>
    obtain ⟨fuel, rfl⟩ := Nat.exists_eq_add_of_le' (Nat.le_trans (Nat.le_add_left 1 _) hfuel)
    obtain ⟨hx, hxs⟩ := List.forall_mem_cons.1 hf
    cases xs with
    | nil =>
      rw [List.map_singleton, List.intercalate_singleton]
      exact readItems_last hx hsp hclose
    | cons y ys =>
      have hrest := ih hxs (List.cons_ne_nil y ys) (Nat.le_of_succ_le_succ hfuel)
      rw [intercalate_map_cons_cons, List.append_assoc, List.cons_append]
      refine (readItems_cons hx (List.forall_mem_nil _)).trans ?_
      rw [hrest]
      rfl

/-- What stands between the items of a container and around them takes no less room than their
number. -/
theorem length_le_intercalate (hne : ∀ x ∈ xs, f x ≠ []) :
    xs.length ≤ (List.intercalate [','] (xs.map f)).length := by
  induction xs with
  | nil => exact Nat.le_refl _
  | cons x xs ih =>
    obtain ⟨hx, hxs⟩ := List.forall_mem_cons.1 hne
    have hpos : 0 < (f x).length := List.length_pos_iff.2 hx
    cases xs with
    | nil =>
      rw [List.map_singleton, List.intercalate_singleton]
      exact hpos
    | cons y ys =>
      have hrest := ih hxs
      rw [intercalate_map_cons_cons]
      simp only [List.length_append, List.length_cons] at hrest ⊢
      omega

/-- The items of a container are read back, if each of them is. -/
theorem readSequence_intercalate (hclose : IsClosing close) (hreject : Rejects item close)
    (hsp : ∀ s ∈ sp, isSpace s = true) (hf : ∀ x ∈ xs, Takes item (f x) x) (more : List Char) :
    readSequence item close (List.intercalate [','] (xs.map f) ++ (sp ++ close :: more)) =
      some (xs, more) := by
  cases xs with
  | nil => exact readSequence_nil hsp hclose
  | cons x xs =>
    have hne : ∀ y ∈ x :: xs, f y ≠ [] := by
      intro y hy
      obtain ⟨sp, c, rest, htext, -⟩ := exists_head_of_takes hclose hreject (hf y hy)
      rw [htext]
      simp
    obtain ⟨sp', c, rest, hx, hsp', hspace, hc⟩ :=
      exists_head_of_takes hclose hreject (hf x List.mem_cons_self)
    obtain ⟨front, hfront⟩ : ∃ front, List.intercalate [','] ((x :: xs).map f) =
        sp' ++ c :: front := by
      cases xs with
      | nil => exact ⟨rest, by simpa using hx⟩
      | cons y ys =>
        rw [intercalate_map_cons_cons, hx, List.append_assoc]
        exact ⟨_, rfl⟩
    have hfuel : (x :: xs).length ≤
        (List.intercalate [','] ((x :: xs).map f) ++ (sp ++ close :: more)).length := by
      rw [List.length_append]
      exact Nat.le_trans (length_le_intercalate hne) (Nat.le_add_right _ _)
    have hread := readItems_intercalate hclose hsp hf (List.cons_ne_nil x xs) hfuel more
    rw [hfront, List.append_assoc, List.cons_append] at hread ⊢
    rw [readSequence_eq hsp' hspace hc]
    exact hread

end Sequences

/-! ## Containers -/

theorem rejects_readValue (hclose : IsClosing close) : Rejects (readValue depth) close := by
  intro sp more hsp
  have hhead : ∀ c ∈ (close :: more).head?, isSpace c = false ∧ c ≠ '[' ∧ c ≠ '\x7b' := by
    intro c hc
    obtain rfl := Option.some.inj hc
    rcases hclose with rfl | rfl <;> decide
  rw [readValue_scalar hsp hhead]
  rcases hclose with rfl | rfl <;> rfl

theorem rejects_readMember {value : Reader Json} (hclose : IsClosing close) :
    Rejects (readMember value) close := by
  intro sp more hsp
  have hskip : skipSpace (sp ++ close :: more) = close :: more :=
    skipSpace_cons_front hsp hclose.isSpace_eq_false
  unfold readMember
  rw [hskip]
  rcases hclose with rfl | rfl <;> rfl

theorem takes_append_of_isSpace (hsp : ∀ s ∈ sp, isSpace s = true)
    (h : Takes (readValue depth) text v) : Takes (readValue depth) (sp ++ text) v := by
  intro rest hrest
  rw [List.append_assoc, readValue_append_of_isSpace hsp, h rest hrest]

theorem takes_arr {f : Json → List Char} {items : List Json} (hsp : ∀ s ∈ sp, isSpace s = true)
    (hf : ∀ x ∈ items, Takes (readValue depth) (f x) x) :
    Takes (readValue (depth + 1))
      ('[' :: (List.intercalate [','] (items.map f) ++ (sp ++ [']']))) (.arr items) := by
  intro rest _
  have hread := readSequence_intercalate (.inl rfl) (rejects_readValue (.inl rfl)) hsp hf rest
  simp only [List.cons_append, List.append_assoc, List.nil_append]
  refine readValue_arr.trans ?_
  rw [hread]
  rfl

theorem takes_obj {f : String × Json → List Char} {members : List (String × Json)}
    (hsorted : Dict.Sorted members) (hsp : ∀ s ∈ sp, isSpace s = true)
    (hf : ∀ e ∈ members, Takes (readMember (readValue depth)) (f e) e) :
    Takes (readValue (depth + 1))
      ('\x7b' :: (List.intercalate [','] (members.map f) ++ (sp ++ ['\x7d']))) (.obj members) := by
  intro rest _
  have hread := readSequence_intercalate (.inr rfl) (rejects_readMember (.inr rfl)) hsp hf rest
  simp only [List.cons_append, List.append_assoc, List.nil_append]
  refine readValue_obj.trans ?_
  rw [hread, Option.map_some]
  dsimp only
  rw [ofMembers, Dict.ofList_of_sorted hsorted]

theorem takes_member {e : String × Json} (hsp : ∀ s ∈ sp, isSpace s = true)
    (h : Takes (readValue depth) text e.2) :
    Takes (readMember (readValue depth)) (sp ++ ((quote e.1).toList ++ ':' :: text)) e := by
  have htakes := readMember_text hsp (List.forall_mem_nil _) (readString_quote e.1) h
  rw [toList_quote, List.cons_append, List.append_assoc]
  exact htakes

/-! ## The compact text -/

theorem readableTo_num {n : Number} : ReadableTo depth (.num n) ↔ n.ReadsBack := by
  cases depth <;> rfl

/-- A value that is no container is read back. -/
theorem takes_compact_scalar (h : v.ReadableTo depth) (harray : v.isArray = false)
    (hobject : v.isObject = false) : Takes (readValue depth) v.compact.toList v := by
  cases v with
  | null => exact takes_of_readScalar rfl
  | bool b => cases b <;> exact takes_of_readScalar rfl
  | num n => exact takes_of_readScalar (readableTo_num.1 h)
  | str s => exact takes_quote s
  | arr items => cases harray
  | obj members => cases hobject

theorem toList_compactItems (items : List Json) :
    (compactItems items).toList = List.intercalate [','] (items.map fun x => x.compact.toList) := by
  induction items with
  | nil => rfl
  | cons x rest ih =>
    cases rest with
    | nil => rw [compactItems, List.map_singleton, List.intercalate_singleton]
    | cons y rest =>
      rw [intercalate_map_cons_cons, ← ih, compactItems]
      simp

/-- A member in the compact text of an object. -/
def compactMember (e : String × Json) : List Char := (quote e.1).toList ++ ':' :: e.2.compact.toList

theorem toList_compactMembers (members : List (String × Json)) :
    (compactMembers members).toList = List.intercalate [','] (members.map compactMember) := by
  induction members with
  | nil => rfl
  | cons e rest ih =>
    obtain ⟨key, x⟩ := e
    cases rest with
    | nil =>
      rw [compactMembers, List.map_singleton, List.intercalate_singleton, compactMember]
      simp
    | cons y rest =>
      rw [intercalate_map_cons_cons, ← ih, compactMembers, compactMember]
      simp

theorem toList_compact_arr (items : List Json) :
    (compact (.arr items)).toList =
      '[' :: (List.intercalate [','] (items.map fun x => x.compact.toList) ++ ([] ++ [']'])) := by
  rw [← toList_compactItems, compact]
  simp

theorem toList_compact_obj (members : List (String × Json)) :
    (compact (.obj members)).toList =
      '\x7b' :: (List.intercalate [','] (members.map compactMember) ++ ([] ++ ['\x7d'])) := by
  rw [← toList_compactMembers, compact]
  simp

/-- A value is read back from its compact text. -/
theorem takes_compact (h : v.ReadableTo depth) : Takes (readValue depth) v.compact.toList v := by
  induction depth generalizing v with
  | zero =>
    cases v with
    | arr | obj => exact h.elim
    | null | bool | num | str => exact takes_compact_scalar h rfl rfl
  | succ depth ih =>
    cases v with
    | arr items =>
      rw [toList_compact_arr]
      exact takes_arr (List.forall_mem_nil _) fun x hx => ih (h x hx)
    | obj members =>
      obtain ⟨hsorted, hmembers⟩ := h
      rw [toList_compact_obj]
      refine takes_obj hsorted (List.forall_mem_nil _) fun e he => ?_
      have hmember := takes_member (List.forall_mem_nil _) (ih (hmembers e he))
      rwa [List.nil_append] at hmember
    | null | bool | num | str => exact takes_compact_scalar h rfl rfl

/-! ## The pretty text -/

theorem prettyAt_scalar (level : Nat) (harray : v.isArray = false) (hobject : v.isObject = false) :
    prettyAt level v = v.compact := by
  cases v with
  | null | num | str => rfl
  | bool b => cases b <;> rfl
  | arr items => cases harray
  | obj members => cases hobject

/-- An item in the pretty text of an array. -/
def prettyItem (level : Nat) (x : Json) : List Char :=
  (lineBreak (level + 1)).toList ++ (prettyAt (level + 1) x).toList

/-- A member in the pretty text of an object. -/
def prettyMember (level : Nat) (e : String × Json) : List Char :=
  (lineBreak (level + 1)).toList ++
    ((quote e.1).toList ++ ':' :: ([' '] ++ (prettyAt (level + 1) e.2).toList))

theorem isSpace_of_mem_lineBreak (level : Nat) :
    ∀ s ∈ (lineBreak level).toList, isSpace s = true := by
  intro s hs
  rw [lineBreak, String.toList_ofList] at hs
  rcases List.mem_cons.1 hs with rfl | hs
  · rfl
  · rw [List.eq_of_mem_replicate hs]
    rfl

theorem toList_prettyItems (level : Nat) (x : Json) (rest : List Json) :
    prettyItem level x ++ (prettyItems level rest).toList =
      List.intercalate [','] ((x :: rest).map (prettyItem level)) ++
        ((lineBreak level).toList ++ [']']) := by
  induction rest generalizing x with
  | nil =>
    rw [prettyItems, List.map_singleton, List.intercalate_singleton, String.toList_append]
    rfl
  | cons y rest ih =>
    rw [intercalate_map_cons_cons, List.append_assoc, List.cons_append, ← ih, prettyItems]
    simp [prettyItem]

theorem toList_prettyMembers (level : Nat) (e : String × Json) (rest : List (String × Json)) :
    prettyMember level e ++ (prettyMembers level rest).toList =
      List.intercalate [','] ((e :: rest).map (prettyMember level)) ++
        ((lineBreak level).toList ++ ['\x7d']) := by
  induction rest generalizing e with
  | nil =>
    rw [prettyMembers, List.map_singleton, List.intercalate_singleton, String.toList_append]
    rfl
  | cons y rest ih =>
    rw [intercalate_map_cons_cons, List.append_assoc, List.cons_append, ← ih, prettyMembers]
    simp [prettyMember]

theorem toList_prettyAt_arr (level : Nat) (x : Json) (rest : List Json) :
    (prettyAt level (.arr (x :: rest))).toList =
      '[' :: (List.intercalate [','] ((x :: rest).map (prettyItem level)) ++
        ((lineBreak level).toList ++ [']'])) := by
  rw [← toList_prettyItems, prettyAt]
  simp [prettyItem]

theorem toList_prettyAt_obj (level : Nat) (e : String × Json) (rest : List (String × Json)) :
    (prettyAt level (.obj (e :: rest))).toList =
      '\x7b' :: (List.intercalate [','] ((e :: rest).map (prettyMember level)) ++
        ((lineBreak level).toList ++ ['\x7d'])) := by
  rw [← toList_prettyMembers, prettyAt]
  simp [prettyMember]

/-- A value is read back from its pretty text at any level of indentation. -/
theorem takes_prettyAt (h : v.ReadableTo depth) (level : Nat) :
    Takes (readValue depth) (prettyAt level v).toList v := by
  have hblank : ∀ s ∈ [' '], isSpace s = true := by simp [isSpace]
  induction depth generalizing v level with
  | zero =>
    cases v with
    | arr | obj => exact h.elim
    | null | bool | num | str =>
      rw [prettyAt_scalar level rfl rfl]
      exact takes_compact_scalar h rfl rfl
  | succ depth ih =>
    cases v with
    | arr items =>
      cases items with
      | nil => exact takes_compact h
      | cons x rest =>
        rw [toList_prettyAt_arr]
        exact takes_arr (isSpace_of_mem_lineBreak level) fun y hy =>
          takes_append_of_isSpace (isSpace_of_mem_lineBreak _) (ih (h y hy) _)
    | obj members =>
      cases members with
      | nil => exact takes_compact h
      | cons e rest =>
        obtain ⟨hsorted, hmembers⟩ := h
        rw [toList_prettyAt_obj]
        exact takes_obj hsorted (isSpace_of_mem_lineBreak level) fun y hy =>
          takes_member (isSpace_of_mem_lineBreak _)
            (takes_append_of_isSpace hblank (ih (hmembers y hy) _))
    | null | bool | num | str =>
      rw [prettyAt_scalar level rfl rfl]
      exact takes_compact_scalar h rfl rfl

/-! ## Whole texts -/

theorem parse?_compact (h : v.ReadableTo maxDepth) : parse? v.compact = some v :=
  ofChars?_of_takes (takes_compact h)

theorem parse?_pretty (h : v.ReadableTo maxDepth) : parse? v.pretty = some v :=
  ofChars?_of_takes (takes_prettyAt h 0)

end Json
end Guardrail
