import Guardrail.Proofs.Json.Parsed
import Guardrail.Proofs.Json.Consumed

/-!
# Which value is found in a text

The search for a value in a text runs over it three times, and its middle part counts brackets of
one kind only and restarts at every bracket. What it finds can nevertheless be said without it: the
value in the first fenced block, if that is JSON of the shape asked for, and otherwise the value that
begins leftmost, wherever it ends.

It is found because JSON text is balanced: the brackets inside it have their partners, so the count
first comes to nothing at its end, and nothing shorter is JSON.

Results:
* `fenced?_eq_some_iff`: the value in the first fenced block.
* `balanced?_container`: the count comes to nothing at the end of a container and not before.
* `leftmost?_eq_some_iff`: the value that begins leftmost.
* `extract?_eq_some_iff`: the value that is found.
-/

namespace Guardrail

/-- The brackets around a value of a shape. -/
def Shape.brackets? : Shape → Option (Char × Char)
  | .string => none
  | .object => some ('\x7b', '\x7d')
  | .list => some ('[', ']')

namespace Extraction

open Json (Balanced StringBody bracketPairs marks)

/-! ## What is to be found -/

/-- The text falls into parts at the first occurrence of a mark. -/
def FirstSplit (mark cs before after : List Char) : Prop :=
  cs = before ++ (mark ++ after) ∧
    ∀ before' after', cs = before' ++ (mark ++ after') → before.length ≤ before'.length

/-- What comes after the first line of a text; the text itself, if it is a single line. -/
def AfterLine (cs body : List Char) : Prop :=
  (∃ line, FirstSplit ['\n'] cs line body) ∨ '\n' ∉ cs ∧ body = cs

/-- What stands in the first fenced block of a text: after the first fence, the rest of whose line
does not count, up to the next one. -/
def Fenced (t inside : List Char) : Prop :=
  ∃ before rest body after,
    FirstSplit fence t before rest ∧ AfterLine rest body ∧ FirstSplit fence body inside after

/-- The first fenced block of a text holds JSON of a shape. -/
def FencedValue (shape : Shape) (t : List Char) (v : Json) : Prop :=
  ∃ inside, Fenced t inside ∧ Json.ofChars? (Text.trimChars inside) = some v ∧
    shape.admits v = true

/-- A part of a text that begins at a place with a bracket is JSON of a shape. -/
def StartsAt (shape : Shape) (opening : Char) (t : List Char) (i : Nat) (v : Json) : Prop :=
  ∃ part, part <+: t.drop i ∧ part.head? = some opening ∧ Json.ofChars? part = some v ∧
    shape.admits v = true

/-- A value begins at a place, and none before it. -/
def StartsFirst (shape : Shape) (opening : Char) (t : List Char) (v : Json) : Prop :=
  ∃ i, StartsAt shape opening t i v ∧ ∀ j < i, ∀ w, ¬ StartsAt shape opening t j w

variable {mark cs before after rest t : List Char} {c opening closing : Char} {shape : Shape}
  {v w : Json} {depth : Nat}

/-! ## Splitting at a mark -/

theorem splitAt?_cons_of_starts (h : mark <+: c :: cs) :
    splitAt? mark (c :: cs) = some ([], (c :: cs).drop mark.length) :=
  if_pos (List.isPrefixOf_iff_prefix.2 h)

theorem splitAt?_cons_of_not_starts (h : ¬ mark <+: c :: cs) :
    splitAt? mark (c :: cs) =
      (splitAt? mark cs).map fun (before, after) => (c :: before, after) :=
  if_neg fun hp => h (List.isPrefixOf_iff_prefix.1 hp)

theorem firstSplit_cons (h : ¬ mark <+: c :: cs) :
    FirstSplit mark (c :: cs) before after ↔
      ∃ before', before = c :: before' ∧ FirstSplit mark cs before' after := by
  constructor
  · rintro ⟨hcs, hfirst⟩
    cases before with
    | nil => exact absurd ⟨after, hcs.symm⟩ h
    | cons b before =>
      obtain ⟨rfl, rfl⟩ := List.cons.inj hcs
      refine ⟨before, rfl, rfl, fun before' after' heq => ?_⟩
      have hle := hfirst (c :: before') after' (by rw [heq]; rfl)
      exact Nat.le_of_succ_le_succ hle
  · rintro ⟨before, rfl, rfl, hfirst⟩
    refine ⟨rfl, fun before' after' heq => ?_⟩
    cases before' with
    | nil => exact absurd ⟨after', heq.symm⟩ h
    | cons b before' => exact Nat.succ_le_succ (hfirst before' after' (List.cons.inj heq).2)

theorem splitAt?_eq_some_iff (hmark : mark ≠ []) :
    splitAt? mark cs = some (before, after) ↔ FirstSplit mark cs before after := by
  induction cs generalizing before with
  | nil =>
    have hempty : mark.isEmpty = false := List.isEmpty_eq_false_iff.2 hmark
    simp [splitAt?, hempty, FirstSplit, hmark]
  | cons c cs ih =>
    by_cases hstarts : mark <+: c :: cs
    · obtain ⟨after', hafter⟩ := hstarts
      rw [splitAt?_cons_of_starts ⟨after', hafter⟩, ← hafter, List.drop_left, Option.some.injEq,
        Prod.mk.injEq]
      constructor
      · rintro ⟨rfl, rfl⟩
        exact ⟨rfl, fun _ _ _ => Nat.zero_le _⟩
      · rintro ⟨heq, hfirst⟩
        obtain rfl := List.eq_nil_of_length_eq_zero (Nat.le_zero.1 (hfirst [] after' rfl))
        exact ⟨rfl, List.append_cancel_left heq⟩
    · rw [splitAt?_cons_of_not_starts hstarts, firstSplit_cons hstarts]
      simp only [Option.map_eq_some_iff, Prod.exists, Prod.mk.injEq]
      constructor
      · rintro ⟨before', _, hsplit, rfl, rfl⟩
        exact ⟨before', rfl, ih.1 hsplit⟩
      · rintro ⟨before', rfl, hsplit⟩
        exact ⟨before', after, ih.2 hsplit, rfl, rfl⟩

theorem splitAt?_singleton_eq_none_iff : splitAt? [c] cs = none ↔ c ∉ cs := by
  induction cs with
  | nil => simp [splitAt?]
  | cons x cs ih =>
    by_cases hx : c = x
    · subst hx
      rw [splitAt?_cons_of_starts ⟨cs, rfl⟩]
      simp
    · rw [splitAt?_cons_of_not_starts (by simp [List.cons_prefix_cons, hx]), Option.map_eq_none_iff,
        ih]
      simp [hx]

theorem afterLine_iff {body : List Char} :
    AfterLine cs body ↔
      (match splitAt? ['\n'] cs with
        | some (_, body) => body
        | none => cs) = body := by
  have hline : ['\n'] ≠ [] := List.cons_ne_nil _ _
  cases hsplit : splitAt? ['\n'] cs with
  | none =>
    have hnot := splitAt?_singleton_eq_none_iff.1 hsplit
    constructor
    · rintro (⟨line, hfirst⟩ | ⟨-, rfl⟩)
      · rw [(splitAt?_eq_some_iff hline).2 hfirst] at hsplit
        cases hsplit
      · rfl
    · rintro rfl
      exact .inr ⟨hnot, rfl⟩
  | some parts =>
    obtain ⟨line, body'⟩ := parts
    constructor
    · rintro (⟨line', hfirst⟩ | ⟨hnot, -⟩)
      · rw [(splitAt?_eq_some_iff hline).2 hfirst] at hsplit
        exact (Prod.mk.inj (Option.some.inj hsplit)).2.symm
      · rw [splitAt?_singleton_eq_none_iff.2 hnot] at hsplit
        cases hsplit
    · rintro rfl
      exact .inl ⟨line, (splitAt?_eq_some_iff hline).1 hsplit⟩

/-- The value in the first fenced block is what stands there, blanks around it apart. -/
theorem fenced?_eq_some_iff :
    fenced? t = some v ↔
      ∃ inside, Fenced t inside ∧ Json.ofChars? (Text.trimChars inside) = some v := by
  have hfence : fence ≠ [] := List.cons_ne_nil _ _
  constructor
  · intro h
    obtain ⟨⟨before, rest⟩, hopen, h⟩ := Option.bind_eq_some_iff.1 h
    obtain ⟨⟨inside, after⟩, hclose, h⟩ := Option.bind_eq_some_iff.1 h
    exact ⟨inside, ⟨before, rest, _, after, (splitAt?_eq_some_iff hfence).1 hopen,
      afterLine_iff.2 rfl, (splitAt?_eq_some_iff hfence).1 hclose⟩, h⟩
  · rintro ⟨inside, ⟨before, rest, body, after, hopen, hline, hclose⟩, h⟩
    rw [← afterLine_iff.1 hline] at hclose
    exact Option.bind_eq_some_iff.2 ⟨(before, rest), (splitAt?_eq_some_iff hfence).2 hopen,
      Option.bind_eq_some_iff.2 ⟨(inside, after), (splitAt?_eq_some_iff hfence).2 hclose, h⟩⟩

/-- The value of a shape in the first fenced block. -/
theorem filter_fenced?_eq_some_iff :
    (fenced? t).filter shape.admits = some v ↔ FencedValue shape t v := by
  rw [Option.filter_eq_some_iff, fenced?_eq_some_iff]
  constructor
  · rintro ⟨⟨inside, hinside, hv⟩, hshape⟩
    exact ⟨inside, hinside, hv, hshape⟩
  · rintro ⟨inside, hinside, hv, hshape⟩
    exact ⟨⟨inside, hinside, hv⟩, hshape⟩

/-! ## Counting brackets -/

theorem balanced?_cons_quote :
    balanced? opening closing ⟨depth, false, false⟩ ('"' :: rest) =
      (balanced? opening closing ⟨depth, true, false⟩ rest).map ('"' :: ·) := rfl

theorem balanced?_cons_bare (hquote : c ≠ '"') (hopening : c ≠ opening) (hclosing : c ≠ closing) :
    balanced? opening closing ⟨depth, false, false⟩ (c :: rest) =
      (balanced? opening closing ⟨depth, false, false⟩ rest).map (c :: ·) := by
  simp [balanced?, hquote, hopening, hclosing]

theorem balanced?_cons_opening (hquote : opening ≠ '"') :
    balanced? opening closing ⟨depth, false, false⟩ (opening :: rest) =
      (balanced? opening closing ⟨depth + 1, false, false⟩ rest).map (opening :: ·) := by
  simp [balanced?, hquote]

theorem balanced?_cons_closing (hquote : closing ≠ '"') (hne : closing ≠ opening) :
    balanced? opening closing ⟨depth, false, false⟩ (closing :: rest) =
      if depth ≤ 1 then some [closing]
      else (balanced? opening closing ⟨depth - 1, false, false⟩ rest).map (closing :: ·) := by
  simp [balanced?, hquote, hne]

theorem balanced?_inside_plain (hquote : c ≠ '"') (hslash : c ≠ '\\') :
    balanced? opening closing ⟨depth, true, false⟩ (c :: rest) =
      (balanced? opening closing ⟨depth, true, false⟩ rest).map (c :: ·) := by
  simp [balanced?, hquote, hslash]

theorem balanced?_inside_escape :
    balanced? opening closing ⟨depth, true, false⟩ ('\\' :: rest) =
      (balanced? opening closing ⟨depth, true, true⟩ rest).map ('\\' :: ·) := rfl

theorem balanced?_escaped :
    balanced? opening closing ⟨depth, true, true⟩ (c :: rest) =
      (balanced? opening closing ⟨depth, true, false⟩ rest).map (c :: ·) := rfl

/-- A string is passed over up to its closing quote. -/
theorem balanced?_stringBody {s : List Char} (h : StringBody s) :
    balanced? opening closing ⟨depth, true, false⟩ (s ++ '"' :: rest) =
      (balanced? opening closing ⟨depth, false, false⟩ rest).map (s ++ '"' :: ·) := by
  induction h with
  | nil => rfl
  | plain hquote hslash _ _ ih =>
    rw [List.cons_append, balanced?_inside_plain hquote hslash, ih, Option.map_map]
    rfl
  | escaped _ _ ih =>
    rw [List.cons_append, List.cons_append, balanced?_inside_escape, balanced?_escaped, ih,
      Option.map_map, Option.map_map]
    rfl

/-- The brackets of a container are no quotes, and differ. -/
theorem ne_of_mem_bracketPairs (hpair : (opening, closing) ∈ bracketPairs) :
    opening ≠ '"' ∧ closing ≠ '"' ∧ closing ≠ opening := by
  rcases Json.bracketPairs_cases hpair with ⟨rfl, rfl⟩ | ⟨rfl, rfl⟩ <;> decide

/-- Containers of the same kind have the same brackets, and those of different kinds share none. -/
theorem eq_or_apart_of_mem_bracketPairs {opening' closing' : Char}
    (hpair : (opening, closing) ∈ bracketPairs) (hpair' : (opening', closing') ∈ bracketPairs) :
    opening' = opening ∧ closing' = closing ∨
      (opening' ≠ opening ∧ opening' ≠ closing) ∧ closing' ≠ opening ∧ closing' ≠ closing := by
  rcases Json.bracketPairs_cases hpair with ⟨rfl, rfl⟩ | ⟨rfl, rfl⟩ <;>
    rcases Json.bracketPairs_cases hpair' with ⟨rfl, rfl⟩ | ⟨rfl, rfl⟩ <;> decide

/-- Where a bracket is open, a balanced text is passed over. -/
theorem balanced?_append (hpair : (opening, closing) ∈ bracketPairs) (ht : Balanced t)
    (hdepth : 1 ≤ depth) :
    balanced? opening closing ⟨depth, false, false⟩ (t ++ rest) =
      (balanced? opening closing ⟨depth, false, false⟩ rest).map (t ++ ·) := by
  obtain ⟨hopen, hclose, hne⟩ := ne_of_mem_bracketPairs hpair
  induction ht generalizing depth rest with
  | nil => exact Option.map_id'.symm
  | @bare c t hc _ ih =>
    have hmarks : opening ∈ marks ∧ closing ∈ marks := by
      rcases Json.bracketPairs_cases hpair with ⟨rfl, rfl⟩ | ⟨rfl, rfl⟩ <;> decide
    have hother : ∀ m ∈ marks, c ≠ m := fun m hm heq => hc (heq ▸ hm)
    rw [List.cons_append, balanced?_cons_bare (hother _ (by decide)) (hother _ hmarks.1)
      (hother _ hmarks.2), ih hdepth, Option.map_map]
    rfl
  | @string s t hs _ ih =>
    rw [List.cons_append, List.append_assoc, List.cons_append, balanced?_cons_quote,
      balanced?_stringBody hs, ih hdepth, Option.map_map, Option.map_map]
    congr 1
    funext text
    simp
  | @brackets opening' closing' s t hpair' _ _ ihs iht =>
    have hshape : opening' :: (s ++ closing' :: t) ++ rest =
        opening' :: (s ++ closing' :: (t ++ rest)) := by simp
    obtain ⟨hopen', hclose', -⟩ := ne_of_mem_bracketPairs hpair'
    rw [hshape]
    rcases eq_or_apart_of_mem_bracketPairs hpair hpair' with
      ⟨rfl, rfl⟩ | ⟨⟨hoo, hoc⟩, hco, hcc⟩
    · -- the count goes up by one and comes back
      rw [balanced?_cons_opening hopen, ihs (Nat.le_add_left _ _),
        balanced?_cons_closing hclose hne, if_neg (by omega), Nat.add_sub_cancel, iht hdepth,
        Option.map_map, Option.map_map, Option.map_map]
      congr 1
      funext text
      simp
    · rw [balanced?_cons_bare hopen' hoo hoc, ihs hdepth, balanced?_cons_bare hclose' hco hcc,
        iht hdepth, Option.map_map, Option.map_map, Option.map_map]
      congr 1
      funext text
      simp

/-- The count comes to nothing at the end of a container and not before. -/
theorem balanced?_container (hpair : (opening, closing) ∈ bracketPairs) (ht : Balanced t) :
    balanced? opening closing ⟨0, false, false⟩ (opening :: (t ++ closing :: rest)) =
      some (opening :: (t ++ [closing])) := by
  obtain ⟨hopen, hclose, hne⟩ := ne_of_mem_bracketPairs hpair
  rw [balanced?_cons_opening hopen, balanced?_append hpair ht (Nat.le_refl 1),
    balanced?_cons_closing hclose hne, if_pos (Nat.le_refl 1)]
  rfl

/-- What is passed over is the front of the text. -/
theorem prefix_of_balanced? {scan : Scan} {text : List Char}
    (h : balanced? opening closing scan cs = some text) : text <+: cs ∧ text.head? = cs.head? := by
  induction cs generalizing scan text with
  | nil => cases h
  | cons c cs ih =>
    have hnext : ∀ scan, (balanced? opening closing scan cs).map (c :: ·) = some text →
        text <+: c :: cs ∧ text.head? = some c := by
      intro scan hmap
      obtain ⟨text', htext, rfl⟩ := Option.map_eq_some_iff.1 hmap
      exact ⟨List.cons_prefix_cons.2 ⟨rfl, (ih htext).1⟩, rfl⟩
    unfold balanced? at h
    dsimp only at h
    split_ifs at h <;> try exact hnext _ h
    obtain rfl := Option.some.inj h
    exact ⟨List.cons_prefix_cons.2 ⟨rfl, List.nil_prefix⟩, rfl⟩

/-! ## The leftmost value -/

theorem mem_bracketPairs_of_brackets? (h : shape.brackets? = some (opening, closing)) :
    (opening, closing) ∈ bracketPairs := by
  cases shape <;> simp only [Shape.brackets?, Option.some.injEq, reduceCtorEq] at h
  · rw [← h]
    exact List.mem_cons_of_mem _ List.mem_cons_self
  · rw [← h]
    exact List.mem_cons_self

/-- JSON text that begins with the bracket of a shape has that shape. -/
theorem admits_of_ofChars? (h : shape.brackets? = some (opening, closing))
    (hv : Json.ofChars? (opening :: cs) = some v) : shape.admits v = true := by
  obtain ⟨body, sp, -, -, -, -, hkind⟩ :=
    Json.container_of_ofChars? (mem_bracketPairs_of_brackets? h) hv
  cases shape <;> simp only [Shape.brackets?, Option.some.injEq, Prod.mk.injEq, reduceCtorEq] at h
  · rcases hkind with ⟨rfl, -⟩ | ⟨-, hobject⟩
    · exact absurd h.1 (by decide)
    · cases v <;> first | rfl | cases hobject
  · rcases hkind with ⟨-, harray⟩ | ⟨rfl, -⟩
    · cases v <;> first | rfl | cases harray
    · exact absurd h.1 (by decide)

theorem head?_of_startsAt_zero (h : StartsAt shape opening cs 0 v) : cs.head? = some opening := by
  obtain ⟨part, ⟨rest, hrest⟩, hhead, -⟩ := h
  rw [List.drop_zero] at hrest
  rw [← hrest, List.head?_append, hhead]
  rfl

/-- What the bracket count finds at an opening bracket is the JSON text that begins there. -/
theorem balanced?_bind_ofChars?_iff (h : shape.brackets? = some (opening, closing)) :
    (balanced? opening closing ⟨0, false, false⟩ (opening :: cs)).bind Json.ofChars? = some v ↔
      StartsAt shape opening (opening :: cs) 0 v := by
  have hpair := mem_bracketPairs_of_brackets? h
  constructor
  · intro hbind
    obtain ⟨part, hpart, hv⟩ := Option.bind_eq_some_iff.1 hbind
    obtain ⟨hstarts, hhead⟩ := prefix_of_balanced? hpart
    obtain ⟨part, rfl⟩ := List.head?_eq_some_iff.1 hhead
    exact ⟨opening :: part, hstarts, rfl, hv, admits_of_ofChars? h hv⟩
  · rintro ⟨part, ⟨rest, hrest⟩, hhead, hv, -⟩
    obtain ⟨part, rfl⟩ := List.head?_eq_some_iff.1 hhead
    obtain ⟨body, sp, rfl, hbody, -, hcontainer, -⟩ := Json.container_of_ofChars? hpair hv
    have hcs : cs = body ++ closing :: (sp ++ rest) := by
      have htail : body ++ closing :: sp ++ rest = cs := (List.cons.inj hrest).2
      rw [← htail, List.append_assoc]
      rfl
    rw [hcs, balanced?_container hpair hbody, Option.bind_some, hcontainer]

theorem not_startsFirst_nil : ¬ StartsFirst shape opening [] v := by
  rintro ⟨i, ⟨part, hstarts, hhead, -⟩, -⟩
  rw [List.drop_nil, List.prefix_nil] at hstarts
  rw [hstarts] at hhead
  cases hhead

/-- If a value begins right here, it is the first to begin. -/
theorem startsFirst_iff_of_zero (h : StartsAt shape opening t 0 w) :
    StartsFirst shape opening t v ↔ StartsAt shape opening t 0 v := by
  constructor
  · rintro ⟨i, hi, hfirst⟩
    cases i with
    | zero => exact hi
    | succ i => exact absurd h (hfirst 0 (Nat.succ_pos i) w)
  · exact fun hv => ⟨0, hv, fun j hj => absurd hj (Nat.not_lt_zero j)⟩

/-- If no value begins right here, the first to begin is the first in what follows. -/
theorem startsFirst_cons (hnone : ∀ w, ¬ StartsAt shape opening (c :: cs) 0 w) :
    StartsFirst shape opening (c :: cs) v ↔ StartsFirst shape opening cs v := by
  constructor
  · rintro ⟨i, hi, hfirst⟩
    cases i with
    | zero => exact absurd hi (hnone v)
    | succ i => exact ⟨i, hi, fun j hj w => hfirst (j + 1) (Nat.succ_lt_succ hj) w⟩
  · rintro ⟨i, hi, hfirst⟩
    refine ⟨i + 1, hi, fun j hj w => ?_⟩
    cases j with
    | zero => exact hnone w
    | succ j => exact hfirst j (Nat.lt_of_succ_lt_succ hj) w

/-- The leftmost value begins leftmost. -/
theorem leftmost?_eq_some_iff (h : shape.brackets? = some (opening, closing)) :
    leftmost? opening closing t = some v ↔ StartsFirst shape opening t v := by
  induction t with
  | nil => exact ⟨by rintro ⟨⟩, fun hv => (not_startsFirst_nil hv).elim⟩
  | cons c cs ih =>
    unfold leftmost?
    split_ifs with hc
    · subst hc
      cases hhere : (balanced? c closing ⟨0, false, false⟩ (c :: cs)).bind Json.ofChars? with
      | none =>
        have hnone : ∀ w, ¬ StartsAt shape c (c :: cs) 0 w := by
          intro w hw
          rw [(balanced?_bind_ofChars?_iff h).2 hw] at hhere
          cases hhere
        rw [Option.none_or, startsFirst_cons hnone, ih]
      | some w =>
        have hw := (balanced?_bind_ofChars?_iff h).1 hhere
        rw [Option.some_or, ← hhere, balanced?_bind_ofChars?_iff h, startsFirst_iff_of_zero hw]
    · have hnone : ∀ w, ¬ StartsAt shape opening (c :: cs) 0 w :=
        fun w hw => hc (Option.some.inj (head?_of_startsAt_zero hw))
      rw [startsFirst_cons hnone, ih]

/-- Which value begins at a place does not depend on where it is taken to end. -/
theorem startsAt_unique {i : Nat} (h : shape.brackets? = some (opening, closing))
    (hv : StartsAt shape opening t i v) (hw : StartsAt shape opening t i w) : v = w := by
  cases ht : t.drop i with
  | nil =>
    obtain ⟨part, hstarts, hhead, -⟩ := hv
    rw [ht, List.prefix_nil] at hstarts
    rw [hstarts] at hhead
    cases hhead
  | cons c cs =>
    have hzero : ∀ {x : Json}, StartsAt shape opening t i x →
        StartsAt shape opening (c :: cs) 0 x :=
      fun hx => by
        obtain ⟨part, hstarts, hrest⟩ := hx
        exact ⟨part, by rwa [List.drop_zero, ← ht], hrest⟩
    obtain rfl := Option.some.inj (head?_of_startsAt_zero (hzero hv))
    have hsame := ((balanced?_bind_ofChars?_iff h).2 (hzero hv)).symm.trans
      ((balanced?_bind_ofChars?_iff h).2 (hzero hw))
    exact Option.some.inj hsame

/-- If a value begins anywhere, one begins leftmost. -/
theorem isSome_leftmost?_iff (h : shape.brackets? = some (opening, closing)) :
    (leftmost? opening closing t).isSome ↔ ∃ i v, StartsAt shape opening t i v := by
  constructor
  · intro hsome
    obtain ⟨v, hv⟩ := Option.isSome_iff_exists.1 hsome
    obtain ⟨i, hi, -⟩ := (leftmost?_eq_some_iff h).1 hv
    exact ⟨i, v, hi⟩
  · rintro ⟨i, v, hi⟩
    induction i using Nat.strong_induction_on generalizing v with
    | _ i ih =>
      by_cases hearlier : ∃ j < i, ∃ w, StartsAt shape opening t j w
      · obtain ⟨j, hj, w, hw⟩ := hearlier
        exact ih j hj w hw
      · have hfirst : ∀ j < i, ∀ w, ¬ StartsAt shape opening t j w :=
          fun j hj w hw => hearlier ⟨j, hj, w, hw⟩
        rw [(leftmost?_eq_some_iff h).2 ⟨i, hi, hfirst⟩]
        rfl

/-! ## The value that is found -/

theorem filter_leftmost? (h : shape.brackets? = some (opening, closing)) :
    (leftmost? opening closing t).filter shape.admits = leftmost? opening closing t := by
  cases hv : leftmost? opening closing t with
  | none => rfl
  | some v =>
    obtain ⟨i, ⟨part, -, -, -, hshape⟩, -⟩ := (leftmost?_eq_some_iff h).1 hv
    exact Option.filter_some_pos hshape

/-- The JSON text of a value of the shape begins, blanks apart, with the bracket of the shape. -/
theorem exists_opening (h : shape.brackets? = some (opening, closing))
    (hv : Json.ofChars? t = some v) (hshape : shape.admits v = true) :
    ∃ sp cs, t = sp ++ opening :: cs ∧ (∀ c ∈ sp, Json.isSpace c = true) ∧
      Json.ofChars? (opening :: cs) = some v := by
  have hkind : opening = '[' ∧ v.isArray = true ∧ v.isObject = false ∨
      opening = '\x7b' ∧ v.isObject = true ∧ v.isArray = false := by
    cases shape <;>
      simp only [Shape.brackets?, Option.some.injEq, Prod.mk.injEq, reduceCtorEq] at h
    · exact .inr ⟨h.1.symm, by cases v <;> first | exact ⟨rfl, rfl⟩ | cases hshape⟩
    · exact .inl ⟨h.1.symm, by cases v <;> first | exact ⟨rfl, rfl⟩ | cases hshape⟩
  obtain ⟨opening', closing', sp, cs, hpair, ht, hsp, hcs⟩ :=
    Json.opening_of_ofChars? hv (hkind.imp (·.2.1) (·.2.1))
  obtain ⟨-, -, -, -, -, -, hkind'⟩ := Json.container_of_ofChars? hpair hcs
  obtain rfl : opening' = opening := by
    rcases hkind with ⟨rfl, harray, hobject⟩ | ⟨rfl, hobject, harray⟩ <;>
      simpa [harray, hobject] using hkind'
  exact ⟨sp, cs, ht, hsp, hcs⟩

/-- A text that is JSON of the shape from end to end has its value leftmost. -/
theorem leftmost?_of_ofChars? (h : shape.brackets? = some (opening, closing))
    (hv : Json.ofChars? t = some v) (hshape : shape.admits v = true) :
    leftmost? opening closing t = some v := by
  obtain ⟨sp, cs, rfl, hsp, hcs⟩ := exists_opening h hv hshape
  have hopening : Json.isSpace opening = false := by
    have hpair := mem_bracketPairs_of_brackets? h
    rcases Json.bracketPairs_cases hpair with ⟨rfl, -⟩ | ⟨rfl, -⟩ <;> rfl
  refine (leftmost?_eq_some_iff h).2 ⟨sp.length, ⟨opening :: cs, ?_, rfl, hcs, hshape⟩, ?_⟩
  · exact ⟨[], by rw [List.drop_left, List.append_nil]⟩
  · -- before it there are only blanks
    rintro j hj w ⟨part, ⟨rest, hrest⟩, hhead, -⟩
    have hj' : (sp ++ opening :: cs)[j]? = some opening := by
      rw [← List.head?_drop, ← hrest, List.head?_append, hhead]
      rfl
    rw [List.getElem?_append_left hj] at hj'
    rw [hsp opening (List.mem_of_getElem? hj')] at hopening
    cases hopening

theorem extract?_eq_value? (h : shape.brackets? = some (opening, closing)) (text : String) :
    extract? shape text = value? shape opening closing text.toList := by
  cases shape <;> simp only [Shape.brackets?, Option.some.injEq, Prod.mk.injEq, reduceCtorEq] at h
  · obtain ⟨rfl, rfl⟩ := h
    rfl
  · obtain ⟨rfl, rfl⟩ := h
    rfl

/-- The last attempt, on the whole text, never finds anything that the others do not. -/
theorem extract?_eq_or (h : shape.brackets? = some (opening, closing)) (text : String) :
    extract? shape text =
      ((fenced? (Text.trimChars text.toList)).filter shape.admits).or
        (leftmost? opening closing (Text.trimChars text.toList)) := by
  rw [extract?_eq_value? h]
  unfold value?
  dsimp only
  rw [filter_leftmost? h]
  cases hleft : leftmost? opening closing (Text.trimChars text.toList) with
  | some v => rfl
  | none =>
    have hwhole :
        (Json.ofChars? (Text.trimChars text.toList)).filter shape.admits = none := by
      rw [Option.filter_eq_none_iff]
      intro v hv hshape
      rw [leftmost?_of_ofChars? h hv hshape] at hleft
      cases hleft
    rw [hwhole]
    rfl

/-- What is found in a text is the value in the first fenced block, if it is JSON of the shape, and
otherwise the value that begins leftmost. -/
theorem extract?_eq_some_iff (h : shape.brackets? = some (opening, closing)) {text : String} :
    extract? shape text = some v ↔
      FencedValue shape (Text.trimChars text.toList) v ∨
        (∀ w, ¬ FencedValue shape (Text.trimChars text.toList) w) ∧
          StartsFirst shape opening (Text.trimChars text.toList) v := by
  rw [extract?_eq_or h, Option.or_eq_some_iff, filter_fenced?_eq_some_iff,
    leftmost?_eq_some_iff h]
  have hnone : (fenced? (Text.trimChars text.toList)).filter shape.admits = none ↔
      ∀ w, ¬ FencedValue shape (Text.trimChars text.toList) w := by
    rw [Option.eq_none_iff_forall_ne_some]
    exact forall_congr' fun w => not_congr filter_fenced?_eq_some_iff
  rw [hnone]

/-- The value in the first fenced block is found, if it is JSON of the shape, and otherwise the
value that begins leftmost, if there is one. It does not matter where that value is taken to end,
whatever stands around it, and the last attempt, on the whole text, plays no part. -/
theorem extract?_leftmost (h : shape.brackets? = some (opening, closing)) (text : String) :
    let t := Text.trimChars text.toList
    (∀ v, FencedValue shape t v → extract? shape text = some v) ∧
      ((∀ v, ¬ FencedValue shape t v) →
        (∀ i v, StartsAt shape opening t i v → (∀ j < i, ∀ w, ¬ StartsAt shape opening t j w) →
            extract? shape text = some v) ∧
          ((∀ i v, ¬ StartsAt shape opening t i v) → extract? shape text = none)) ∧
      (∀ i v w, StartsAt shape opening t i v → StartsAt shape opening t i w → v = w) ∧
      ((∃ i v, StartsAt shape opening t i v) → (extract? shape text).isSome) ∧
      extract? shape text =
        ((fenced? t).filter shape.admits).or
          ((leftmost? opening closing t).filter shape.admits) := by
  intro t
  refine ⟨fun v hv => (extract?_eq_some_iff h).2 (.inl hv), fun hfenced => ⟨?_, ?_⟩,
    fun i v w => startsAt_unique h, fun hstarts => ?_, ?_⟩
  · intro i v hi hfirst
    exact (extract?_eq_some_iff h).2 (.inr ⟨hfenced, i, hi, hfirst⟩)
  · intro hnone
    rw [Option.eq_none_iff_forall_ne_some]
    intro v hv
    rcases (extract?_eq_some_iff h).1 hv with hfound | ⟨-, i, hi, -⟩
    · exact hfenced v hfound
    · exact hnone i v hi
  · rw [extract?_eq_or h, Option.isSome_or, (isSome_leftmost?_iff h).2 hstarts, Bool.or_true]
  · rw [filter_leftmost? h]
    exact extract?_eq_or h text

/-- An open brace in the prose before an object, and a closing one in a string in it, do not hide
the object. -/
theorem extract?_leftmost_after_brace :
    let text := "a \x7b b \x7b\"c\":\"\x7d\"\x7d d"
    Shape.object.brackets? = some ('\x7b', '\x7d') ∧
      extract? .object text = some (.obj [("c", .str "\x7d")]) := by
  intro text
  have hbrackets : Shape.object.brackets? = some ('\x7b', '\x7d') := rfl
  have htrim : Text.trimChars text.toList = ['a', ' ', '\x7b', ' ', 'b', ' ', '\x7b', '"', 'c', '"',
      ':', '"', '\x7d', '"', '\x7d', ' ', 'd'] := by decide
  have hleft : leftmost? '\x7b' '\x7d' (Text.trimChars text.toList) =
      some (.obj [("c", .str "\x7d")]) := by
    rw [htrim]
    cbv
  have hfenced : (fenced? (Text.trimChars text.toList)).filter Shape.object.admits = none := by
    rw [htrim]
    cbv
  obtain ⟨i, hi, hfirst⟩ := (leftmost?_eq_some_iff hbrackets).1 hleft
  obtain ⟨-, hfound, -⟩ := extract?_leftmost hbrackets text
  refine ⟨hbrackets, (hfound fun w hw => ?_).1 i _ hi hfirst⟩
  rw [filter_fenced?_eq_some_iff.2 hw] at hfenced
  cases hfenced

end Extraction
end Guardrail
