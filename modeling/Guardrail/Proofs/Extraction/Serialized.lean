import Guardrail.Proofs.Extraction.Search
import Guardrail.Proofs.Json.RoundTrip

/-!
# Written values as responses

A response that is nothing but the text of a value gives that value, with one exception. Strings may
hold backticks, so the text may look as if it had a fenced block in it, and the first fenced block
comes before everything else. In the pretty text this comes to nothing: a block begins after a line
break, which stands outside of strings, and ends before a backtick, which stands inside, and JSON
leads from outside of strings to outside. In the compact text, which is a single line, the block
begins right after its fence, and what stands in it may be JSON of the shape asked for.

Results:
* `not_fencedValue_pretty`: no fenced block of a pretty text holds a value.
* `extract?_of_ofChars?`: what is found in a text that is JSON from end to end.
* `extract?_serialized`: what is found in the two texts of a value.
-/

namespace Guardrail.Extraction

open Json (Balanced bracketPairs walk? walk?_append walk?_append_eq_some)

variable {t before after : List Char} {opening closing : Char} {shape : Shape} {v w : Json}

/-! ## Blanks at the ends -/

/-- A text is what is left of it between blanks. -/
theorem exists_trimChars (cs : List Char) :
    ∃ lead trail, cs = lead ++ (Text.trimChars cs ++ trail) ∧
      (∀ c ∈ lead, Text.isBlank c = true) ∧ ∀ c ∈ trail, Text.isBlank c = true := by
  obtain ⟨lead, rest, rfl, hlead, hrest⟩ := Json.exists_front Text.isBlank cs
  obtain ⟨trail, kept, hback, htrail, hkept⟩ := Json.exists_front Text.isBlank rest.reverse
  have htrim : Text.trimChars (lead ++ rest) = kept.reverse := by
    rw [Text.trimChars, (Json.takeWhile_front hlead hrest).2, hback,
      (Json.takeWhile_front htrail hkept).2]
  have hsplit : rest = kept.reverse ++ trail.reverse := by
    rw [← List.reverse_append, ← hback, List.reverse_reverse]
  refine ⟨lead, trail.reverse, by rw [htrim, ← hsplit], hlead, fun c hc => ?_⟩
  exact htrail c (List.mem_reverse.1 hc)

/-- A text that is JSON, blanks at its ends apart, is balanced. -/
theorem balanced_of_trimChars (h : Json.ofChars? (Text.trimChars t) = some v) : Balanced t := by
  obtain ⟨lead, trail, ht, hlead, htrail⟩ := exists_trimChars t
  have hblank : ∀ cs : List Char, (∀ c ∈ cs, Text.isBlank c = true) → Balanced cs :=
    fun cs hcs => Json.balanced_of_forall fun c hc => Json.not_mem_marks rfl (hcs c hc)
  rw [ht]
  exact (hblank lead hlead).append ((Json.balanced_of_ofChars? h).append (hblank trail htrail))

/-! ## Fences inside of strings -/

/-- In a balanced text no balanced part leads from a line break to a backtick. -/
theorem not_balanced_between (h : Balanced (before ++ '\n' :: (t ++ '\x60' :: after))) :
    ¬ Balanced t := by
  intro hinside
  have hwalk := Json.walk?_of_balanced h
  obtain ⟨here, hhere, hline⟩ := walk?_append_eq_some hwalk
  obtain rfl := Json.eq_outside_of_lineBreak hline
  have hshape : before ++ '\n' :: (t ++ '\x60' :: after) =
      before ++ '\n' :: t ++ '\x60' :: after := by simp
  rw [hshape] at hwalk
  obtain ⟨there, hthere, htick⟩ := walk?_append_eq_some hwalk
  refine Json.ne_outside_of_backtick htick (Option.some.inj ?_)
  have hstep : walk? .outside ('\n' :: t) = walk? .outside t := rfl
  rw [← hthere, walk?_append, hhere, Option.bind_some, hstep, Json.walk?_of_balanced hinside]

/-- A text that ends with a line break and one more character has the line break behind all of its
fences. -/
theorem mem_of_append_fence {last : Char} {rest : List Char}
    (h : t ++ ['\n', last] = before ++ (fence ++ rest)) : '\n' ∈ rest := by
  have hends : ['\n', last] <:+ before ++ (fence ++ rest) := ⟨t, h⟩
  rcases List.suffix_or_suffix_of_suffix hends (List.suffix_append before _) with hshort | hlong
  · have hrest : ['\n', last] <:+ rest := by
      simpa [fence, List.suffix_cons_iff] using hshort
    exact hrest.subset List.mem_cons_self
  · have hlength := hlong.length_le
    simp [fence] at hlength

/-! ## The texts of a container -/

/-- The brackets of a container, and what is between them. -/
def Bracketed (opening closing : Char) (t : List Char) : Prop :=
  ∃ body, t = opening :: (body ++ [closing])

/-- The brackets of a container, with nothing between them or the closing one on a line of its
own. -/
def OnLines (opening closing : Char) (t : List Char) : Prop :=
  t = [opening, closing] ∨ ∃ front, t = opening :: (front ++ ['\n', closing])

theorem OnLines.bracketed (h : OnLines opening closing t) : Bracketed opening closing t := by
  rcases h with rfl | ⟨front, rfl⟩
  · exact ⟨[], rfl⟩
  · exact ⟨front ++ ['\n'], by simp⟩

theorem bracketed_compact (h : shape.brackets? = some (opening, closing))
    (hshape : shape.admits v = true) : Bracketed opening closing v.compact.toList := by
  cases shape with
  | string => cases h
  | object =>
    obtain ⟨rfl, rfl⟩ := Prod.mk.inj (Option.some.inj h)
    cases v with
    | obj members => exact ⟨_, Json.toList_compact_obj members⟩
    | null | bool | num | str | arr => cases hshape
  | list =>
    obtain ⟨rfl, rfl⟩ := Prod.mk.inj (Option.some.inj h)
    cases v with
    | arr items => exact ⟨_, Json.toList_compact_arr items⟩
    | null | bool | num | str | obj => cases hshape

theorem onLines_pretty (h : shape.brackets? = some (opening, closing))
    (hshape : shape.admits v = true) : OnLines opening closing v.pretty.toList := by
  have hbreak : (Json.lineBreak 0).toList = ['\n'] := String.toList_ofList
  cases shape with
  | string => cases h
  | object =>
    obtain ⟨rfl, rfl⟩ := Prod.mk.inj (Option.some.inj h)
    cases v with
    | obj members =>
      cases members with
      | nil => exact .inl rfl
      | cons e rest =>
        have hlines := Json.toList_prettyAt_obj 0 e rest
        rw [hbreak] at hlines
        exact .inr ⟨_, hlines⟩
    | null | bool | num | str | arr => cases hshape
  | list =>
    obtain ⟨rfl, rfl⟩ := Prod.mk.inj (Option.some.inj h)
    cases v with
    | arr items =>
      cases items with
      | nil => exact .inl rfl
      | cons x rest =>
        have hlines := Json.toList_prettyAt_arr 0 x rest
        rw [hbreak] at hlines
        exact .inr ⟨_, hlines⟩
    | null | bool | num | str | obj => cases hshape

/-- No fenced block of a pretty text holds a value. -/
theorem not_fencedValue_of_onLines (hbalanced : Balanced t) (hlines : OnLines opening closing t)
    (w : Json) : ¬ FencedValue shape t w := by
  rintro ⟨inside, ⟨before, rest, body, after, ⟨hopen, -⟩, hline, ⟨hclose, -⟩⟩, hw, -⟩
  have hrest : '\n' ∈ rest := by
    rcases hlines with hshort | ⟨front, hfront⟩
    · have hlength := congrArg List.length (hshort.symm.trans hopen)
      simp [fence] at hlength
      omega
    · have hends : opening :: front ++ ['\n', closing] = before ++ (fence ++ rest) :=
        hfront.symm.trans hopen
      exact mem_of_append_fence hends
  rcases hline with ⟨line, hsplit, -⟩ | ⟨hnone, -⟩
  · have hshape : t = before ++ (fence ++ line) ++
        '\n' :: (inside ++ '\x60' :: ('\x60' :: '\x60' :: after)) := by
      rw [hopen, hsplit, hclose]
      simp [fence]
    rw [hshape] at hbalanced
    exact not_balanced_between hbalanced (balanced_of_trimChars hw)
  · exact hnone hrest

/-! ## What is found -/

/-- In a text that is the JSON text of a container from end to end, the value in the first fenced
block is found, if it is JSON of the shape, and otherwise that container. -/
theorem extract?_of_bracketed (h : shape.brackets? = some (opening, closing)) {text : String}
    (htext : Bracketed opening closing text.toList) (hv : Json.parse? text = some v)
    (hshape : shape.admits v = true) :
    (∀ w, FencedValue shape text.toList w → extract? shape text = some w) ∧
      ((∀ w, ¬ FencedValue shape text.toList w) → extract? shape text = some v) := by
  obtain ⟨body, hbody⟩ := htext
  have hblank : Text.isBlank opening = false ∧ Text.isBlank closing = false := by
    have hpair := mem_bracketPairs_of_brackets? h
    rcases Json.bracketPairs_cases hpair with ⟨rfl, rfl⟩ | ⟨rfl, rfl⟩ <;> exact ⟨rfl, rfl⟩
  have htrim : Text.trimChars text.toList = text.toList := by
    rw [hbody]
    refine Text.trimChars_eq_self (fun c hc => ?_) fun c hc => ?_
    · obtain rfl := Option.some.inj hc
      exact hblank.1
    · rw [← List.cons_append, List.getLast?_concat] at hc
      obtain rfl := Option.some.inj hc
      exact hblank.2
  constructor
  · intro w hw
    refine (extract?_eq_some_iff h).2 (.inl ?_)
    rwa [htrim]
  · intro hnone
    refine (extract?_eq_some_iff h).2 (.inr ?_)
    rw [htrim]
    have hhead : text.toList.head? = some opening := by rw [hbody]; rfl
    exact ⟨hnone, 0, ⟨text.toList, List.prefix_refl _, hhead, hv, hshape⟩,
      fun j hj => absurd hj (Nat.not_lt_zero j)⟩

/-- The pretty text of an array or object gives that value, whatever its strings hold. So does the
compact text, unless its first fenced block, which can only stand inside of strings, is itself JSON
of the shape asked for; then the value of that block is found. -/
theorem extract?_serialized (h : shape.brackets? = some (opening, closing))
    (hshape : shape.admits v = true) (hv : v.ReadableTo Json.maxDepth) :
    extract? shape v.pretty = some v ∧
      (∀ w, FencedValue shape v.compact.toList w → extract? shape v.compact = some w) ∧
      ((∀ w, ¬ FencedValue shape v.compact.toList w) → extract? shape v.compact = some v) := by
  have hpretty := Json.parse?_pretty hv
  have hlines := onLines_pretty h hshape
  refine ⟨?_, extract?_of_bracketed h (bracketed_compact h hshape) (Json.parse?_compact hv) hshape⟩
  exact (extract?_of_bracketed h hlines.bracketed hpretty hshape).2
    (not_fencedValue_of_onLines (Json.balanced_of_ofChars? hpretty) hlines)

/-- An object with a string that reads as an empty object between fences. -/
def fencedString : Json :=
  .obj [("a", .str "\x60\x60\x60\x7b\x7d\x60\x60\x60"), ("b", .num (.int 7))]

theorem readableTo_fencedString : fencedString.ReadableTo Json.maxDepth := by
  refine ⟨by decide, List.forall_mem_cons.2 ⟨trivial, List.forall_mem_singleton.2 ?_⟩⟩
  exact Json.readsBack_int (by decide) (by decide)

theorem fencedValue_fencedString :
    FencedValue .object fencedString.compact.toList Json.empty := by
  refine filter_fenced?_eq_some_iff.1 ?_
  cbv

/-- The pretty text of such an object gives the object, and the compact one what the string reads
as. -/
theorem extract?_serialized_of_fencedString :
    (Shape.object.brackets? = some ('\x7b', '\x7d') ∧ Shape.object.admits fencedString = true ∧
        fencedString.ReadableTo Json.maxDepth) ∧
      extract? .object fencedString.pretty = some fencedString ∧
      extract? .object fencedString.compact = some Json.empty := by
  have hbrackets : Shape.object.brackets? = some ('\x7b', '\x7d') := rfl
  have hshape : Shape.object.admits fencedString = true := rfl
  obtain ⟨hpretty, hfenced, -⟩ := extract?_serialized hbrackets hshape readableTo_fencedString
  exact ⟨⟨hbrackets, hshape, readableTo_fencedString⟩, hpretty,
    hfenced _ fencedValue_fencedString⟩

/-- The compact text of a value need not give the value, though it is read back. -/
theorem lost_of_fencedString :
    Shape.object.admits fencedString = true ∧ fencedString.ReadableTo Json.maxDepth ∧
      Json.parse? fencedString.compact = some fencedString ∧
      extract? .object fencedString.compact ≠ some fencedString := by
  have hshape : Shape.object.admits fencedString = true := rfl
  have hparse := Json.parse?_compact readableTo_fencedString
  have hbrackets : Bracketed '\x7b' '\x7d' fencedString.compact.toList :=
    bracketed_compact rfl hshape
  have hfound := (extract?_of_bracketed rfl hbrackets hparse hshape).1 _ fencedValue_fencedString
  refine ⟨hshape, readableTo_fencedString, hparse, ?_⟩
  rw [hfound]
  rintro ⟨⟩

end Guardrail.Extraction
