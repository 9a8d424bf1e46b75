import Mathlib.Data.List.Basic
import Guardrail.Proofs.Template.Literal

/-!
# Literal texts and placeholders of a template

A template falls into stretches of text, taken as they are written, and placeholders. The parts
follow from the template alone. Whatever the placeholders are bound to, the scan of the template
gives the parts one after another: a stretch of text with its doubled dollar signs read as one, a
placeholder as the text of its value, or as it is written if it is not bound. Values are therefore
never scanned, and parameters without a placeholder have no effect.

Results:
* `flatMap_source_split`: the parts make up the template.
* `plain_of_mem_split`: a stretch of text has no placeholder in it.
* `renderChars_eq_flatMap_split`: the scan gives the parts one after another.
* `render_law`: what a template renders to, alone and behind an escaped text.
-/

namespace Guardrail.Template

/-! ## Parts -/

/-- A text with two dollar signs in a row read as one, from the left. -/
def undouble : List Char → List Char
  | [] => []
  | '$' :: '$' :: rest => '$' :: undouble rest
  | c :: rest => c :: undouble rest

/-- A part of a template: a stretch of text as it is written, or a placeholder. -/
inductive Part
  | literal (text : List Char)
  | hole (name : List Char)
deriving DecidableEq

namespace Part

/-- A part as it is written. -/
def source : Part → List Char
  | .literal text => text
  | .hole name => '$' :: '\x7b' :: (name ++ ['\x7d'])

/-- What a part renders to. -/
def render (params : Params) : Part → List Char
  | .literal text => undouble text
  | .hole name =>
    match params.find? (String.ofList name) with
    | some value => value.plain.toList
    | none => (hole name).source

/-- The name of a placeholder. -/
def name? : Part → Option String
  | .literal _ => none
  | .hole name => some (String.ofList name)

end Part

/-- Text in front of parts. It joins a stretch of text that is there already. -/
def prepend (text : List Char) : List Part → List Part
  | .literal more :: parts => .literal (text ++ more) :: parts
  | parts => .literal text :: parts

/-- The parts of a template. -/
def split : List Char → List Part
  | [] => []
  | '$' :: '$' :: rest => prepend ['$', '$'] (split rest)
  | '$' :: '\x7b' :: body =>
    match _h : afterBrace body with
    | some rest => .hole (body.takeWhile (· != '\x7d')) :: split rest
    | none => prepend ['$'] (split ('\x7b' :: body))
  | c :: rest => prepend [c] (split rest)
termination_by cs => cs.length
decreasing_by
  · simp only [List.length_cons]
    omega
  · have := afterBrace_length _h
    simp only [List.length_cons]
    omega
  · simp only [List.length_cons]
    omega
  · simp only [List.length_cons]
    omega

/-- The names of the placeholders of a template. -/
def names (cs : List Char) : List String := (split cs).filterMap Part.name?

variable {c : Char} {cs rest text body shown : List Char} {parts : List Part}
  {params params' : Params}

/-! ## What is written -/

theorem eq_of_afterBrace (h : afterBrace body = some rest) :
    body = body.takeWhile (· != '\x7d') ++ '\x7d' :: rest := by
  induction body with
  | nil => cases h
  | cons c cs ih =>
    by_cases hc : c = '\x7d'
    · simp only [afterBrace, hc, if_true, Option.some.injEq] at h
      simp [hc, h]
    · simp only [afterBrace, hc, if_false] at h
      have hrest := ih h
      rw [List.takeWhile_cons_of_pos (by simpa using hc), List.cons_append, ← hrest]

theorem afterBrace_eq_none_iff : afterBrace body = none ↔ '\x7d' ∉ body := by
  induction body with
  | nil => simp [afterBrace]
  | cons c cs ih =>
    by_cases hc : c = '\x7d'
    · simp [afterBrace, hc]
    · simp [afterBrace, hc, ih, Ne.symm hc]

theorem flatMap_source_prepend :
    (prepend text parts).flatMap Part.source = text ++ parts.flatMap Part.source := by
  unfold prepend
  split
  · simp [Part.source]
  · simp [Part.source]

/-- The parts of a template make up the template. -/
theorem flatMap_source_split (cs : List Char) : (split cs).flatMap Part.source = cs := by
  fun_induction split cs with
  | case1 => rfl
  | case2 rest ih => rw [flatMap_source_prepend, ih]; rfl
  | case3 body rest h ih =>
    have hbody := eq_of_afterBrace h
    rw [List.flatMap_cons, ih]
    simp [Part.source, ← hbody]
  | case4 body h ih => rw [flatMap_source_prepend, ih]; rfl
  | case5 c rest hdollar hbrace ih => rw [flatMap_source_prepend, ih]; rfl

/-! ## Characters that stand for themselves -/

/-- In front of the text a character begins neither an escape nor a placeholder. -/
def Stands (c : Char) (text : List Char) : Prop :=
  c = '$' → (∀ more, text ≠ '$' :: more) ∧ ∀ more, text = '\x7b' :: more → '\x7d' ∉ more

theorem stands_of_unclosed (h : afterBrace body = none) : Stands '$' ('\x7b' :: body) := by
  intro _
  constructor
  · intro more heq
    obtain ⟨hc, -⟩ := List.cons.inj heq
    exact absurd hc (by decide)
  · intro more heq
    obtain ⟨-, rfl⟩ := List.cons.inj heq
    exact afterBrace_eq_none_iff.1 h

theorem stands_of_other (hdollar : ∀ more, c = '$' → text = '$' :: more → False)
    (hbrace : ∀ more, c = '$' → text = '\x7b' :: more → False) : Stands c text := by
  intro hc
  constructor
  · intro more heq
    exact hdollar more hc heq
  · intro more heq
    exact absurd heq (hbrace more hc)

/-- It does not matter where the text ends. -/
theorem Stands.of_prefix (h : Stands c rest) (htext : text <+: rest) : Stands c text := by
  intro hc
  obtain ⟨hdollar, hbrace⟩ := h hc
  obtain ⟨behind, rfl⟩ := htext
  constructor
  · rintro more rfl
    exact hdollar _ rfl
  · rintro more rfl hmem
    exact hbrace _ rfl (List.mem_append_left _ hmem)

theorem undouble_cons (h : Stands c text) : undouble (c :: text) = c :: undouble text := by
  rw [undouble]
  intro more hc htext
  exact (h hc).1 more htext

theorem renderChars_cons (h : Stands c text) :
    renderChars (c :: text) params = c :: renderChars text params := by
  rw [renderChars.eq_def]
  split
  · next heq => cases heq
  · next rest heq =>
    obtain ⟨rfl, rfl⟩ := List.cons.inj heq
    exact absurd rfl ((h rfl).1 rest)
  · next body heq =>
    obtain ⟨rfl, rfl⟩ := List.cons.inj heq
    have hnone := afterBrace_eq_none_iff.2 ((h rfl).2 body rfl)
    split
    · next hsome => cases hnone.symm.trans hsome
    · rfl
  · next heq =>
    obtain ⟨rfl, rfl⟩ := List.cons.inj heq
    rfl

/-! ## What is rendered -/

/-- Text in front of parts renders to something of its own, if it does so in front of whatever the
parts begin with. -/
theorem flatMap_render_prepend
    (h : ∀ more, more <+: parts.flatMap Part.source →
      undouble (text ++ more) = shown ++ undouble more) :
    (prepend text parts).flatMap (Part.render params) =
      shown ++ parts.flatMap (Part.render params) := by
  have hnil : undouble text = shown := by simpa [undouble] using h [] List.nil_prefix
  unfold prepend
  split
  · next more parts =>
    have hmore : more <+: (Part.literal more :: parts).flatMap Part.source := ⟨_, rfl⟩
    simp [Part.render, h more hmore]
  · simp [Part.render, hnil]

theorem flatMap_render_of_stands (h : Stands c rest) :
    (prepend [c] (split rest)).flatMap (Part.render params) =
      [c] ++ (split rest).flatMap (Part.render params) := by
  apply flatMap_render_prepend
  intro more hmore
  rw [flatMap_source_split] at hmore
  exact undouble_cons (h.of_prefix hmore)

/-- The scan gives the parts one after another. -/
theorem renderChars_eq_flatMap_split (cs : List Char) (params : Params) :
    renderChars cs params = (split cs).flatMap (Part.render params) := by
  fun_induction split cs with
  | case1 => simp [renderChars]
  | case2 rest ih =>
    have hshown : (prepend ['$', '$'] (split rest)).flatMap (Part.render params) =
        ['$'] ++ (split rest).flatMap (Part.render params) := by
      apply flatMap_render_prepend
      intro more _
      simp [undouble]
    rw [hshown, ← ih, renderChars]
    rfl
  | case3 body rest h ih =>
    rw [renderChars, List.flatMap_cons, ← ih]
    split
    · next h' =>
      obtain rfl := Option.some.inj (h.symm.trans h')
      rfl
    · next h' => cases h.symm.trans h'
  | case4 body h ih =>
    have hstands := stands_of_unclosed h
    rw [flatMap_render_of_stands hstands, renderChars_cons hstands, ih, List.singleton_append]
  | case5 c rest hdollar hbrace ih =>
    have hstands : Stands c rest := stands_of_other hdollar hbrace
    rw [flatMap_render_of_stands hstands, renderChars_cons hstands, ih, List.singleton_append]

/-- Values of names that the template does not have play no part. -/
theorem renderChars_congr (h : ∀ name ∈ names cs, params.find? name = params'.find? name) :
    renderChars cs params = renderChars cs params' := by
  rw [renderChars_eq_flatMap_split, renderChars_eq_flatMap_split]
  apply List.flatMap_congr
  intro part hpart
  cases part with
  | literal text => rfl
  | hole name =>
    have hname : String.ofList name ∈ names cs := List.mem_filterMap.2 ⟨_, hpart, rfl⟩
    simp only [Part.render, h _ hname]

/-! ## Stretches of text -/

/-- What holds of all stretches of text in some parts, and is passed on to what begins with text put
in front of them, holds of all stretches of text afterwards. -/
theorem forall_literal_prepend {P : List Char → Prop} (hnil : P [])
    (hparts : ∀ more, .literal more ∈ parts → P more)
    (hfront : ∀ more, more <+: parts.flatMap Part.source → P more → P (text ++ more)) :
    ∀ more, .literal more ∈ prepend text parts → P more := by
  intro more hmem
  unfold prepend at hmem
  split at hmem
  · next first parts =>
    rcases List.mem_cons.1 hmem with heq | hrest
    · rw [Part.literal.inj heq]
      exact hfront first ⟨_, rfl⟩ (hparts first List.mem_cons_self)
    · exact hparts more (List.mem_cons_of_mem _ hrest)
  · rcases List.mem_cons.1 hmem with heq | hrest
    · rw [Part.literal.inj heq, ← List.append_nil text]
      exact hfront [] List.nil_prefix hnil
    · exact hparts more hrest

/-- A text has no placeholder in it, whatever names are bound. -/
def Plain (text : List Char) : Prop := ∀ params, renderChars text params = undouble text

theorem plain_nil : Plain [] := by
  intro params
  rw [renderChars, undouble]

theorem Plain.cons (h : Plain text) (hc : Stands c text) : Plain (c :: text) := by
  intro params
  rw [renderChars_cons hc, undouble_cons hc, h params]

theorem Plain.escape (h : Plain text) : Plain ('$' :: '$' :: text) := by
  intro params
  rw [renderChars, undouble, h params]

theorem forall_plain_prepend (h : Stands c rest)
    (hrest : ∀ text, .literal text ∈ split rest → Plain text) :
    ∀ text, .literal text ∈ prepend [c] (split rest) → Plain text := by
  apply forall_literal_prepend plain_nil hrest
  intro more hmore hplain
  rw [flatMap_source_split] at hmore
  exact hplain.cons (h.of_prefix hmore)

/-- A stretch of text has no placeholder in it. -/
theorem plain_of_mem_split (cs : List Char) : ∀ text, .literal text ∈ split cs → Plain text := by
  fun_induction split cs with
  | case1 => simp
  | case2 rest ih =>
    apply forall_literal_prepend plain_nil ih
    intro more _ hplain
    exact hplain.escape
  | case3 body rest h ih =>
    intro text hmem
    exact ih text (by simpa using hmem)
  | case4 body h ih => exact forall_plain_prepend (stands_of_unclosed h) ih
  | case5 c rest hdollar hbrace ih =>
    exact forall_plain_prepend (stands_of_other hdollar hbrace) ih

/-! ## Templates -/

/-- A template falls into stretches of text without placeholders and placeholders. Whatever the
parameters, it renders to the stretches of text, in which two dollar signs are read as one, and the
values of the placeholders, or the placeholders as they are written, one after another. Parameters
that agree on its placeholders give the same text. An escaped text in front of a template comes out
as it was, followed by what the template renders to, and so does an escaped text alone. -/
theorem render_law (t : Template) :
    let parts := split t.source.toList
    parts.flatMap Part.source = t.source.toList ∧
      (∀ text, .literal text ∈ parts → ∀ params, renderChars text params = undouble text) ∧
      (∀ params, (t.render params).toList = parts.flatMap (Part.render params)) ∧
      (∀ params params' : Params,
        (∀ name ∈ names t.source.toList, params.find? name = params'.find? name) →
          t.render params = t.render params') ∧
      (∀ text params,
        render ⟨(literal text).source ++ t.source⟩ params = text ++ t.render params) ∧
      ∀ text params, (literal text).render params = text := by
  intro parts
  refine ⟨flatMap_source_split _, ?_, ?_, ?_, ?_, render_literal⟩
  · intro text htext params
    exact plain_of_mem_split _ text htext params
  · intro params
    rw [render, String.toList_ofList, renderChars_eq_flatMap_split]
  · intro params params' h
    rw [render, render, renderChars_congr h]
  · intro text params
    simp only [render, literal, String.toList_append, String.toList_ofList,
      renderChars_escapeChars_append, String.ofList_append, String.ofList_toList]

/-- An escape, a dollar sign alone, a placeholder, one with a placeholder begun in its name, and a
placeholder that is never closed. -/
example : split "$$5 $ $\x7bx\x7d$\x7ba$\x7bb\x7d $\x7bx".toList =
    [.literal "$$5 $ ".toList, .hole ['x'], .hole "a$\x7bb".toList,
      .literal " $\x7bx".toList] := by
  cbv

end Guardrail.Template
