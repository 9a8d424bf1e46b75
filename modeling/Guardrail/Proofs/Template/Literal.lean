import Guardrail.Template

/-!
# Texts as templates

A text is made into a template by doubling its dollar signs. Nothing of it is then taken for a
placeholder, whatever stands behind it, so rendering gives the text back.

Results:
* `pieces_escapeChars_append`: a doubled text is split into its characters.
* `renderChars_escapeChars_append`: it renders to itself in front of any template.
* `render_literal`: the template of a text renders to the text under all parameters.
-/

namespace Guardrail.Template

variable {c : Char} {rest : List Char} {params : Params}

/-! ## Pieces -/

theorem pieces_cons_of_ne (h : c ≠ '$') : pieces (c :: rest) = .char c :: pieces rest := by
  rw [pieces]
  · rintro _ rfl
    exact absurd rfl h
  · rintro _ rfl
    exact absurd rfl h

theorem pieces_dollar_dollar (rest : List Char) :
    pieces ('$' :: '$' :: rest) = .char '$' :: pieces rest := by
  rw [pieces]

/-- A text with doubled dollar signs is split into the characters of the text. What follows it is
split as it would be alone. -/
theorem pieces_escapeChars_append (text rest : List Char) :
    pieces (escapeChars text ++ rest) = text.map .char ++ pieces rest := by
  induction text with
  | nil => rfl
  | cons c text ih =>
    have hcons : escapeChars (c :: text) =
        (if c = '$' then ['$', '$'] else [c]) ++ escapeChars text := List.flatMap_cons
    rw [hcons]
    by_cases hc : c = '$'
    · subst hc
      show pieces ('$' :: '$' :: (escapeChars text ++ rest)) = _
      rw [pieces_dollar_dollar, ih]
      rfl
    · rw [if_neg hc]
      show pieces (c :: (escapeChars text ++ rest)) = _
      rw [pieces_cons_of_ne hc, ih]
      rfl

/-! ## Rendering -/

theorem flatMap_render_char (text : List Char) :
    (text.map Piece.char).flatMap (Piece.render params) = text := by
  induction text with
  | nil => rfl
  | cons c text ih =>
    show c :: (text.map Piece.char).flatMap (Piece.render params) = c :: text
    rw [ih]

/-- A text with doubled dollar signs renders to the text, whatever template follows it. -/
theorem renderChars_escapeChars_append (text template : List Char) (params : Params) :
    renderChars (escapeChars text ++ template) params = text ++ renderChars template params := by
  rw [renderChars_eq_flatMap, renderChars_eq_flatMap, pieces_escapeChars_append,
    List.flatMap_append, flatMap_render_char]

/-- The template of a text renders to the text, whatever names the parameters bind. -/
@[simp] theorem render_literal (text : String) (params : Params) :
    (literal text).render params = text := by
  have hnil : renderChars [] params = [] := by rw [renderChars]
  have h := renderChars_escapeChars_append text.toList [] params
  rw [hnil, List.append_nil, List.append_nil] at h
  unfold render literal
  rw [String.toList_ofList, h, String.ofList_toList]

end Guardrail.Template
