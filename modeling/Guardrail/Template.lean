import Guardrail.Json.Writer

/-!
# Templates

A template is a text with placeholders `${name}`. Rendering scans it once: every placeholder that is
bound is replaced by the text of its value, and the others stay as they are. Two dollar signs stand
for one; any other dollar sign stands for itself. Section B6.7 of the specification describes
templates.

* `pieces`: the characters and placeholders of a template, whatever the placeholders are bound to.
* `render_eq_flatMap`: rendering is one pass over the pieces, so inserted text is never looked at
  again.
-/

namespace Guardrail

/-- Values for placeholders (`PromptParams`). -/
abbrev Params := Dict Json

/-- A part of a template. -/
inductive Piece
  /-- A character that stands for itself, or the one written as two dollar signs. -/
  | char (c : Char)
  /-- A placeholder. -/
  | hole (name : List Char)
deriving DecidableEq

namespace Piece

/-- The text of a piece. -/
def render (params : Params) : Piece → List Char
  | .char c => [c]
  | .hole name =>
    match params.find? (String.ofList name) with
    | some value => value.plain.toList
    | none => '$' :: '\x7b' :: (name ++ ['\x7d'])

end Piece

namespace Template

/-- What follows the first closing brace. -/
def afterBrace : List Char → Option (List Char)
  | [] => none
  | c :: rest => if c = '\x7d' then some rest else afterBrace rest

theorem afterBrace_length {cs rest : List Char} (h : afterBrace cs = some rest) :
    rest.length < cs.length := by
  induction cs with
  | nil => simp [afterBrace] at h
  | cons c cs ih =>
    by_cases hc : c = '\x7d'
    · simp only [afterBrace, hc, if_true, Option.some.injEq] at h
      simp [← h]
    · simp only [afterBrace, hc, if_false] at h
      have := ih h
      simp only [List.length_cons]
      omega

/-- The pieces of a template. -/
def pieces : List Char → List Piece
  | [] => []
  | '$' :: '$' :: rest => .char '$' :: pieces rest
  | '$' :: '\x7b' :: body =>
    match _h : afterBrace body with
    | some rest => .hole (body.takeWhile (· != '\x7d')) :: pieces rest
    | none => .char '$' :: pieces ('\x7b' :: body)
  | c :: rest => .char c :: pieces rest
termination_by cs => cs.length
decreasing_by
  · simp only [List.length_cons]
    omega
  · have := afterBrace_length _h
    simp only [List.length_cons]
    omega
  · simp only [List.length_cons]
    omega
  · simp only [List.length_cons]
    omega

/-- A template with its placeholders filled in, in one scan (`substitute`). -/
def renderChars (template : List Char) (params : Params) : List Char :=
  match template with
  | [] => []
  | '$' :: '$' :: rest => '$' :: renderChars rest params
  | '$' :: '\x7b' :: body =>
    match _h : afterBrace body with
    | some rest =>
      (Piece.hole (body.takeWhile (· != '\x7d'))).render params ++ renderChars rest params
    | none => '$' :: renderChars ('\x7b' :: body) params
  | c :: rest => c :: renderChars rest params
termination_by template.length
decreasing_by
  · simp only [List.length_cons]
    omega
  · have := afterBrace_length _h
    simp only [List.length_cons]
    omega
  · simp only [List.length_cons]
    omega
  · simp only [List.length_cons]
    omega

/-- A text as a template that renders to it (`escape`): every dollar sign is doubled. -/
def escapeChars (text : List Char) : List Char :=
  text.flatMap fun c => if c = '$' then ['$', '$'] else [c]

end Template

/-- A template for a prompt or for instructions (`Prompt` and `Instructions`). -/
structure Template where
  source : String
deriving DecidableEq, Inhabited

namespace Template

/-- A template with its placeholders filled in (`format`). -/
def render (t : Template) (params : Params) : String :=
  String.ofList (renderChars t.source.toList params)

/-- The template that renders to a text, whatever the parameters. -/
def literal (text : String) : Template := ⟨String.ofList (escapeChars text.toList)⟩

/-- The scan goes over the pieces of the template and over nothing else. -/
theorem renderChars_eq_flatMap (template : List Char) (params : Params) :
    renderChars template params = (pieces template).flatMap (Piece.render params) := by
  fun_induction pieces template with
  | case1 => simp [renderChars]
  | case2 rest ih => simp [renderChars, ih, Piece.render]
  | case3 body rest h ih =>
    rw [renderChars, List.flatMap_cons, ← ih]
    split
    · next h' => rw [Option.some.inj (h.symm.trans h')]
    · next h' => cases h.symm.trans h'
  | case4 body h ih =>
    rw [renderChars, List.flatMap_cons, ← ih]
    split
    · next h' => cases h.symm.trans h'
    · rfl
  | case5 c rest hdollar hbrace ih =>
    rw [renderChars, List.flatMap_cons, ← ih]
    · rfl
    · exact hdollar
    · exact hbrace

theorem render_eq_flatMap (t : Template) (params : Params) :
    (t.render params).toList = (pieces t.source.toList).flatMap (Piece.render params) := by
  rw [render, String.toList_ofList, renderChars_eq_flatMap]

/-- A template is written as its source. -/
def toJson (t : Template) : Json := .str t.source

/-- Reads a template. -/
def ofJson? (j : Json) : Option Template := j.str?.map Template.mk

end Template
end Guardrail
