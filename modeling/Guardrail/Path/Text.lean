import Guardrail.Error
import Guardrail.Path.Basic
import Guardrail.Text.Alphanumeric
import Guardrail.Text.Blank
import Guardrail.Text.Natural

/-!
# Paths as text

A path is written as `$` followed by its steps: `.name` for a key of letters, numbers, `_` and `-`,
`['name']` for any other key, `[0]` for an index and `[*]` for a wildcard.

Reading is more liberal: the `$` may be missing, and so may the point of a key that comes first; a
key after a point runs to the next point or bracket; keys in brackets may stand in either kind of
quotes; the empty text, `$` and `output` are the root.
-/

namespace Guardrail.Path

/-! ## Writing -/

/-- Whether a character may stand in a key that is written after a point. -/
def isPlainChar (c : Char) : Bool := Text.isAlphanumeric c || c == '_' || c == '-'

/-- Whether a key is written after a point (`is_plain_key`). -/
def isPlainKey (key : String) : Bool :=
  !key.isEmpty && key != "*" && key.toList.all isPlainChar

/-- The text of a step. -/
def renderSegment : Segment → String
  | .key k => if isPlainKey k then "." ++ k else "['" ++ k ++ "']"
  | .index i => "[" ++ toString i ++ "]"
  | .wildcard => "[*]"

/-- The text of a path. -/
def render (p : Path) : String := p.foldl (fun text s => text ++ renderSegment s) "$"

/-! ## Reading -/

/-- What is wrong with a text that is no path. -/
inductive Fault
  | emptyKey
  | unterminatedBracket
  | bracketContent
  | stepExpected
deriving DecidableEq

/-- The wording of a fault. -/
def Fault.message : Fault → String
  | .emptyKey => "empty key"
  | .unterminatedBracket => "unterminated '['"
  | .bracketContent => "bracket must hold an index, '*', or a quoted key"
  | .stepExpected => "expected '.' or '['"

/-- Whether a character ends a key that stands after a point. -/
def endsKey (c : Char) : Bool := c == '.' || c == '['

/-- The step of a key that stands after a point. -/
def keySegment? (key : List Char) : Except Fault Segment :=
  if key = [] then .error .emptyKey
  else if key = ['*'] then .ok .wildcard
  else .ok (.key (String.ofList key))

/-- What stands between two equal quotes. -/
def unquote? (quote : Char) : List Char → Option (List Char)
  | [] => none
  | c :: rest => if c = quote ∧ rest.getLast? = some quote then some rest.dropLast else none

/-- The step of what stands in brackets (`parse_bracket`). -/
def bracketSegment? (body : List Char) : Except Fault Segment :=
  let body := Text.trimChars body
  if body = ['*'] then .ok .wildcard
  else
    match Text.nat? 64 body with
    | some i => .ok (.index i)
    | none =>
      match (unquote? '\'' body).or (unquote? '"' body) with
      | some key => .ok (.key (String.ofList key))
      | none => .error .bracketContent

/-- The part of a text before the first closing bracket, and the part after it. -/
def splitBracket? : List Char → Option (List Char × List Char)
  | [] => none
  | c :: rest =>
    if c = ']' then some ([], rest)
    else (splitBracket? rest).map fun (body, after) => (c :: body, after)

theorem splitBracket?_length {cs body after : List Char}
    (h : splitBracket? cs = some (body, after)) : after.length < cs.length := by
  induction cs generalizing body after with
  | nil => simp [splitBracket?] at h
  | cons c cs ih =>
    by_cases hc : c = ']'
    · simp only [splitBracket?, hc, if_true, Option.some.injEq, Prod.mk.injEq] at h
      simp [← h.2]
    · simp only [splitBracket?, hc, if_false, Option.map_eq_some_iff] at h
      obtain ⟨⟨b, a⟩, hb, heq⟩ := h
      simp only [Prod.mk.injEq] at heq
      have := ih hb
      simp only [List.length_cons, ← heq.2]
      omega

/-- The steps of a text. -/
def segments? : List Char → Except Fault Path
  | [] => .ok []
  | '.' :: rest => do
    let s ← keySegment? (rest.takeWhile (!endsKey ·))
    let p ← segments? (rest.dropWhile (!endsKey ·))
    return s :: p
  | '[' :: rest =>
    match _h : splitBracket? rest with
    | none => .error .unterminatedBracket
    | some (body, after) => do
      let s ← bracketSegment? body
      let p ← segments? after
      return s :: p
  | _ :: _ => .error .stepExpected
termination_by cs => cs.length
decreasing_by
  all_goals simp_wf
  · have := (List.dropWhile_suffix (!endsKey ·) (l := rest)).length_le
    omega
  · have := splitBracket?_length _h
    omega

/-- The path that a text stands for. -/
def ofChars? (cs : List Char) : Except Fault Path :=
  let cs := Text.trimChars cs
  if cs = [] ∨ cs = ['$'] ∨ cs = "output".toList then .ok root
  else
    let rest := match cs with
      | '$' :: rest => rest
      | cs => cs
    match rest with
    | '.' :: _ | '[' :: _ => segments? rest
    | _ => segments? ('.' :: rest)

/-- The path that a text stands for (`parse`). -/
def parse (text : String) : Except ConfigError Path :=
  match ofChars? text.toList with
  | .ok p => .ok p
  | .error fault => .error (.invalidPath text fault.message)

end Guardrail.Path
