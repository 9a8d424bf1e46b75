import Guardrail.Path.Text
import Guardrail.Reask.Prune
import Guardrail.Record.Inputs
import Guardrail.Schema
import Guardrail.Verdict

/-!
# Asking again

The inputs of a round in which the target is to correct its last output. The prompt shows what was
wrong and what is wanted: the whole output and schema, or, field by field, the parts of them that
have to be corrected. Prompt and instructions are filled in at once and kept as templates that
render to themselves, so nothing that they show is taken for a placeholder. Section B6.9 of the
specification says what the prompts show.
-/

namespace Guardrail.Reask

/-- The prompt that asks for another text (`STRING_REASK_PROMPT`). -/
def textPrompt : Template :=
  ⟨"This was a previous response you generated:\n\n" ++
    "======\n\n" ++
    "$\x7bprevious_response\x7d\n\n" ++
    "======\n\n" ++
    "Generate a new response that corrects your old response such that the following issues " ++
    "are fixed\n$\x7berror_messages\x7d\n\n" ++
    "Your generated response should satisfy the following properties:\n" ++
    "$\x7boutput_schema\x7d\n\n" ++
    "Don't talk; just go."⟩

/-- The prompt that asks for another JSON value (`JSON_REASK_PROMPT`). -/
def jsonPrompt : Template :=
  ⟨"I was given the following JSON response, which had problems due to incorrect values.\n\n" ++
    "$\x7bprevious_response\x7d\n\n" ++
    "Help me correct the incorrect values based on the given error messages.\n\n" ++
    "Given below is a JSON schema that describes the information to extract and the shape to " ++
    "extract it into.\n\n" ++
    "$\x7boutput_schema\x7d\n\n" ++
    "ONLY return valid JSON of type $\x7boutput_type\x7d (no other text is necessary), where " ++
    "each key matches a key in the schema. If you are unsure anywhere, enter `null`."⟩

/-- The instructions that go with the prompt for a JSON value (`JSON_REASK_INSTRUCTIONS`). -/
def jsonInstructions : String :=
  "You are a helpful assistant only capable of communicating with valid JSON, and no other text."

/-- Templates for asking again, if they are not to be the built-in ones (`ReaskTemplates`). -/
structure Templates where
  prompt : Option Template
  instructions : Option Template
deriving Inhabited

/-- What is to be corrected (`ReaskRequest`). -/
structure Request where
  schema : Schema
  corrections : List Correction
  /-- The last output, with markers for what is to be corrected. -/
  annotated : Json
  /-- Whether the whole output and schema are shown. -/
  fullSchema : Bool

namespace Request

/-- The paths of the values to be corrected. -/
def paths (r : Request) : List Path :=
  r.corrections.filterMap fun c => (Path.parse c.path).toOption

/-- A string as it is, any other value in pretty form. -/
def shown : Json → String
  | .str s => s
  | j => j.pretty

/-- The last response as the prompt shows it. -/
def previousResponse (r : Request) : String :=
  if r.schema.shape.isStructured then
    if r.fullSchema then r.annotated.pretty
    else ((pruneValue r.paths r.annotated).getD r.annotated).pretty
  else
    match r.corrections.find? (·.path == "$") with
    | some c => shown c.incorrect
    | none => r.annotated.pretty

/-- The schema as the prompt shows it. -/
def outputSchema (r : Request) : String :=
  if r.schema.shape.isStructured && !r.fullSchema then
    { r.schema with document := pruneSchema r.paths r.schema.document }.render
  else r.schema.render

/-- The messages of the failures, a line for each. -/
def errorMessages (r : Request) : String :=
  String.intercalate "\n" (r.corrections.flatMap fun c => c.messages.map fun m =>
    if r.schema.shape.isStructured then "- " ++ c.path ++ ": " ++ m else "- " ++ m)

/-- The parameters of the prompt (`reask_params`): those of the call, and what is to be corrected.
-/
def params (r : Request) (base : Params) : Params :=
  ((((Dict.insert base "previous_response" (.str r.previousResponse)).insert
    "error_messages" (.str r.errorMessages)).insert
    "output_schema" (.str r.outputSchema)).insert
    "output_type" (.str r.schema.shape.name))

end Request

/-- A template filled in, as a template that renders to itself. -/
def settled (t : Template) (params : Params) : Template := .literal (t.render params)

/-- The inputs of the round that is to correct the output of a round with the inputs `previous`
(`build_reask_inputs`). Without a template, the instructions for a text stay as they are. -/
def inputs (previous : Inputs) (r : Request) (templates : Templates) : Inputs :=
  let structured := r.schema.shape.isStructured
  let params := r.params previous.params
  let template := templates.prompt.getD (if structured then jsonPrompt else textPrompt)
  let prompt := settled template params
  let instructions := match templates.instructions with
    | some t => some (settled t params)
    | none => if structured then some (.literal jsonInstructions) else previous.instructions
  previous.forReask prompt instructions

end Guardrail.Reask
