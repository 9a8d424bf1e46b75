import Guardrail.Outcome
import Guardrail.Proofs.Json.Fields

/-!
# Records read back

What is on record of a call is kept as JSON and read back later. The inputs of a call come back as
they were. In the outputs of a round and in an outcome one thing is lost: where a record has room
for a value or none, null is read as none. It can stand for the value that was found in a text, for
the validated value, and for a fix that was proposed. Nothing else changes, so the status of a
round, whether something has to be corrected, and which validators failed can be read off the record
as well as off the original.

Results:
* `Inputs.ofRecord?_of_holds`, `CallInputs.ofJson?_toJson`: inputs are read back.
* `Failure.ofJson?_toJson`, `Verdict.ofJson?_toJson`, `Correction.ofJson?_toJson`,
  `LogEntry.ofJson?_toJson`: the parts of outputs, without null for a fix.
* `Outputs.ofJson?_toJson`, `Outcome.ofJson?_toJson`: outputs and outcomes, without null for a
  value.
* `records_reread`: what is lost, and when nothing is.
-/

namespace Guardrail

open Json (Field Record)

/-! ## Null for a value -/

section Null

theorem filter_eq_self_iff (value : Option Json) :
    value.filter (!·.isNull) = value ↔ value ≠ some .null := by
  cases value with
  | none => simp
  | some j => cases j <;> simp [Json.isNull]

theorem map_eq_self_iff {α : Type} {f : α → α} {xs : List α} :
    xs.map f = xs ↔ ∀ x ∈ xs, f x = x := by
  simpa using List.map_inj_left (f := f) (g := id) (l := xs)

namespace Failure

/-- The failure, where null is no fix. -/
def withoutNull (f : Failure) : Failure := { f with fix := f.fix.filter (!·.isNull) }

/-- Null is proposed as a fix. -/
def HoldsNull (f : Failure) : Prop := f.fix = some .null

theorem withoutNull_eq_self_iff (f : Failure) : f.withoutNull = f ↔ ¬ f.HoldsNull := by
  rw [HoldsNull, ← ne_eq, ← filter_eq_self_iff]
  exact ⟨congrArg Failure.fix, fun h => by rw [withoutNull, h]⟩

end Failure

namespace Verdict

/-- The verdict, where null is no fix. -/
def withoutNull : Verdict → Verdict
  | .pass => .pass
  | .fail f => .fail f.withoutNull

/-- Null is proposed as a fix. -/
def HoldsNull (v : Verdict) : Prop := ∃ f, v = .fail f ∧ f.HoldsNull

theorem withoutNull_eq_self_iff (v : Verdict) : v.withoutNull = v ↔ ¬ v.HoldsNull := by
  cases v with
  | pass => simp [withoutNull, HoldsNull]
  | fail f => simp [withoutNull, HoldsNull, f.withoutNull_eq_self_iff]

theorem isPass_withoutNull (v : Verdict) : v.withoutNull.isPass = v.isPass := by
  cases v <;> rfl

end Verdict

namespace Correction

/-- The correction, where null is no fix. -/
def withoutNull (c : Correction) : Correction :=
  { c with failures := c.failures.map Failure.withoutNull }

/-- Null is proposed as a fix by one of the failures. -/
def HoldsNull (c : Correction) : Prop := ∃ f ∈ c.failures, f.HoldsNull

theorem withoutNull_eq_self_iff (c : Correction) : c.withoutNull = c ↔ ¬ c.HoldsNull := by
  have hfailures : c.failures.map Failure.withoutNull = c.failures ↔ ¬ c.HoldsNull := by
    simp [map_eq_self_iff, Failure.withoutNull_eq_self_iff, HoldsNull]
  rw [← hfailures]
  exact ⟨congrArg Correction.failures, fun h => by rw [withoutNull, h]⟩

end Correction

namespace LogEntry

/-- The log entry, where null is no fix. -/
def withoutNull (l : LogEntry) : LogEntry := { l with verdict := l.verdict.withoutNull }

/-- Null is proposed as a fix. -/
def HoldsNull (l : LogEntry) : Prop := l.verdict.HoldsNull

theorem withoutNull_eq_self_iff (l : LogEntry) : l.withoutNull = l ↔ ¬ l.HoldsNull := by
  rw [HoldsNull, ← Verdict.withoutNull_eq_self_iff]
  exact ⟨congrArg LogEntry.verdict, fun h => by rw [withoutNull, h]⟩

theorem isFailure_withoutNull (l : LogEntry) : l.withoutNull.isFailure = l.isFailure := by
  rw [isFailure, isFailure, withoutNull, Verdict.isPass_withoutNull]

theorem isBlockingFailure_withoutNull (l : LogEntry) :
    l.withoutNull.isBlockingFailure = l.isBlockingFailure := by
  rw [isBlockingFailure, isBlockingFailure, isFailure_withoutNull]
  rfl

end LogEntry

namespace Outputs

/-- The outputs, where null is no value. -/
def withoutNull (o : Outputs) : Outputs :=
  { o with
    parsed := o.parsed.filter (!·.isNull)
    validated := o.validated.filter (!·.isNull)
    reasks := o.reasks.map Correction.withoutNull
    logs := o.logs.map LogEntry.withoutNull }

/-- Null stands for a value that was found or validated, or is proposed as a fix. -/
def HoldsNull (o : Outputs) : Prop :=
  o.parsed = some .null ∨ o.validated = some .null ∨ (∃ c ∈ o.reasks, c.HoldsNull) ∨
    ∃ l ∈ o.logs, l.HoldsNull

theorem withoutNull_eq_self_iff (o : Outputs) : o.withoutNull = o ↔ ¬ o.HoldsNull := by
  cases o
  simp only [withoutNull, HoldsNull, mk.injEq, filter_eq_self_iff, map_eq_self_iff,
    Correction.withoutNull_eq_self_iff, LogEntry.withoutNull_eq_self_iff]
  simp

theorem failures_withoutNull (o : Outputs) :
    o.withoutNull.failures = o.failures.map LogEntry.withoutNull := by
  rw [failures, failures, withoutNull, List.filter_map]
  exact congrArg (fun p => (o.logs.filter p).map LogEntry.withoutNull)
    (funext LogEntry.isFailure_withoutNull)

theorem status_withoutNull (o : Outputs) : o.withoutNull.status = o.status := by
  have hlogs : (o.logs.map LogEntry.withoutNull).any (·.isBlockingFailure) =
      o.logs.any (·.isBlockingFailure) := by
    rw [List.any_map]
    exact congrArg o.logs.any (funext LogEntry.isBlockingFailure_withoutNull)
  simp only [status, withoutNull, List.isEmpty_map, hlogs]

end Outputs

namespace Outcome

/-- The outcome, where null is no value. -/
def withoutNull (o : Outcome) : Outcome :=
  { o with
    validated := o.validated.filter (!·.isNull)
    reasks := o.reasks.map Correction.withoutNull }

/-- Null stands for the validated value, or is proposed as a fix. -/
def HoldsNull (o : Outcome) : Prop :=
  o.validated = some .null ∨ ∃ c ∈ o.reasks, c.HoldsNull

theorem withoutNull_eq_self_iff (o : Outcome) : o.withoutNull = o ↔ ¬ o.HoldsNull := by
  cases o
  simp only [withoutNull, HoldsNull, mk.injEq, filter_eq_self_iff, map_eq_self_iff,
    Correction.withoutNull_eq_self_iff]
  simp

end Outcome

end Null

/-! ## Inputs -/

section Inputs

theorem Role.ofLooseJson?_name (role : Role) : ofLooseJson? (.str role.name) = some role := by
  cases role <;> rfl

variable {role? : Json → Option Role}

theorem Message.read?_toJson (hrole : ∀ role : Role, role? (.str role.name) = some role)
    (m : Message) : Message.read? role? m.toJson = some m := by
  obtain ⟨r, hr, h⟩ := Record.exists_record (j := m.toJson) ["role", "content"] rfl rfl (by decide)
  have hspeaker : r.required "role" role? = some m.role :=
    (h.required "role" (.str m.role.name) (by simp) role?).trans (hrole m.role)
  have hcontent : r.required "content" Json.str? = some m.content :=
    h.required "content" (.str m.content) (by simp) Json.str?
  rw [Message.read?, hr]
  simp only [Option.bind_eq_bind, Option.bind_some, hspeaker, hcontent]
  rfl

/-- Inputs are read back from a record that holds their fields, whatever else it holds. -/
theorem Inputs.ofRecord?_of_holds {r : Record} {i : Inputs} (h : r.Holds i.fields)
    (hrole : ∀ role : Role, role? (.str role.name) = some role)
    (hretries : i.retries < Nat.pow 2 32) : Inputs.ofRecord? role? r = some i := by
  have htarget : r.optional "llm_api" Json.str? = some i.target :=
    h.optional "llm_api" .str i.target (by simp [fields]) (by simp) (by simp [Json.str?])
  have houtput : r.optional "llm_output" Json.str? = some i.output :=
    h.optional "llm_output" .str i.output (by simp [fields]) (by simp) (by simp [Json.str?])
  have hprompt : r.optional "prompt" Template.ofJson? = some i.prompt :=
    h.optional "prompt" Template.toJson i.prompt (by simp [fields]) (by simp [Template.toJson])
      fun _ _ => rfl
  have hinstructions : r.optional "instructions" Template.ofJson? = some i.instructions :=
    h.optional "instructions" Template.toJson i.instructions (by simp [fields])
      (by simp [Template.toJson]) fun _ _ => rfl
  have hmessages : r.optional "msg_history" (Json.list? (Message.read? role?)) =
      some i.messages := by
    refine h.optional "msg_history" (fun ms => .arr (ms.map Message.toJson)) i.messages
      (by simp [fields]) (by simp) fun ms _ => ?_
    have hlist := Json.list?_map (g := id) fun m (_ : m ∈ ms) => Message.read?_toJson hrole m
    rwa [List.map_id] at hlist
  have hparams : r.defaulted "prompt_params" Json.members? [] = some i.params :=
    h.defaulted "prompt_params" (.obj i.params) (by simp [fields]) Json.members? []
  have hbudget : r.required "num_reasks" (Json.nat? 32) = some i.retries :=
    (h.required "num_reasks" (.ofNat i.retries) (by simp [fields]) (Json.nat? 32)).trans
      (Json.nat?_ofNat hretries)
  have hmetadata : r.defaulted "metadata" Json.members? [] = some i.metadata :=
    h.defaulted "metadata" (.obj i.metadata) (by simp [fields]) Json.members? []
  have hfull : r.required "full_schema_reask" Json.bool? = some i.fullSchema :=
    h.required "full_schema_reask" (.bool i.fullSchema) (by simp [fields]) Json.bool?
  have hstream : r.defaulted "stream" Json.bool? false = some i.stream :=
    h.defaulted "stream" (.bool i.stream) (by simp [fields]) Json.bool? false
  rw [ofRecord?, htarget, houtput, hprompt, hinstructions, hmessages, hparams, hbudget, hmetadata,
    hfull, hstream]
  rfl

/-- The fields of the inputs of a call stand beside those for its arguments. -/
theorem CallInputs.ofJson?_toJson {c : CallInputs} (hretries : c.inputs.retries < Nat.pow 2 32) :
    CallInputs.ofJson? c.toJson = some c := by
  let own : List Field := [.present "args" (.arr c.args), .present "kwargs" (.obj c.kwargs)]
  have hnodup : ((c.inputs.fields ++ own).map (·.name)).Nodup := by
    show (Inputs.fieldNames ++ ["args", "kwargs"]).Nodup
    decide
  obtain ⟨members, hmembers, h⟩ := Record.exists_members (j := c.toJson) rfl hnodup
  have hinputs : Inputs.ofRecord? Role.ofLooseJson? ⟨Dict.find? members, true⟩ = some c.inputs :=
    Inputs.ofRecord?_of_holds h.append_left Role.ofLooseJson?_name hretries
  have hargs : Record.defaulted ⟨Dict.find? members, true⟩ "args" Json.items? [] = some c.args :=
    h.defaulted "args" (.arr c.args) (by simp) Json.items? []
  have hkwargs : Record.defaulted ⟨Dict.find? members, true⟩ "kwargs" Json.members? [] =
      some c.kwargs :=
    h.defaulted "kwargs" (.obj c.kwargs) (by simp) Json.members? []
  rw [hmembers, ofJson?, Json.members?]
  simp only [Option.bind_eq_bind, Option.bind_some, hinputs, hargs, hkwargs]
  rfl

end Inputs

/-! ## Outputs -/

section Outputs

theorem Policy.ofJson?_toJson (p : Policy) : ofJson? p.toJson = some p := by
  cases p <;> rfl

/-- The token counts fit their width. -/
def Response.Counted (r : Response) : Prop :=
  (∀ n, r.promptTokens = some n → n < Nat.pow 2 32) ∧
    ∀ n, r.responseTokens = some n → n < Nat.pow 2 32

theorem Response.ofJson?_toJson {response : Response} (hcounted : response.Counted) :
    ofJson? response.toJson = some response := by
  obtain ⟨r, hr, h⟩ := Record.exists_record (j := response.toJson)
    ["output", "prompt_token_count", "response_token_count"] rfl rfl (by decide)
  have htext : r.required "output" Json.str? = some response.text :=
    h.required "output" (.str response.text) (by simp) Json.str?
  have hprompt : r.omittable "prompt_token_count" (Json.nat? 32) = some response.promptTokens :=
    h.omittable "prompt_token_count" .ofNat response.promptTokens (by simp) (by simp [Json.ofNat])
      fun n hn => Json.nat?_ofNat (hcounted.1 n hn)
  have hresponse : r.omittable "response_token_count" (Json.nat? 32) =
      some response.responseTokens :=
    h.omittable "response_token_count" .ofNat response.responseTokens (by simp)
      (by simp [Json.ofNat]) fun n hn => Json.nat?_ofNat (hcounted.2 n hn)
  rw [ofJson?, hr]
  simp only [Option.bind_eq_bind, Option.bind_some, htext, hprompt, hresponse]
  rfl

theorem Failure.ofJson?_of_holds {j : Json} {r : Record} {f : Failure}
    (hr : j.record? ["error_message", "fix_value"] = some r) (h : r.Holds f.fields) :
    ofJson? j = some f.withoutNull := by
  have hmessage : r.required "error_message" Json.str? = some f.message :=
    h.required "error_message" (.str f.message) (by simp [fields]) Json.str?
  have hfix : r.omittable "fix_value" Json.any? = some (f.fix.filter (!·.isNull)) :=
    h.omittable_any "fix_value" f.fix (by simp [fields])
  rw [ofJson?, hr]
  simp only [Option.bind_eq_bind, Option.bind_some, hmessage, hfix]
  rfl

theorem Failure.ofJson?_toJson (f : Failure) : ofJson? f.toJson = some f.withoutNull := by
  obtain ⟨r, hr, h⟩ := Record.exists_record (j := f.toJson) ["error_message", "fix_value"] rfl rfl
    (by decide)
  exact ofJson?_of_holds hr h

/-- The tag of a verdict is taken out before the failure is read. -/
theorem Verdict.ofJson?_toJson (v : Verdict) : ofJson? v.toJson = some v.withoutNull := by
  cases v with
  | pass => rfl
  | fail f =>
    have hnodup : ["outcome", "error_message", "fix_value"].Nodup := by decide
    obtain ⟨members, hmembers, h⟩ := Record.exists_members (j := (Verdict.fail f).toJson) rfl hnodup
    have htag : Dict.find? members "outcome" = some (.str "fail") :=
      h.field?_eq _ List.mem_cons_self
    have hfields : Record.Holds ⟨Dict.find? members, true⟩ f.fields :=
      ⟨rfl, fun g hg => h.field?_eq g (List.mem_cons_of_mem _ hg)⟩
    have hname : "outcome" ∉ f.fields.map (·.name) := by
      show "outcome" ∉ ["error_message", "fix_value"]
      decide
    have hfailure : Failure.ofJson? (.obj (Dict.erase members "outcome")) = some f.withoutNull :=
      Failure.ofJson?_of_holds rfl (hfields.erase hname)
    rw [hmembers, ofJson?, htag]
    simp only [Option.bind_eq_bind, Option.bind_some, Json.str?, hfailure, Option.map_some]
    rfl

theorem Correction.ofJson?_toJson (c : Correction) : ofJson? c.toJson = some c.withoutNull := by
  obtain ⟨r, hr, h⟩ := Record.exists_record (j := c.toJson)
    ["incorrect_value", "path", "fail_results"] rfl rfl (by decide)
  have hincorrect : r.required "incorrect_value" Json.any? = some c.incorrect :=
    h.required "incorrect_value" c.incorrect (by simp) Json.any?
  have hpath : r.required "path" Json.str? = some c.path :=
    h.required "path" (.str c.path) (by simp) Json.str?
  have hfailures : r.required "fail_results" (Json.list? Failure.ofJson?) =
      some (c.failures.map Failure.withoutNull) :=
    (h.required "fail_results" (.arr (c.failures.map Failure.toJson)) (by simp) _).trans
      (Json.list?_map fun f _ => f.ofJson?_toJson)
  rw [ofJson?, hr]
  simp only [Option.bind_eq_bind, Option.bind_some, hincorrect, hpath, hfailures]
  rfl

theorem LogEntry.ofJson?_toJson (l : LogEntry) : ofJson? l.toJson = some l.withoutNull := by
  obtain ⟨r, hr, h⟩ := Record.exists_record (j := l.toJson)
    ["validator_name", "path", "on_fail", "value_before_validation", "result"] rfl rfl (by decide)
  have hvalidator : r.required "validator_name" Json.str? = some l.validator :=
    h.required "validator_name" (.str l.validator) (by simp) Json.str?
  have hpath : r.required "path" Json.str? = some l.path :=
    h.required "path" (.str l.path) (by simp) Json.str?
  have hpolicy : r.required "on_fail" Policy.ofJson? = some l.policy :=
    (h.required "on_fail" l.policy.toJson (by simp) Policy.ofJson?).trans l.policy.ofJson?_toJson
  have hbefore : r.required "value_before_validation" Json.any? = some l.before :=
    h.required "value_before_validation" l.before (by simp) Json.any?
  have hverdict : r.required "result" Verdict.ofJson? = some l.verdict.withoutNull :=
    (h.required "result" l.verdict.toJson (by simp) Verdict.ofJson?).trans l.verdict.ofJson?_toJson
  rw [ofJson?, hr]
  simp only [Option.bind_eq_bind, Option.bind_some, hvalidator, hpath, hpolicy, hbefore, hverdict]
  rfl

theorem Outputs.ofJson?_toJson {o : Outputs}
    (hcounted : ∀ response, o.response = some response → response.Counted) :
    ofJson? o.toJson = some o.withoutNull := by
  obtain ⟨r, hr, h⟩ := Record.exists_record (j := o.toJson)
    ["llm_response_info", "raw_output", "parsed_output", "validated_output", "reasks",
      "validator_logs", "error"] rfl rfl (by decide)
  have hresponse : r.optional "llm_response_info" Response.ofJson? = some o.response :=
    h.optional "llm_response_info" Response.toJson o.response (by simp)
      (by simp [Response.toJson, Json.ofFields_eq])
      fun response hsome => Response.ofJson?_toJson (hcounted response hsome)
  have hraw : r.optional "raw_output" Json.str? = some o.raw :=
    h.optional "raw_output" .str o.raw (by simp) (by simp) (by simp [Json.str?])
  have hparsed : r.optional "parsed_output" Json.any? = some (o.parsed.filter (!·.isNull)) :=
    h.optional_any "parsed_output" o.parsed (by simp)
  have hvalidated : r.optional "validated_output" Json.any? =
      some (o.validated.filter (!·.isNull)) :=
    h.optional_any "validated_output" o.validated (by simp)
  have hreasks : r.defaulted "reasks" (Json.list? Correction.ofJson?) [] =
      some (o.reasks.map Correction.withoutNull) :=
    (h.defaulted "reasks" (.arr (o.reasks.map Correction.toJson)) (by simp) _ []).trans
      (Json.list?_map fun c _ => c.ofJson?_toJson)
  have hlogs : r.defaulted "validator_logs" (Json.list? LogEntry.ofJson?) [] =
      some (o.logs.map LogEntry.withoutNull) :=
    (h.defaulted "validator_logs" (.arr (o.logs.map LogEntry.toJson)) (by simp) _ []).trans
      (Json.list?_map fun l _ => l.ofJson?_toJson)
  have herror : r.omittable "error" Json.str? = some o.error :=
    h.omittable "error" .str o.error (by simp) (by simp) (by simp [Json.str?])
  rw [ofJson?, hr]
  simp only [Option.bind_eq_bind, Option.bind_some, hresponse, hraw, hparsed, hvalidated, hreasks,
    hlogs, herror]
  rfl

/-- An outcome without corrections is written without the field for them. -/
theorem Outcome.ofJson?_toJson (o : Outcome) : ofJson? o.toJson = some o.withoutNull := by
  obtain ⟨r, hr, h⟩ := Record.exists_record (j := o.toJson)
    ["call_id", "raw_llm_output", "validated_output", "validation_passed", "error", "reasks"]
    rfl rfl (by decide)
  have hcallId : r.omittable "call_id" Json.str? = some o.callId :=
    h.omittable "call_id" .str o.callId (by simp) (by simp) (by simp [Json.str?])
  have hraw : r.optional "raw_llm_output" Json.str? = some o.raw :=
    h.optional "raw_llm_output" .str o.raw (by simp) (by simp) (by simp [Json.str?])
  have hvalidated : r.optional "validated_output" Json.any? =
      some (o.validated.filter (!·.isNull)) :=
    h.optional_any "validated_output" o.validated (by simp)
  have hpassed : r.required "validation_passed" Json.bool? = some o.passed :=
    h.required "validation_passed" (.bool o.passed) (by simp) Json.bool?
  have herror : r.omittable "error" Json.str? = some o.error :=
    h.omittable "error" .str o.error (by simp) (by simp) (by simp [Json.str?])
  have hreasks : r.defaulted "reasks" (Json.list? Correction.ofJson?) [] =
      some (o.reasks.map Correction.withoutNull) := by
    have hfield : r.field? "reasks" = (if o.reasks.isEmpty then none else some o.reasks).map
        fun cs => .arr (cs.map Correction.toJson) :=
      h.field?_eq (.omitted "reasks" _ _) (by simp)
    rw [Record.defaulted, hfield]
    cases hreasks : o.reasks with
    | nil => rfl
    | cons c cs => exact Json.list?_map fun c _ => c.ofJson?_toJson
  rw [ofJson?, hr]
  simp only [Option.bind_eq_bind, Option.bind_some, hcallId, hraw, hvalidated, hpassed, herror,
    hreasks]
  rfl

end Outputs

/-! ## Records -/

/-- The inputs of a call are read back as they were. Outputs and outcomes are read back, where null
is no value: as they were exactly if null stands for none of their values. In any case a round has
the same status, has to correct something or not, and shows the same failures. -/
theorem records_reread :
    (∀ c : CallInputs, c.inputs.retries < Nat.pow 2 32 → CallInputs.ofJson? c.toJson = some c) ∧
    (∀ o : Outputs, (∀ response, o.response = some response → response.Counted) →
      ∃ read, Outputs.ofJson? o.toJson = some read ∧ read = o.withoutNull ∧
        (read = o ↔ ¬ o.HoldsNull) ∧ read.status = o.status ∧
        (∀ index inputs, (Round.mk index inputs read).hasReasks =
          (Round.mk index inputs o).hasReasks) ∧
        read.failures = o.failures.map LogEntry.withoutNull) ∧
    ∀ o : Outcome, ∃ read, Outcome.ofJson? o.toJson = some read ∧ read = o.withoutNull ∧
      (read = o ↔ ¬ o.HoldsNull) := by
  refine ⟨fun c hretries => CallInputs.ofJson?_toJson hretries, fun o hcounted => ?_, fun o => ?_⟩
  · refine ⟨o.withoutNull, Outputs.ofJson?_toJson hcounted, rfl, o.withoutNull_eq_self_iff,
      o.status_withoutNull, fun index inputs => ?_, o.failures_withoutNull⟩
    show (!(o.reasks.map Correction.withoutNull).isEmpty) = !o.reasks.isEmpty
    rw [List.isEmpty_map]
  · exact ⟨o.withoutNull, o.ofJson?_toJson, rfl, o.withoutNull_eq_self_iff⟩

/-- A text that reads `null`, refused with null for a fix, in which the target has to correct
nothing: both are read back as none, and the round still fails. -/
theorem records_reread_of_null :
    let inputs : CallInputs :=
      ⟨{ Inputs.empty with messages := some [⟨.user, "A color?"⟩], retries := 3 }, [.null],
        [("top", .null)]⟩
    let entry : LogEntry := ⟨"valid-choices", "$", .refrain, .null, .fail ⟨"no color", some .null⟩⟩
    let outputs : Outputs :=
      ⟨some ⟨"null", some 7, none⟩, some "null", some .null, none, [], [entry], none⟩
    let read : Outputs :=
      ⟨some ⟨"null", some 7, none⟩, some "null", none, none, [],
        [{ entry with verdict := .fail ⟨"no color", none⟩ }], none⟩
    inputs.inputs.retries < Nat.pow 2 32 ∧ CallInputs.ofJson? inputs.toJson = some inputs ∧
      (∀ response, outputs.response = some response → response.Counted) ∧
      Outputs.ofJson? outputs.toJson = some read ∧ outputs.HoldsNull ∧ read.status = .fail := by
  intro inputs entry outputs read
  have hcounted : ∀ response, outputs.response = some response → response.Counted := by
    rintro response ⟨⟩
    exact ⟨by rintro n ⟨⟩; decide, by rintro n ⟨⟩⟩
  obtain ⟨hinputs, houtputs, -⟩ := records_reread
  obtain ⟨read', hread, rfl, -, hstatus, -⟩ := houtputs outputs hcounted
  exact ⟨by decide, hinputs inputs (by decide), hcounted, hread, .inl rfl, hstatus⟩

end Guardrail
