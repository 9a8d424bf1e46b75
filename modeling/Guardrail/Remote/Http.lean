import Guardrail.Json.Reader
import Guardrail.Remote.Connection
import Guardrail.Remote.Service

/-!
# The service over HTTP

Requests to a remote service over HTTP and the meaning of its replies. How a request is sent is left
open: a transport gives the reply, or says why there is none.
-/

namespace Guardrail.Remote.Http

/-- A request. -/
structure Request where
  method : String
  url : String
  /-- The key that authorizes the request. -/
  bearer : String
  providerKey : Option String
  contentType : String
  body : String
  /-- In seconds. -/
  timeout : Nat
deriving DecidableEq

/-- A reply. -/
structure Reply where
  status : Nat
  body : String
deriving DecidableEq

/-- Whether a request was carried out. -/
def Reply.isSuccess (r : Reply) : Bool := 200 ≤ r.status && r.status ≤ 299

/-- What sends requests, with states in `σ`. -/
abbrev Transport (σ : Type) := Request → σ → Except String Reply × σ

/-- A client of a service (`HttpRemoteClient`). -/
structure Client where
  connection : Connection
  /-- The providers that the service supports. -/
  providers : List String

namespace Client

/-- The client with the providers that every service supports. -/
def ofConnection (connection : Connection) : Client :=
  ⟨connection, ["openai", "anthropic", "cohere"]⟩

/-- The address of a guard (`guard_url`). -/
def guardUrl (c : Client) (guardName : String) : String :=
  c.connection.baseUrl ++ "/guards/" ++ guardName

/-- A request about a guard. -/
def request (c : Client) (method url body : String) (providerKey : Option String) : Request where
  method := method
  url := url
  bearer := c.connection.apiKey
  providerKey := providerKey
  contentType := "application/json"
  body := body
  timeout := c.connection.timeout

/-- The request to carry out a call (`validate`). -/
def validateRequest (c : Client) (guardName : String) (payload : Payload)
    (providerKey : Option String) : Request :=
  c.request "POST" (c.guardUrl guardName ++ "/validate") payload.text providerKey

/-- The request to create or replace a guard (`upsert_guard`). -/
def upsertRequest (c : Client) (d : Descriptor) : Request :=
  c.request "PUT" (c.guardUrl d.name) d.toJson.compact none

/-- The answer that a reply brings, if it brings one. -/
def answerOf (r : Reply) : Except RemoteError (Option Answer) :=
  if r.isSuccess then
    let body := Text.trimChars r.body.toList
    if body.isEmpty || body == "null".toList then .ok none
    else
      match (Json.ofChars? body).bind Answer.ofJson? with
      | some answer => .ok (some answer)
      | none => .error (.decode "the reply is no answer")
  else .error (.http r.status r.body)

/-- Whether a reply confirms that a guard was accepted. -/
def acceptanceOf (r : Reply) : Except RemoteError Unit :=
  if r.isSuccess then .ok () else .error (.http r.status r.body)

/-- The service that a client reaches over a transport. -/
def service {σ : Type} (c : Client) (transport : Transport σ) : Service σ where
  supports := c.providers.contains
  validate name payload key s :=
    let (reply, s) := transport (c.validateRequest name payload key) s
    ((reply.mapError RemoteError.request).bind answerOf, s)
  upsert d s :=
    let (reply, s) := transport (c.upsertRequest d) s
    ((reply.mapError RemoteError.request).bind acceptanceOf, s)

end Client
end Guardrail.Remote.Http
