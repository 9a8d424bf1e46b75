import Guardrail.Error
import Guardrail.Json.Record
import Guardrail.Text.Blank
import Guardrail.Text.Natural

/-!
# Connections to the remote service

Where the remote service is found, the key that it is used with, and how long it may take. A
connection can be read from named variables; only the key has to be among them. Section B4 of the
specification names them.
-/

namespace Guardrail.Remote

/-- How the remote service is reached (`RemoteConfig`). -/
structure Connection where
  apiKey : String
  /-- The address, without a slash at its end. -/
  baseUrl : String
  /-- In seconds. -/
  timeout : Nat
deriving DecidableEq, Inhabited

namespace Connection

/-- The variable that holds the key. -/
def keyVariable : String := "SERDES_GUARD_API_KEY"

/-- The variable that holds the address. -/
def urlVariable : String := "SERDES_GUARD_BASE_URL"

/-- The variable that holds the number of seconds. -/
def timeoutVariable : String := "SERDES_GUARD_TIMEOUT_SECS"

/-- The connection with a key, to the default address. -/
def ofKey (apiKey : String) : Connection := ⟨apiKey, "http://localhost:8000", 60⟩

/-- A text less the slashes at its end. -/
def trimSlashes (url : String) : String :=
  String.ofList ((url.toList.reverse.dropWhile (· == '/')).reverse)

/-- The connection with another address (`with_base_url`). -/
def withUrl (c : Connection) (url : String) : Connection := { c with baseUrl := trimSlashes url }

/-- The connection with another limit of time. -/
def withTimeout (c : Connection) (milliseconds : Nat) : Connection :=
  { c with timeout := milliseconds / 1000 }

/-- The connection that variables describe (`from_lookup`). An empty key or address is no key or
address. -/
def ofVariables (lookup : String → Option String) : Except RemoteError Connection := do
  let some key := (lookup keyVariable).filter (!·.isEmpty)
    | throw (.missingConfig (keyVariable ++ " is not set"))
  let c := ofKey key
  let c := match (lookup urlVariable).filter (!·.isEmpty) with
    | some url => c.withUrl url
    | none => c
  match lookup timeoutVariable with
  | none => return c
  | some text =>
    match Text.nat? 64 (Text.trimChars text.toList) with
    | some seconds => return { c with timeout := seconds }
    | none => throw (.missingConfig (timeoutVariable ++ " is not a number: " ++ text))

/-- The fields of a connection, without the key, which is secret. -/
def toJson (c : Connection) : Json :=
  .ofFields [.present "base_url" (.str c.baseUrl), .present "timeout_seconds" (.ofNat c.timeout)]

/-- Reads a connection. -/
def ofJson? (j : Json) : Option Connection := do
  let r ← j.record? ["api_key", "base_url", "timeout_seconds"]
  return {
    apiKey := ← r.defaulted "api_key" Json.str? ""
    baseUrl := ← r.required "base_url" Json.str?
    timeout := ← r.required "timeout_seconds" (Json.nat? 64) }

end Connection
end Guardrail.Remote
