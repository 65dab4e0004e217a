/-
Where operations are sent, with which headers, and how long a reply is waited
for.
-/
import GraphCalls.Call.Error
import GraphCalls.Call.Executor
import GraphCalls.Entries
import GraphCalls.Files.Fault
import GraphCalls.Json.Basic
import GraphCalls.Number.Bounds
import GraphCalls.Number.Duration
import GraphCalls.Toml.Parser
import GraphCalls.Toml.Reader
import GraphCalls.Url.Parser

namespace GraphCalls

structure ClientConfig where
  endpoint : Url
  headers : Entries String
  /-- The deadline, in milliseconds. -/
  timeout : Nat
deriving DecidableEq

namespace ClientConfig

/-- An endpoint with no headers and the deadline that holds if none is set. -/
def ofEndpoint (endpoint : Url) : ClientConfig := ⟨endpoint, [], Executor.defaultDeadline⟩

/-- The schemes that can be sent to. -/
def schemes : List String := ["http", "https"]

/-- Whether operations can be sent: the scheme is looked at first. -/
def validate (c : ClientConfig) : Except ConfigFault Unit :=
  if c.endpoint.scheme ∉ schemes then .error (.badScheme c.endpoint.scheme)
  else if c.timeout = 0 then .error .zeroTimeout
  else .ok ()

/-- A configuration that passes its checks. -/
def checked (c : ClientConfig) : Except ConfigFault ClientConfig := do
  c.validate
  return c

/-- The configuration of an endpoint that is given as text. -/
def parse (endpoint : String) : Except ConfigFault ClientConfig :=
  match Url.parse endpoint with
  | .ok u => (ofEndpoint u).checked
  | .error e => .error (.badEndpoint endpoint e.message)

def withHeader (c : ClientConfig) (name value : String) : ClientConfig :=
  { c with headers := c.headers.set name value }

/-- Sets the deadline; one that 64 bits cannot count in milliseconds is cut
short. -/
def withTimeout (c : ClientConfig) (d : Duration) : ClientConfig :=
  { c with timeout := min d.milliseconds Bounds.maxUnsigned64 }

/-- The deadline as a span of time. -/
def deadline (c : ClientConfig) : Duration := .ofMilliseconds c.timeout

/-- The configuration that a table holds. Members that are no setting do not
matter. -/
def ofToml? (t : Toml) : Option ClientConfig := do
  let endpoint ← (← t.get? "endpoint").string?
  let headers ← t.member? Toml.strings? "headers"
  let timeout ← t.member? Toml.natural? "timeout_ms"
  match Url.parse endpoint with
  | .ok u => some ⟨u, headers.getD [], timeout.getD Executor.defaultDeadline⟩
  | .error _ => none

/-- The configuration that a text holds. -/
def ofTomlText (text : String) : Except ConfigFault ClientConfig :=
  match (Toml.ofText? text).bind ofToml? with
  | some c => c.checked
  | none => .error .badDocument

/-- The configuration of a file, given what reading it came to. -/
def ofFile (path : String) (content : Except FileFault String) : Except ConfigFault ClientConfig :=
  match content with
  | .ok text => ofTomlText text
  | .error fault => .error (.unreadableFile path fault.message)

def toJson (c : ClientConfig) : Json :=
  .object [("endpoint", .string c.endpoint.text),
    ("headers", .object (c.headers.map fun (name, value) => (name, .string value))),
    ("timeout_ms", .ofNat c.timeout)]

end ClientConfig
end GraphCalls
