/-
Executing operations.

An execution writes the body of one request, sends it and waits for its reply
until the deadline. A body that cannot be written is not sent. A status that is
an error is reported with the body as it came; only any other body is read.
-/
import GraphCalls.Call.Document
import GraphCalls.Call.Response
import GraphCalls.Call.Transport
import GraphCalls.Json.Printer
import GraphCalls.Schema.Introspection
import GraphCalls.Schema.IntrospectionQuery

namespace GraphCalls

/-- What is posted: an operation, and the values of its variables if it has any
to pass. -/
structure RequestBody where
  query : String
  variableValues : Option (List (String × Json))
deriving DecidableEq

/-- A body as data to be written. -/
def RequestBody.datum (b : RequestBody) : Datum :=
  .map [(.value (.string "query"), .value (.string b.query)),
    (.value (.string "variables"), (b.variableValues.map Datum.members).getD (.value .null))]

/-- What one call did: its outcome, the request if it made one, the time that
it took, and whether the request was dropped. -/
structure Exchange (α : Type) where
  result : Except CallError α
  request : Option Request
  elapsed : Nat
  dropped : Bool

namespace Executor

/-- The deadline if none is set. -/
def defaultDeadline : Nat := 3000

/-- The body of a successful answer. -/
def bodyOf (a : Answer) : Except CallError String :=
  if a.isError then .error (.badResponse a.status a.body) else .ok a.body

/-- The text of data, a failure being that of the request. -/
def encode (d : Datum) : Except CallError String := d.text.mapError .invalidRequest

/-- The request with a body. -/
def requestOf (body : RequestBody) (headers : Entries String) : Except CallError Request := do
  return ⟨← encode body.datum, headers⟩

/-- Makes a request, waits for the reply and reads the body. A request that was
not written is not made. -/
def post {α : Type} (deadline : Nat) (request : Except CallError Request)
    (read : String → Except CallError α) (reply : Reply) : Exchange α :=
  match request with
  | .ok request =>
    let w := reply.await deadline
    { result := do read (← bodyOf (← w.result))
      request := some request
      elapsed := w.elapsed
      dropped := w.dropped }
  | .error e => ⟨.error e, none, 0, false⟩

/-- Reads a body, a failure being that of the response. -/
def readBody {α : Type} (f : String → Except ReadError α) (body : String) : Except CallError α :=
  match f body with
  | .ok a => .ok a
  | .error e => .error (.invalidResponse e)

/-- The request that executes a batch. -/
def batchRequest (kind : OperationKind) (b : Batch) (headers : Entries String) : Except CallError Request :=
  let d := Document.ofBatch kind b
  requestOf ⟨d.query, some d.variableValues⟩ headers

/-- Executes a batch; its data is read by `r`. -/
def executeAs {δ : Type} (r : Reader δ) (deadline : Nat) (kind : OperationKind) (b : Batch)
    (headers : Entries String) (reply : Reply) : Exchange (Response δ) :=
  post deadline (batchRequest kind b headers) (readBody (Response.ofText r)) reply

/-- Executes a batch. -/
def execute (deadline : Nat) (kind : OperationKind) (b : Batch) (headers : Entries String)
    (reply : Reply) : Exchange (Response Json) :=
  executeAs .json deadline kind b headers reply

/-- The request for a server's schema. -/
def introspectionRequest (headers : Entries String) : Except CallError Request :=
  requestOf ⟨Introspection.query, none⟩ headers

/-- The introspection result of a server, as it came. -/
def introspect (deadline : Nat) (headers : Entries String) (reply : Reply) : Exchange Json :=
  post deadline (introspectionRequest headers) (readBody Json.ofText) reply

/-- The schema of an introspection result. -/
def schemaOf (v : Json) : Except CallError Registry :=
  match Registry.ofJson v with
  | .ok r => .ok r
  | .error e => .error (.schema e)

/-- The schema of a server. -/
def fetchSchema (deadline : Nat) (headers : Entries String) (reply : Reply) : Exchange Registry :=
  let x := introspect deadline headers reply
  { x with result := do schemaOf (← x.result) }

end Executor
end GraphCalls
