/-
Executing operations over HTTP.

How a request reaches a server is left open: it is a function from a request
and a deadline to the course that the request took.
-/
import GraphCalls.Call.Executor
import GraphCalls.Http.Transport

namespace GraphCalls

/-- Carries requests to servers. -/
abbrev Network (m : Type → Type) := HttpRequest → (deadline : Nat) → m Reply

/-- A network without servers. -/
def Network.down {m : Type → Type} [Monad m] : Network m := fun r _ =>
  pure (.settles 0 (.failed (.transport (HttpTransport.unreachable r.target))))

/-- A transport and the deadline for each request. -/
structure HttpExecutor where
  transport : HttpTransport
  deadline : Nat
deriving DecidableEq

namespace HttpExecutor

def ofConfig (c : ClientConfig) : HttpExecutor := ⟨.ofConfig c, c.timeout⟩

variable {m : Type → Type} [Monad m]

/-- The course of a request; one that was not written or cannot be made fails at
once. -/
def reply (x : HttpExecutor) (network : Network m) : Except CallError Request → m Reply
  | .ok r =>
    match x.transport.request? r with
    | some request => network request x.deadline
    | none => pure (.settles 0 (.failed (.transport HttpTransport.unsendable)))
  | .error e => pure (.settles 0 (.failed e))

/-- Executes a batch. -/
def execute (x : HttpExecutor) (network : Network m) (kind : OperationKind) (b : Batch)
    (headers : Entries String) : m (Except CallError (Response Json)) := do
  let reply ← x.reply network (Executor.batchRequest kind b headers)
  return (Executor.execute x.deadline kind b headers reply).result

/-- The introspection result of the server, as it came. -/
def introspect (x : HttpExecutor) (network : Network m) : m (Except CallError Json) := do
  let reply ← x.reply network (Executor.introspectionRequest [])
  return (Executor.introspect x.deadline [] reply).result

/-- The schema of the server. -/
def fetchSchema (x : HttpExecutor) (network : Network m) : m (Except CallError Registry) := do
  let reply ← x.reply network (Executor.introspectionRequest [])
  return (Executor.fetchSchema x.deadline [] reply).result

end HttpExecutor
end GraphCalls
