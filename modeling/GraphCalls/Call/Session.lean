/-
A queue of calls beside an executor.

Calls are added to the queue and sent together. Sending empties the queue
whatever comes of it, so that each call is sent once at most and its alias is
free again afterwards.
-/
import GraphCalls.Call.Executor

namespace GraphCalls

/-- Calls of one kind that wait to be sent. -/
structure Session where
  kind : OperationKind
  queue : Batch

namespace Session

def start (kind : OperationKind) : Session := ⟨kind, .empty⟩

/-- Queues a call, unless its alias waits already. -/
def addItem (s : Session) (aliasName : String) (call : Call) : Except CallError Session :=
  (s.queue.insert aliasName call).map fun b => { s with queue := b }

/-- Queues the calls of a batch up to the first whose alias waits already. -/
def extend (s : Session) (b : Batch) : Session × Except CallError Unit :=
  let (queue, r) := s.queue.extend b.items
  ({ s with queue := queue }, r)

def hasItems (s : Session) : Bool := !s.queue.isEmpty

/-- Sends the queue. -/
def flush (s : Session) (deadline : Nat) (reply : Reply) : Session × Exchange (Response Json) :=
  let (sent, left) := s.queue.take
  ({ s with queue := left }, Executor.execute deadline s.kind sent [] reply)

end Session
end GraphCalls
