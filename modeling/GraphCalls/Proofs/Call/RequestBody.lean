/-
Requests can always be written.

The maps of a body are keyed by the names of its parts and of its variables.
These stand for themselves, so that every body has a text, which is that of a
value (`requestOf_eq`). The value of a batch's body is that of its document.
-/
import GraphCalls.Call.Executor

namespace GraphCalls

/-- The value that a body is written as; variables that are not passed are
null. -/
def RequestBody.toJson (b : RequestBody) : Json :=
  .object [("query", .string b.query), ("variables", .ofOption .object b.variableValues)]

theorem RequestBody.toJson_datum (b : RequestBody) : b.datum.toJson = .ok b.toJson := by
  obtain ⟨query, variableValues⟩ := b
  cases variableValues with
  | none => rfl
  | some vs =>
    simp only [datum, Option.map_some, Option.getD_some, Datum.toJson, Datum.toJson.entries, Datum.toJson_members]
    rfl

namespace Executor

theorem encode_datum (b : RequestBody) : encode b.datum = .ok b.toJson.compact := by
  rw [encode, Datum.text, b.toJson_datum]
  rfl

/-- Of other data, a map that a pair keys cannot be written. -/
example : encode (.map [(.list [.value (.ofNat 1), .value (.ofNat 2)], .value (.ofNat 3))]) =
    .error (.invalidRequest .unnamedKey) := rfl

theorem requestOf_eq (body : RequestBody) (headers : Entries String) :
    requestOf body headers = .ok ⟨body.toJson.compact, headers⟩ := by
  rw [requestOf, encode_datum]
  rfl

theorem batchRequest_eq (kind : OperationKind) (b : Batch) (headers : Entries String) :
    batchRequest kind b headers = .ok ⟨(Document.ofBatch kind b).toJson.compact, headers⟩ := requestOf_eq _ headers

theorem introspectionRequest_eq (headers : Entries String) : introspectionRequest headers =
    .ok ⟨(Json.object [("query", .string Introspection.query), ("variables", .null)]).compact, headers⟩ :=
  requestOf_eq _ headers

/-- A request that was written is sent. -/
theorem post_ok {α : Type} (deadline : Nat) (request : Request) (read : String → Except CallError α) (reply : Reply) :
    post deadline (.ok request) read reply =
      { result := do read (← bodyOf (← (reply.await deadline).result))
        request := some request
        elapsed := (reply.await deadline).elapsed
        dropped := (reply.await deadline).dropped } := rfl

end Executor
end GraphCalls
