/-
Batches of calls.

A batch lists calls under aliases in the order in which they were added. An
alias that is taken is refused and leaves the batch as it was.
-/
import GraphCalls.Call.Error
import GraphCalls.Json.Equal

namespace GraphCalls

/-- A value for an argument, with the type to declare it by if one is known. -/
structure Binding where
  name : String
  value : Json
  type : Option String
deriving DecidableEq

/-- Whether two bindings are equal, their values as JSON values. -/
def Binding.equal (a b : Binding) : Bool :=
  a.name == b.name && a.value.equal b.value && a.type == b.type

/-- A call of one root field. -/
structure Call where
  field : String
  selection : Option String
  bindings : List Binding
deriving DecidableEq

/-- Whether two calls are equal; their bindings in the same order. -/
def Call.equal (a b : Call) : Bool :=
  a.field == b.field && a.selection == b.selection && a.bindings.isEqv b.bindings Binding.equal

/-- Calls under their aliases, in order. -/
structure Batch where
  items : List (String × Call)
deriving DecidableEq

namespace Batch

def empty : Batch := ⟨[]⟩

/-- The call of an alias. -/
def get? (b : Batch) (aliasName : String) : Option Call :=
  (b.items.find? (·.1 == aliasName)).map Prod.snd

def size (b : Batch) : Nat := b.items.length

def isEmpty (b : Batch) : Bool := b.items.isEmpty

/-- Adds a call at the end, unless its alias is taken. -/
def insert (b : Batch) (aliasName : String) (call : Call) : Except CallError Batch :=
  if (b.get? aliasName).isSome then .error (.duplicateAlias aliasName)
  else .ok ⟨b.items ++ [(aliasName, call)]⟩

/-- The batch of a list of calls; refused at the first alias that repeats. -/
def ofItems (items : List (String × Call)) : Except CallError Batch :=
  items.foldlM (fun b (aliasName, call) => b.insert aliasName call) empty

/-- Adds calls one after the other up to the first whose alias is taken: the
batch with those before it, and the refusal if there was one. -/
def extend (b : Batch) : List (String × Call) → Batch × Except CallError Unit
  | [] => (b, .ok ())
  | (aliasName, call) :: rest =>
    match b.insert aliasName call with
    | .ok b => extend b rest
    | .error e => (b, .error e)

/-- All calls, and the batch without them. -/
def take (b : Batch) : Batch × Batch := (b, empty)

/-- Whether two batches have equal calls under the same aliases, in whatever
order. -/
def sameCalls (a b : Batch) : Bool :=
  a.size == b.size && a.items.all fun (aliasName, call) => (b.get? aliasName).any call.equal

end Batch
end GraphCalls
