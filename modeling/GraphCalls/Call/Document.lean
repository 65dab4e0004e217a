/-
The document of a batch: one operation that makes all its calls.

    query queryName($input0:ID!,$input1:String!){a:user(id:$input0){id},b:team(slug:$input1)}

The bindings of all calls are numbered through in order; each becomes a
variable, declared in the head with the type of its argument, and each call
passes the variables of its own bindings.
-/
import GraphCalls.Call.Batch

namespace GraphCalls

/-- An operation as it is sent: its text and the values of its variables. -/
structure Document where
  query : String
  variableValues : List (String × Json)
deriving DecidableEq

namespace Document

/-- The name of every operation. -/
def operationName : String := "queryName"

/-- The type of a variable whose binding has none. -/
def defaultType : String := "String!"

/-- The name of the variable with a given number. -/
def variableName (n : Nat) : String := "input" ++ toString n

/-- Bindings with the numbers of their variables. -/
def numbered (start : Nat) : List Binding → List (Nat × Binding)
  | [] => []
  | b :: bs => (start, b) :: numbered (start + 1) bs

/-- The declaration of a variable. -/
def declaration (v : Nat × Binding) : String :=
  "$" ++ variableName v.1 ++ ":" ++ v.2.type.getD defaultType

/-- An argument that passes a variable. -/
def argument (v : Nat × Binding) : String := v.2.name ++ ":$" ++ variableName v.1

/-- A parenthesised list, or nothing if it is empty. -/
def parenthesised (separator : String) (ts : List String) : String :=
  if ts.isEmpty then "" else "(" ++ String.intercalate separator ts ++ ")"

/-- One call, whose first variable has a given number. -/
def callText (start : Nat) (aliasName : String) (call : Call) : String :=
  aliasName ++ ":" ++ call.field ++
    parenthesised ", " ((numbered start call.bindings).map argument) ++
    (match call.selection with
      | some s => "\x7b" ++ s ++ "\x7d"
      | none => "")

/-- Calls in order, the variables numbered from `start` on. -/
def callTexts (start : Nat) : List (String × Call) → List String
  | [] => []
  | (aliasName, call) :: rest =>
    callText start aliasName call :: callTexts (start + call.bindings.length) rest

/-- The bindings of all calls, in order. -/
def bindingsOf (b : Batch) : List Binding := b.items.flatMap (·.2.bindings)

/-- The document of a batch. -/
def ofBatch (kind : OperationKind) (b : Batch) : Document :=
  let vars := numbered 0 (bindingsOf b)
  { query := kind.text ++ " " ++ operationName ++ parenthesised "," (vars.map declaration) ++
      "\x7b" ++ String.intercalate "," (callTexts 0 b.items) ++ "\x7d"
    variableValues := vars.map fun v => (variableName v.1, v.2.value) }

/-- The document as a value: the body of a request. -/
def toJson (d : Document) : Json :=
  .object [("query", .string d.query), ("variables", .object d.variableValues)]

end Document
end GraphCalls
