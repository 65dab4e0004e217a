/-
What can go wrong while a schema is loaded or a selection is made.
-/
import GraphCalls.Schema.Kind
import GraphCalls.Json.Literal

namespace GraphCalls

/-- How an introspection result can disagree with itself. -/
inductive PayloadFault where
  | unknownKind (text : String)
  | unsupportedOperation (text : String)
  /-- There is no schema; the messages are those of the server's errors. -/
  | noSchema (messages : List String)
  | noQueryType
  | listedWrapper (kind : TypeKind)
  | unnamedType (kind : TypeKind)
  | unnamedReference (kind : TypeKind)
  | emptyWrapper (kind : TypeKind)
  | duplicateType (name : String)
deriving DecidableEq

def PayloadFault.message : PayloadFault → String
  | .unknownKind s => "unknown type kind " ++ s
  | .unsupportedOperation s => "unsupported operation kind " ++ s
  | .noSchema messages =>
    let detail := String.intercalate "; " messages
    if detail.isEmpty then "response has no data.__schema"
    else "response has no data.__schema: " ++ detail
  | .noQueryType => "__schema.queryType is missing"
  | .listedWrapper k => "schema type list contains a " ++ k.text ++ " wrapper"
  | .unnamedType k => k.text ++ " type without a name"
  | .unnamedReference k => k.text ++ " reference without a name"
  | .emptyWrapper k => k.text ++ " reference without ofType"
  | .duplicateType name => "duplicate type " ++ name

/-- The levels of modifiers that an introspection result can express. -/
def maxWrapperDepth : Nat := 7

/-- What can go wrong with a schema. -/
inductive SchemaError where
  | typeNotFound (name : String)
  | tooDeep
  | malformed (fault : PayloadFault)
  | notComposite (name : String)
  | noRootType (kind : OperationKind)
  | unreadable (error : ReadError)
deriving DecidableEq

namespace SchemaError

def message : SchemaError → String
  | .typeNotFound name => "Type not found in schema: " ++ name
  | .tooDeep =>
    "Type reference nests more than " ++ toString maxWrapperDepth ++ " wrapper levels"
  | .malformed fault => "Malformed introspection payload: " ++ fault.message
  | .notComposite name => "Type " ++ name ++ " is not a composite type"
  | .noRootType kind => "Schema has no " ++ kind.text ++ " root type"
  | .unreadable _ => "Failed to decode introspection payload"

def isTypeNotFound : SchemaError → Bool
  | .typeNotFound _ => true
  | _ => false

def isTooDeep : SchemaError → Bool
  | .tooDeep => true
  | _ => false

end SchemaError

/-- The kind with a given spelling, or the fault that it is none. -/
def TypeKind.parse (s : String) : Except SchemaError TypeKind :=
  match TypeKind.ofText? s with
  | some k => .ok k
  | none => .error (.malformed (.unknownKind s))

def OperationKind.parse (s : String) : Except SchemaError OperationKind :=
  match OperationKind.ofText? s with
  | some k => .ok k
  | none => .error (.malformed (.unsupportedOperation s))

end GraphCalls
