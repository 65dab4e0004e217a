/-
The kinds of types and of operations, and their spellings.
-/
import GraphCalls.Json.Basic

namespace GraphCalls

/-- The kind of a type or of a reference to one. -/
inductive TypeKind where
  | scalar
  | object
  | interface
  | union
  | enum
  | inputObject
  | list
  | nonNull
deriving DecidableEq

namespace TypeKind

/-- Every kind. -/
def all : List TypeKind :=
  [.scalar, .object, .interface, .union, .enum, .inputObject, .list, .nonNull]

/-- The spelling of a kind in an introspection result. -/
def text : TypeKind → String
  | .scalar => "SCALAR"
  | .object => "OBJECT"
  | .interface => "INTERFACE"
  | .union => "UNION"
  | .enum => "ENUM"
  | .inputObject => "INPUT_OBJECT"
  | .list => "LIST"
  | .nonNull => "NON_NULL"

/-- The kind with a given spelling. -/
def ofText? (s : String) : Option TypeKind := all.find? (·.text == s)

/-- Lists and non-null types wrap another type. -/
def isWrapper : TypeKind → Bool
  | .list | .nonNull => true
  | _ => false

end TypeKind

/-- The kinds of operations that a batch can carry. -/
inductive OperationKind where
  | query
  | mutation
deriving DecidableEq

namespace OperationKind

def all : List OperationKind := [.query, .mutation]

/-- The keyword that starts an operation of this kind. -/
def text : OperationKind → String
  | .query => "query"
  | .mutation => "mutation"

def ofText? (s : String) : Option OperationKind := all.find? (·.text == s)

end OperationKind

namespace Json

/-- The name that a value of a choice among names gives: a string, or an
object that maps the name to null. -/
def choice? : Json → Option String
  | .string s => some s
  | .object [(k, .null)] => some k
  | _ => none

end Json

/-- A kind written as a value. -/
def TypeKind.ofJson? (v : Json) : Option TypeKind := v.choice?.bind TypeKind.ofText?

def OperationKind.ofJson? (v : Json) : Option OperationKind := v.choice?.bind OperationKind.ofText?

end GraphCalls
