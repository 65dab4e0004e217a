/-
The types of one server, by name.

A registry is made from a list of types only if no name comes twice and every
name that is referred to is there; after that it does not change. Types keep
the order in which they were listed.
-/
import GraphCalls.Schema.TypeDef
import GraphCalls.Schema.Error

namespace GraphCalls

/-- A server's types and the names of its root types. -/
structure Registry where
  types : List TypeDef
  queryType : String
  mutationType : Option String
  subscriptionType : Option String
deriving DecidableEq

namespace Registry

/-- The first name that an earlier type of the list has too. -/
def repeatedName? : (seen : List String) → List TypeDef → Option String
  | _, [] => none
  | seen, t :: ts => if t.name ∈ seen then some t.name else repeatedName? (t.name :: seen) ts

/-- The type of a given name. -/
def find? (r : Registry) (name : String) : Option TypeDef :=
  r.types.find? (·.name == name)

def get (r : Registry) (name : String) : Except SchemaError TypeDef :=
  match r.find? name with
  | some t => .ok t
  | none => .error (.typeNotFound name)

/-- The type that a reference comes down to. -/
def resolve (r : Registry) (ref : TypeRef) : Except SchemaError TypeDef := r.get ref.name

/-- Every name that must be there, in the order in which they are checked. -/
def requiredNames (r : Registry) : List String :=
  r.queryType :: (r.mutationType.toList ++ r.subscriptionType.toList ++
    r.types.flatMap fun t => t.references.map (·.name))

/-- The registry of a list of types. -/
def ofTypes (queryType : String) (mutationType subscriptionType : Option String)
    (types : List TypeDef) : Except SchemaError Registry :=
  match repeatedName? [] types with
  | some name => .error (.malformed (.duplicateType name))
  | none =>
    let r : Registry := ⟨types, queryType, mutationType, subscriptionType⟩
    match r.requiredNames.find? fun name => (r.find? name).isNone with
    | some name => .error (.typeNotFound name)
    | none => .ok r

def size (r : Registry) : Nat := r.types.length

def isEmpty (r : Registry) : Bool := r.types.isEmpty

/-- Whether a name is that of the query or of the mutation root. -/
def isRootName (r : Registry) (name : String) : Bool :=
  name == r.queryType || r.mutationType == some name

/-- The root type for a kind of operation. -/
def rootType (r : Registry) : OperationKind → Except SchemaError TypeDef
  | .query => r.get r.queryType
  | .mutation =>
    match r.mutationType with
    | some name => r.get name
    | none => .error (.noRootType .mutation)

/-- The fields that an operation of a kind can call; without a root type there
are none. -/
def rootFields (r : Registry) (kind : OperationKind) : List FieldDef :=
  match r.rootType kind with
  | .ok t => t.fields.getD []
  | .error _ => []

/-! ## Classification -/

/-- The part that a type plays in a selection. -/
inductive TypeClass where
  /-- Needs a selection of its own. -/
  | object
  /-- A leaf whose values are names. -/
  | enum
  /-- Any other leaf. -/
  | scalar
deriving DecidableEq

/-- Introspection's own types have names that start so. -/
def metaStart : List Char := ['_', '_']

/-- Introspection's types and the roots of queries and mutations are never
expanded. -/
def isExcluded (r : Registry) (name : String) : Bool :=
  metaStart.isPrefixOf name.toList || r.isRootName name

/-- The class of a type. Interfaces and unions are leaves. -/
def classify (r : Registry) (t : TypeDef) : TypeClass :=
  if r.isExcluded t.name then .scalar
  else match t.kind with
    | .object | .inputObject => .object
    | .enum => .enum
    | _ => .scalar

def isObjectLike (r : Registry) (t : TypeDef) : Bool := r.classify t == .object

def isEnumLike (r : Registry) (t : TypeDef) : Bool := r.classify t == .enum

/-- The types that need a selection, in order. -/
def objectLikeTypes (r : Registry) : List TypeDef := r.types.filter r.isObjectLike

end Registry
end GraphCalls
