/-
Reading a schema from an introspection result.

The result is first read as data of the expected shape, where anything of
another shape is a mismatch, and then checked: every kind must be known,
every named type and reference must have its name, and every wrapper must
have something inside. A reference that is cut off at the deepest level the
query asks for is reported as too deep, not as faulty.
-/
import GraphCalls.Schema.Registry
import GraphCalls.Json.Source

namespace GraphCalls
namespace Introspection

/-! ## Shapes -/

/-- A reference as the server writes it. -/
inductive RefPayload where
  | mk (kind : String) (name : Option String) (ofType : Option RefPayload)

structure InputPayload where
  name : String
  description : Option String
  type : RefPayload
  defaultValue : Option String

structure FieldPayload where
  name : String
  description : Option String
  args : List InputPayload
  type : RefPayload
  isDeprecated : Bool
  deprecationReason : Option String

structure TypePayload where
  kind : String
  name : Option String
  description : Option String
  fields : Option (List FieldPayload)
  inputFields : Option (List InputPayload)
  enumValues : Option (List EnumValue)

/-- The schema part of a result. -/
structure SchemaPayload where
  queryType : Option String
  mutationType : Option String
  subscriptionType : Option String
  types : List TypePayload

/-- A whole result: the schema, if there is one, and the messages of the
server's errors. -/
structure Payload where
  schema : Option SchemaPayload
  errors : List String

/-- A field of a record, and whether the array form may end before it. -/
structure FieldShape where
  name : String
  mayBeLeftOut : Bool

/-- The fields of a record given as an object, in which any may be absent and
other members are skipped, or as an array of fields in order. -/
def fieldsOf (shape : List FieldShape) : Json → Option (List (Option Json))
  | .object ms => some (shape.map fun f => (Json.object ms).get? f.name)
  | .array vs => positional shape vs
  | _ => none
where
  positional : List FieldShape → List Json → Option (List (Option Json))
    | [], [] => some []
    | [], _ :: _ => none
    | f :: fs, [] => if f.mayBeLeftOut then (positional fs []).map (none :: ·) else none
    | _ :: fs, v :: vs => (positional fs vs).map (some v :: ·)

/-- A field that must be there. -/
def required {α : Type} (f : Json → Option α) : Option Json → Option α
  | some v => f v
  | none => none

/-- A field that may be absent or null. -/
def optional {α : Type} (f : Json → Option α) : Option Json → Option (Option α)
  | none | some .null => some none
  | some v => (f v).map some

/-- A field that may be absent but not null. -/
def defaulting {α : Type} (a : α) (f : Json → Option α) : Option Json → Option α
  | none => some a
  | some v => f v

def string? : Json → Option String
  | .string s => some s
  | _ => none

def bool? : Json → Option Bool
  | .bool b => some b
  | _ => none

def list? {α : Type} (f : Json → Option α) : Json → Option (List α)
  | .array vs => vs.mapM f
  | _ => none

namespace RefPayload

/-- The member `ofType` of an object, read by the same rule as the reference
itself. The array form lists kind, name and `ofType`. -/
def ofJson? : Json → Option RefPayload
  | .object ms => do
    let kind ← required string? ((Json.object ms).get? "kind")
    let name ← optional string? ((Json.object ms).get? "name")
    let inner ← member ms
    return .mk kind name inner
  | .array [kind, name, .null] => do
    let kind ← string? kind
    let name ← optional string? (some name)
    return .mk kind name none
  | .array [kind, name, inner] => do
    let kind ← string? kind
    let name ← optional string? (some name)
    let inner ← ofJson? inner
    return .mk kind name (some inner)
  | _ => none
where
  member : List (String × Json) → Option (Option RefPayload)
    | [] => some none
    | (k, .null) :: ms => if k = "ofType" then some none else member ms
    | (k, v) :: ms => if k = "ofType" then (ofJson? v).map some else member ms

end RefPayload

def InputPayload.ofJson? (v : Json) : Option InputPayload := do
  match ← fieldsOf [⟨"name", false⟩, ⟨"description", false⟩, ⟨"type", false⟩,
      ⟨"defaultValue", false⟩] v with
  | [name, description, type, defaultValue] =>
    return { name := ← required string? name
             description := ← optional string? description
             type := ← required RefPayload.ofJson? type
             defaultValue := ← optional string? defaultValue }
  | _ => none

def FieldPayload.ofJson? (v : Json) : Option FieldPayload := do
  match ← fieldsOf [⟨"name", false⟩, ⟨"description", false⟩, ⟨"args", true⟩, ⟨"type", false⟩,
      ⟨"isDeprecated", true⟩, ⟨"deprecationReason", false⟩] v with
  | [name, description, args, type, isDeprecated, deprecationReason] =>
    return { name := ← required string? name
             description := ← optional string? description
             args := ← defaulting [] (list? InputPayload.ofJson?) args
             type := ← required RefPayload.ofJson? type
             isDeprecated := ← defaulting false bool? isDeprecated
             deprecationReason := ← optional string? deprecationReason }
  | _ => none

/-- The values of an enum need no further check. -/
def enumValue? (v : Json) : Option EnumValue := do
  match ← fieldsOf [⟨"name", false⟩, ⟨"description", false⟩, ⟨"isDeprecated", true⟩,
      ⟨"deprecationReason", false⟩] v with
  | [name, description, isDeprecated, deprecationReason] =>
    return { name := ← required string? name
             description := ← optional string? description
             isDeprecated := ← defaulting false bool? isDeprecated
             deprecationReason := ← optional string? deprecationReason }
  | _ => none

def TypePayload.ofJson? (v : Json) : Option TypePayload := do
  match ← fieldsOf [⟨"kind", false⟩, ⟨"name", false⟩, ⟨"description", false⟩, ⟨"fields", false⟩,
      ⟨"inputFields", false⟩, ⟨"enumValues", false⟩] v with
  | [kind, name, description, fields, inputFields, enumValues] =>
    return { kind := ← required string? kind
             name := ← optional string? name
             description := ← optional string? description
             fields := ← optional (list? FieldPayload.ofJson?) fields
             inputFields := ← optional (list? InputPayload.ofJson?) inputFields
             enumValues := ← optional (list? enumValue?) enumValues }
  | _ => none

/-- A record whose one field is a string that must be there. -/
def soleString? (name : String) (v : Json) : Option String := do
  match ← fieldsOf [⟨name, false⟩] v with
  | [s] => required string? s
  | _ => none

def SchemaPayload.ofJson? (v : Json) : Option SchemaPayload := do
  match ← fieldsOf [⟨"queryType", false⟩, ⟨"mutationType", false⟩, ⟨"subscriptionType", false⟩,
      ⟨"types", false⟩] v with
  | [queryType, mutationType, subscriptionType, types] =>
    return { queryType := ← optional (soleString? "name") queryType
             mutationType := ← optional (soleString? "name") mutationType
             subscriptionType := ← optional (soleString? "name") subscriptionType
             types := ← required (list? TypePayload.ofJson?) types }
  | _ => none

/-- The data part of a result. -/
def data? (v : Json) : Option (Option SchemaPayload) := do
  match ← fieldsOf [⟨"__schema", false⟩] v with
  | [schema] => optional SchemaPayload.ofJson? schema
  | _ => none

def Payload.ofJson? (v : Json) : Option Payload := do
  match ← fieldsOf [⟨"data", false⟩, ⟨"errors", true⟩] v with
  | [data, errors] =>
    return { schema := (← optional data? data).join
             errors := (← optional (list? (soleString? "message")) errors).getD [] }
  | _ => none

/-! ## Checks -/

/-- The reference that a payload writes; `level` modifiers stand around it. -/
def RefPayload.check (level : Nat) : RefPayload → Except SchemaError TypeRef
  | .mk kind name ofType => do
    let kind ← TypeKind.parse kind
    if kind.isWrapper then
      if maxWrapperDepth ≤ level then throw .tooDeep
      match ofType with
      | none => throw (.malformed (.emptyWrapper kind))
      | some inner =>
        let ref ← inner.check (level + 1)
        return if kind = .list then .list ref else .nonNull ref
    else
      match name with
      | none => throw (.malformed (.unnamedReference kind))
      | some name => return .named kind name

def InputPayload.check (p : InputPayload) : Except SchemaError InputValue := do
  let type ← p.type.check 0
  return ⟨p.name, p.description, type, p.defaultValue⟩

/-- A field's arguments are checked before its type. -/
def FieldPayload.check (p : FieldPayload) : Except SchemaError FieldDef := do
  let args ← p.args.mapM InputPayload.check
  let type ← p.type.check 0
  return ⟨p.name, p.description, args, type, p.isDeprecated, p.deprecationReason⟩

/-- Checks each item of a list that may be absent. -/
def checkAll {α β : Type} (f : α → Except SchemaError β) :
    Option (List α) → Except SchemaError (Option (List β))
  | none => .ok none
  | some as => (as.mapM f).map some

def TypePayload.check (p : TypePayload) : Except SchemaError TypeDef := do
  let kind ← TypeKind.parse p.kind
  if kind.isWrapper then throw (.malformed (.listedWrapper kind))
  match p.name with
  | none => throw (.malformed (.unnamedType kind))
  | some name =>
    let fields ← checkAll FieldPayload.check p.fields
    let inputFields ← checkAll InputPayload.check p.inputFields
    return ⟨kind, name, p.description, fields, inputFields, p.enumValues⟩

def Payload.check (p : Payload) : Except SchemaError Registry :=
  match p.schema with
  | none => .error (.malformed (.noSchema p.errors))
  | some schema =>
    match schema.queryType with
    | none => .error (.malformed .noQueryType)
    | some queryType => do
      let types ← schema.types.mapM TypePayload.check
      Registry.ofTypes queryType schema.mutationType schema.subscriptionType types

end Introspection

namespace Registry

/-- The registry of an introspection result. -/
def ofJson (v : Json) : Except SchemaError Registry :=
  match Introspection.Payload.ofJson? v with
  | some p => p.check
  | none => .error (.unreadable .mismatch)

/-- The registry of the text of an introspection result. -/
def ofText (text : String) : Except SchemaError Registry :=
  match Json.ofText text with
  | .ok v => ofJson v
  | .error e => .error (.unreadable e)

end Registry
end GraphCalls
