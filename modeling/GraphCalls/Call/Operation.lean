/-
Calls planned against a schema.

A call of a root field takes the types of its arguments from the field's
declaration, and where the field's result needs a selection and none is given,
the default one. A draft collects such calls for one kind of operation; a
step that fails leaves it as it was.
-/
import GraphCalls.Call.Batch
import GraphCalls.Schema.Synthesis

namespace GraphCalls

/-- Calls of one kind, planned against a registry. -/
structure Draft where
  registry : Registry
  kind : OperationKind
  batch : Batch

namespace Draft

/-- An empty draft, if the schema has a root for operations of the kind. -/
def start (r : Registry) (kind : OperationKind) : Except CallError Draft :=
  match r.rootType kind with
  | .ok _ => .ok ⟨r, kind, .empty⟩
  | .error e => .error (.schema e)

/-- The first root field of a given name. -/
def rootField (d : Draft) (field : String) : Except CallError FieldDef :=
  match (d.registry.rootFields d.kind).find? (·.name == field) with
  | some f => .ok f
  | none => .error (.unknownField d.kind field)

/-- The binding of an argument that a field declares. -/
def bind (f : FieldDef) (field : String) (arg : String × Json) : Except CallError Binding :=
  match f.arg? arg.1 with
  | some a => .ok ⟨arg.1, arg.2, some a.type.text⟩
  | none => .error (.unknownArgument field arg.1)

/-- The selection that a field's result needs, if it needs one. -/
def neededSelection (r : Registry) (f : FieldDef) : Except SchemaError (Option String) := do
  let t ← r.resolve f.type
  if r.classify t = .object then return some (← r.defaultSelection t.name)
  return none

/-- A call of a root field with arguments in order. -/
def call (d : Draft) (field : String) (args : List (String × Json)) (selection : Option String) :
    Except CallError Call := do
  let f ← d.rootField field
  let bindings ← args.mapM (bind f field)
  match selection with
  | some s => return ⟨field, some s, bindings⟩
  | none =>
    match neededSelection d.registry f with
    | .ok s => return ⟨field, s, bindings⟩
    | .error e => throw (.schema e)

/-- Adds a call under an alias. -/
def add (d : Draft) (aliasName field : String) (args : List (String × Json))
    (selection : Option String) : Except CallError Draft := do
  let c ← d.call field args selection
  let b ← d.batch.insert aliasName c
  return { d with batch := b }

end Draft
end GraphCalls
