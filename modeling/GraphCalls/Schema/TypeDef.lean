/-
Named types and their members.
-/
import GraphCalls.Schema.TypeRef

namespace GraphCalls

/-- An argument of a field, or a field of an input object. -/
structure InputValue where
  name : String
  description : Option String
  type : TypeRef
  defaultValue : Option String
deriving DecidableEq

/-- A field of an output type. -/
structure FieldDef where
  name : String
  description : Option String
  args : List InputValue
  type : TypeRef
  isDeprecated : Bool
  deprecationReason : Option String
deriving DecidableEq

/-- The first argument of a given name. -/
def FieldDef.arg? (f : FieldDef) (name : String) : Option InputValue :=
  f.args.find? (·.name == name)

/-- A value of an enum. -/
structure EnumValue where
  name : String
  description : Option String
  isDeprecated : Bool
  deprecationReason : Option String
deriving DecidableEq

/-- A named type. Which lists of members it has is up to the server. -/
structure TypeDef where
  kind : TypeKind
  name : String
  description : Option String
  fields : Option (List FieldDef)
  inputFields : Option (List InputValue)
  enumValues : Option (List EnumValue)
deriving DecidableEq

namespace TypeDef

/-- The first field of a given name. -/
def field? (t : TypeDef) (name : String) : Option FieldDef :=
  t.fields.bind (·.find? (·.name == name))

/-- The names and types that a selection draws from: the output fields if the
type has a list of them, else the input fields. -/
def members? (t : TypeDef) : Option (List (String × TypeRef)) :=
  match t.fields with
  | some fs => some (fs.map fun f => (f.name, f.type))
  | none => t.inputFields.map (·.map fun f => (f.name, f.type))

/-- Every reference inside a type, in the order in which they are checked:
each field's type and then its arguments', then the input fields'. -/
def references (t : TypeDef) : List TypeRef :=
  ((t.fields.getD []).flatMap fun f => f.type :: f.args.map (·.type)) ++
    (t.inputFields.getD []).map (·.type)

end TypeDef
end GraphCalls
