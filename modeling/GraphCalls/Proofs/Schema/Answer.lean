/-
What a server answers to the document that asks for its schema.

Of all that a server has, the answer lists what is asked for. What is asked
for is read off the lines of the document (`Asked.ofDocument`), so references
are answered down to the level at which the document stops to ask for
`ofType`, whatever stands below it.
-/
import GraphCalls.Schema.Introspection
import GraphCalls.Schema.IntrospectionQuery
import GraphCalls.Entries

namespace GraphCalls
namespace Introspection

/-- The fields that are asked for of a value, each with what is asked for of
its own values. -/
inductive Asked where
  | done
  | field (name : String) (withDeprecated : Bool) (body rest : Asked)

/-! ## Reading a document -/

/-- The words of a line. -/
def words (text : String) : List String := (text.toList.splitOn ' ').map String.ofList

namespace Asked

def append : Asked → Asked → Asked
  | .done, more => more
  | .field name withDeprecated body rest, more => .field name withDeprecated body (rest.append more)

/-- A field as it is written, with what may stand between parentheses. -/
def ofHead (head : String) (body rest : Asked) : Asked :=
  .field (String.ofList (head.toList.takeWhile (· ≠ '(')))
    (head.toList.dropWhile (· ≠ '(') = "(includeDeprecated: true)".toList) body rest

/-- A word of a selection: the spread of a fragment, or else a field. -/
def ofWord (fragments : Entries Asked) (word : String) (rest : Asked) : Asked :=
  match fragments.get? word with
  | some body => body.append rest
  | none => ofHead word .done rest

/-- A line of a selection: one word, or a field with one word between braces. -/
def ofLine (fragments : Entries Asked) (text : String) (rest : Asked) : Asked :=
  match words text with
  | [word] => ofWord fragments word rest
  | [head, "\x7b", word, "\x7d"] => ofHead head (ofWord fragments word .done) rest
  | _ => rest

def ofBlock (fragments : Entries Asked) : Block → Asked → Asked
  | .line text, rest => ofLine fragments text rest
  | .nest head body, rest => ofHead head (ofBlocks body) rest
where
  ofBlocks : List Block → Asked
    | [] => .done
    | b :: bs => ofBlock fragments b (ofBlocks bs)

/-- The fragments that a document defines, by the spreads that stand for them.
A fragment may use those that are defined after it. -/
def fragments : List Block → Entries Asked
  | [] => []
  | .line _ :: bs => fragments bs
  | .nest head body :: bs =>
    match words head with
    | ["fragment", name, "on", _] => ("..." ++ name, ofBlock.ofBlocks (fragments bs) body) :: fragments bs
    | _ => fragments bs

/-- What a document asks for that starts with its operation. -/
def ofDocument : List Block → Asked
  | .nest _ body :: bs => ofBlock.ofBlocks (fragments bs) body
  | _ => .done

end Asked

namespace Asked

/-- The names of what is asked for; none has anything asked of its values. -/
def plain : List String → Asked
  | [] => .done
  | name :: names => .field name false .done (plain names)

/-- What is asked for of a reference, with `depth` levels of `ofType`. -/
def reference : (depth : Nat) → Asked
  | 0 => plain ["kind", "name"]
  | depth + 1 => (plain ["kind", "name"]).append (.field "ofType" false (reference depth) .done)

def inputValue : Asked :=
  .field "name" false .done <| .field "description" false .done <|
  .field "type" false (reference maxWrapperDepth) <| .field "defaultValue" false .done .done

def fieldDef : Asked :=
  .field "name" false .done <| .field "description" false .done <| .field "args" false inputValue <|
  .field "type" false (reference maxWrapperDepth) <| plain ["isDeprecated", "deprecationReason"]

def enumValue : Asked := plain ["name", "description", "isDeprecated", "deprecationReason"]

def typeDef : Asked :=
  (plain ["kind", "name", "description"]).append <| .field "fields" true fieldDef <|
  .field "inputFields" false inputValue <| .field "interfaces" false (reference maxWrapperDepth) <|
  .field "enumValues" true enumValue <| .field "possibleTypes" false (reference maxWrapperDepth) .done

def schema : Asked :=
  .field "queryType" false (plain ["name"]) <| .field "mutationType" false (plain ["name"]) <|
  .field "subscriptionType" false (plain ["name"]) <| .field "types" false typeDef <|
  .field "directives" false
    ((plain ["name", "description", "locations"]).append (.field "args" false inputValue .done)) .done

-- The document is read from its last fragment on, so that what a spread stands
-- for is read once and not again for every use.

theorem fragments_cons {head : String} {body bs : List Block} {fs : Entries Asked} {name type : String}
    (hhead : words head = ["fragment", name, "on", type]) (hbs : fragments bs = fs) :
    fragments (.nest head body :: bs) = ("..." ++ name, ofBlock.ofBlocks fs body) :: fs := by
  simp only [fragments, hhead, hbs]

theorem fragments_typeRef : fragments [typeRef] = [("...TypeRef", reference maxWrapperDepth)] := rfl

theorem fragments_inputValue : fragments [Introspection.inputValue, typeRef] =
    [("...InputValue", inputValue), ("...TypeRef", reference maxWrapperDepth)] :=
  (fragments_cons rfl fragments_typeRef).trans rfl

theorem fragments_fullType : fragments [fullType, Introspection.inputValue, typeRef] =
    [("...FullType", typeDef), ("...InputValue", inputValue), ("...TypeRef", reference maxWrapperDepth)] :=
  (fragments_cons rfl fragments_inputValue).trans rfl

/-- What the document asks for. -/
theorem ofDocument_document : ofDocument document = .field "__schema" false schema .done := by
  rw [document, operation, ofDocument, fragments_fullType]
  rfl

/-! ## Answering -/

/-- Lists are answered item by item, and only objects have fields to give. -/
def complete (members : Json → List (String × Json)) : Json → Json
  | .array vs => .array (vs.map item)
  | v => item v
where
  item : Json → Json
    | .object ms => .ofMembers (members (.object ms))
    | v => v

/-- The items of a list that are not deprecated. -/
def withoutDeprecated : Json → Json
  | .array vs => .array (vs.filter fun v => v.get? "isDeprecated" ≠ some (.bool true))
  | v => v

/-- The members of the answer for an object. -/
def members : Asked → Json → List (String × Json)
  | .done, _ => []
  | .field name withDeprecated body rest, v =>
    let found := (v.get? name).getD .null
    (name, complete (members body) (if withDeprecated then found else withoutDeprecated found)) :: members rest v

/-- The part of a value that is asked for. -/
def answer (asked : Asked) (v : Json) : Json := complete asked.members v

end Asked
end Introspection

/-! ## What a server has -/

def Json.IsObject (v : Json) : Prop := ∃ ms, v = .object ms

namespace TypeRef

/-- A reference in full; what it refers to comes without further fields. -/
def tree : TypeRef → Json
  | .named kind name => .object [("kind", .string kind.text), ("name", .string name), ("ofType", .null)]
  | .list inner => .object [("kind", .string TypeKind.list.text), ("name", .null), ("ofType", inner.tree)]
  | .nonNull inner => .object [("kind", .string TypeKind.nonNull.text), ("name", .null), ("ofType", inner.tree)]

end TypeRef

def InputValue.tree (i : InputValue) : Json :=
  .object [("name", .string i.name), ("description", .ofOption .string i.description), ("type", i.type.tree),
    ("defaultValue", .ofOption .string i.defaultValue)]

def FieldDef.tree (f : FieldDef) : Json :=
  .object [("name", .string f.name), ("description", .ofOption .string f.description),
    ("args", .array (f.args.map InputValue.tree)), ("type", f.type.tree), ("isDeprecated", .bool f.isDeprecated),
    ("deprecationReason", .ofOption .string f.deprecationReason)]

def EnumValue.tree (v : EnumValue) : Json :=
  .object [("name", .string v.name), ("description", .ofOption .string v.description),
    ("isDeprecated", .bool v.isDeprecated), ("deprecationReason", .ofOption .string v.deprecationReason)]

theorem InputValue.tree_isObject (i : InputValue) : i.tree.IsObject := ⟨_, rfl⟩

theorem FieldDef.tree_isObject (f : FieldDef) : f.tree.IsObject := ⟨_, rfl⟩

theorem EnumValue.tree_isObject (v : EnumValue) : v.tree.IsObject := ⟨_, rfl⟩

/-- A schema as a server has it. Each named type is of a kind of its own, and
so is what stands at the bottom of each reference. What a registry does not
keep can be anything. -/
structure ServerSchema where
  queryType : String
  mutationType : Option String
  subscriptionType : Option String
  types : List TypeDef
  interfaces : TypeDef → Json
  possibleTypes : TypeDef → Json
  directives : Json
  kind_named : ∀ t ∈ types, t.kind.isWrapper = false
  references_named : ∀ t ∈ types, ∀ ref ∈ t.references, ref.unwrapped.kind.isWrapper = false

namespace ServerSchema

variable (s : ServerSchema)

def typeTree (t : TypeDef) : Json :=
  .object [("kind", .string t.kind.text), ("name", .string t.name), ("description", .ofOption .string t.description),
    ("fields", .ofOption (fun fs => .array (fs.map FieldDef.tree)) t.fields),
    ("inputFields", .ofOption (fun is => .array (is.map InputValue.tree)) t.inputFields),
    ("interfaces", s.interfaces t),
    ("enumValues", .ofOption (fun vs => .array (vs.map EnumValue.tree)) t.enumValues),
    ("possibleTypes", s.possibleTypes t), ("ofType", .null)]

theorem typeTree_isObject (t : TypeDef) : (s.typeTree t).IsObject := ⟨_, rfl⟩

def rootTree (name : String) : Json := .object [("name", .string name)]

def schemaTree : Json :=
  .object [("queryType", rootTree s.queryType), ("mutationType", .ofOption rootTree s.mutationType),
    ("subscriptionType", .ofOption rootTree s.subscriptionType), ("types", .array (s.types.map s.typeTree)),
    ("directives", s.directives)]

/-- Everything that the server can be asked for. -/
def tree : Json := .object [("__schema", s.schemaTree)]

/-- The answer to the document. -/
def answer : Json :=
  .ofMembers [("data", (Introspection.Asked.ofDocument Introspection.document).answer s.tree)]

end ServerSchema
end GraphCalls
