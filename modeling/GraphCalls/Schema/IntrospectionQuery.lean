/-
The document that asks a server for its schema.

References to types nest, but a document can ask only for a fixed number of
levels; `refSelection` writes as many as a reference may have modifiers, so a
reference that fits is answered in full.
-/
import GraphCalls.Schema.Error

namespace GraphCalls

/-- Lines of a document: one line, or a head with lines between braces. -/
inductive Block where
  | line (text : String)
  | nest (head : String) (body : List Block)

namespace Block

def indent (level : Nat) : String := String.ofList (List.replicate (2 * level) ' ')

/-- The text of a block, every line two blanks deeper than its head's. -/
def render (level : Nat) : Block → String
  | .line text => indent level ++ text ++ "\n"
  | .nest head body =>
    indent level ++ head ++ " \x7b\n" ++ renderAll (level + 1) body ++ indent level ++ "\x7d\n"
where
  renderAll (level : Nat) : List Block → String
    | [] => ""
    | b :: bs => render level b ++ renderAll level bs

/-- The text of a document. Each part starts after an empty line, but for the
first line of the text. -/
def text (document : List Block) : String := "\n" ++ String.intercalate "\n" (document.map (render 0))

end Block

namespace Introspection

/-- The lines that ask for a reference with up to `depth` modifiers. -/
def refSelection : (depth : Nat) → List Block
  | 0 => [.line "kind", .line "name"]
  | depth + 1 => [.line "kind", .line "name", .nest "ofType" (refSelection depth)]

def typeRefSpread : List Block := [.line "...TypeRef"]

def inputValueSpread : List Block := [.line "...InputValue"]

/-- The operation itself. -/
def operation : Block :=
  .nest "query IntrospectionQuery" [
    .nest "__schema" [
      .line "queryType \x7b name \x7d",
      .line "mutationType \x7b name \x7d",
      .line "subscriptionType \x7b name \x7d",
      .nest "types" [.line "...FullType"],
      .nest "directives" [
        .line "name",
        .line "description",
        .line "locations",
        .nest "args" inputValueSpread]]]

def fullType : Block :=
  .nest "fragment FullType on __Type" [
    .line "kind",
    .line "name",
    .line "description",
    .nest "fields(includeDeprecated: true)" [
      .line "name",
      .line "description",
      .nest "args" inputValueSpread,
      .nest "type" typeRefSpread,
      .line "isDeprecated",
      .line "deprecationReason"],
    .nest "inputFields" inputValueSpread,
    .nest "interfaces" typeRefSpread,
    .nest "enumValues(includeDeprecated: true)" [
      .line "name",
      .line "description",
      .line "isDeprecated",
      .line "deprecationReason"],
    .nest "possibleTypes" typeRefSpread]

def inputValue : Block :=
  .nest "fragment InputValue on __InputValue" [
    .line "name",
    .line "description",
    .line "type \x7b ...TypeRef \x7d",
    .line "defaultValue"]

def typeRef : Block := .nest "fragment TypeRef on __Type" (refSelection maxWrapperDepth)

/-- The whole document: the operation, and the fragments that it uses. -/
def document : List Block := [operation, fullType, inputValue, typeRef]

def query : String := Block.text document

end Introspection
end GraphCalls
