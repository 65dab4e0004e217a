/-
References to types.

A reference names a type and wraps it any number of times in list and
non-null modifiers. Its text, such as `[ID!]!`, is what a document declares a
variable with.
-/
import GraphCalls.Schema.Kind

namespace GraphCalls

/-- A reference to a type. A named reference carries the kind that was
written with the name, which may disagree with the type's own. -/
inductive TypeRef where
  | named (kind : TypeKind) (name : String)
  | list (inner : TypeRef)
  | nonNull (inner : TypeRef)
deriving DecidableEq

namespace TypeRef

/-- The kind of the outermost level. -/
def kind : TypeRef → TypeKind
  | .named k _ => k
  | .list _ => .list
  | .nonNull _ => .nonNull

/-- The name of the type at the bottom. -/
def name : TypeRef → String
  | .named _ n => n
  | .list r => r.name
  | .nonNull r => r.name

/-- The number of modifiers. -/
def depth : TypeRef → Nat
  | .named _ _ => 0
  | .list r => r.depth + 1
  | .nonNull r => r.depth + 1

/-- The reference as a document writes it. -/
def text : TypeRef → String
  | .named _ n => n
  | .list r => "[" ++ r.text ++ "]"
  | .nonNull r => r.text ++ "!"

/-- The named reference at the bottom. -/
def unwrapped : TypeRef → TypeRef
  | .named k n => .named k n
  | .list r => r.unwrapped
  | .nonNull r => r.unwrapped

/-- Whether the values are lists: the outermost modifier is a list, or the
one directly inside an outermost non-null. -/
def isList : TypeRef → Bool
  | .list _ => true
  | .nonNull (.list _) => true
  | _ => false

/-- Whether the outermost modifier is a non-null. -/
def isRequired : TypeRef → Bool
  | .nonNull _ => true
  | _ => false

/-- The modifiers, outermost first, as the kinds of wrappers. -/
def wrappers : TypeRef → List TypeKind
  | .named _ _ => []
  | .list r => .list :: r.wrappers
  | .nonNull r => .nonNull :: r.wrappers

end TypeRef
end GraphCalls
