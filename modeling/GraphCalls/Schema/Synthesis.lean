/-
Default selections.

The default selection of a type takes its members in order: a leaf as it is,
an object-like member with a body made in the same way. A member whose name
and type have been expanded before, anywhere in the same walk, is dropped, so
the walk ends on schemas that refer to themselves. The memo of expanded pairs
can be handed from one walk to the next, and keeps what was recorded also when
a walk fails.
-/
import GraphCalls.Schema.Registry
import GraphCalls.Schema.Selection

namespace GraphCalls

/-- A member name with the name of the type that it expands to. -/
abbrev Expansion := String × String

/-- The pairs that have been expanded, in order. -/
structure Memo where
  expanded : List Expansion
deriving DecidableEq

namespace Memo

def empty : Memo := ⟨[]⟩

/-- How often a pair has been expanded. -/
def visits (m : Memo) (field type : String) : Nat := m.expanded.count (field, type)

/-- The number of different pairs. -/
def size (m : Memo) : Nat := m.expanded.eraseDups.length

def isEmpty (m : Memo) : Bool := m.expanded.isEmpty

/-- Records a pair. -/
def record (m : Memo) (e : Expansion) : Memo := ⟨m.expanded ++ [e]⟩

end Memo

/-- What a walk made, or why it failed, and the memo afterwards. -/
structure Walk (α : Type) where
  result : Except SchemaError α
  memo : Memo

namespace Registry

/-- Expands members in order. `deeper` expands a type, or gives up. -/
def expandMembers (r : Registry) (deeper : TypeDef → Memo → Option (Walk (List SelectionNode))) :
    List (String × TypeRef) → Memo → Option (Walk (List SelectionNode))
  | [], m => some ⟨.ok [], m⟩
  | (name, ref) :: rest, m =>
    match r.resolve ref with
    | .error e => some ⟨.error e, m⟩
    | .ok t =>
      if r.classify t = .object then
        if m.visits name t.name = 0 then
          match deeper t (m.record (name, t.name)) with
          | none => none
          | some ⟨.error e, m⟩ => some ⟨.error e, m⟩
          | some ⟨.ok body, m⟩ =>
            (expandMembers r deeper rest m).map fun w =>
              { w with result := w.result.map (.nested name body :: ·) }
        else expandMembers r deeper rest m
      else
        (expandMembers r deeper rest m).map fun w =>
          { w with result := w.result.map (.leaf name :: ·) }

/-- Expands a type with bodies nested at most `depth` deep, its own counted;
none if that is not enough. -/
def expand (r : Registry) : (depth : Nat) → TypeDef → Memo → Option (Walk (List SelectionNode))
  | 0, _, _ => none
  | depth + 1, t, m =>
    match t.members? with
    | none => some ⟨.error (.notComposite t.name), m⟩
    | some members => expandMembers r (expand r depth) members m

/-- The pairs that a type's members can expand to. -/
def expansionsOf (r : Registry) (t : TypeDef) : List Expansion :=
  (t.members?.getD []).filterMap fun (name, ref) =>
    match r.find? ref.name with
    | some u => if r.classify u = .object then some (name, u.name) else none
    | none => none

/-- The pairs that a walk from a type might still record. -/
def unrecorded (r : Registry) (t : TypeDef) (m : Memo) : List Expansion :=
  (((t :: r.types).flatMap r.expansionsOf).filter (· ∉ m.expanded)).eraseDups

/-- Every body but the outermost records a pair, so the pairs that are not in
the memo bound the nesting. -/
def depthBound (r : Registry) (t : TypeDef) (m : Memo) : Nat := (r.unrecorded t m).length + 1

/-- The default selection of a type as a tree. -/
def selectionTree (r : Registry) (t : TypeDef) (m : Memo) : Walk (List SelectionNode) :=
  (r.expand (r.depthBound t m) t m).getD ⟨.ok [], m⟩

/-- The default selection of a type as text. -/
def synthesize (r : Registry) (t : TypeDef) (m : Memo) : Walk String :=
  let w := r.selectionTree t m
  ⟨w.result.map SelectionNode.bodyText, w.memo⟩

/-- The default selection of a type, from an empty memo. -/
def selectionOf (r : Registry) (t : TypeDef) : Except SchemaError String :=
  (r.synthesize t .empty).result

/-- The default selection of the type of a given name. -/
def defaultSelection (r : Registry) (name : String) : Except SchemaError String := do
  r.selectionOf (← r.get name)

/-- The default selections of all types that need one, each from an empty
memo; the first failure is that of the whole. -/
def defaultSelections (r : Registry) : Except SchemaError (List (String × String)) :=
  r.objectLikeTypes.mapM fun t => (r.selectionOf t).map fun s => (t.name, s)

end Registry
end GraphCalls
