/-
JSON text as a tree that keeps all of it.

A source tree holds every member of an object in its place, repeated names
included, and every scalar as it is written. A text that stops being JSON
still has a tree: the fault is a leaf of it, and each container around the
fault is marked as unfinished. So readers are functions on trees, and one that
goes through a tree in order meets the fault exactly where the text has it.
-/
import GraphCalls.Json.Token

namespace GraphCalls

/-- JSON text as a tree. The fault of an array or an object says where its
text stops being JSON; with none it is complete. -/
inductive Source where
  | null
  | bool (value : Bool)
  | number (literal : NumberLiteral)
  | string (literal : StringLiteral)
  | array (items : List Source) (fault : Option Fault)
  | object (members : List (StringLiteral × Source)) (fault : Option Fault)
  | broken (fault : Fault)

namespace Source

/-- A container whose end has not been reached: its items or members so far,
the last first. -/
inductive Frame where
  | array (items : List Source)
  | object (members : List (StringLiteral × Source)) (key : StringLiteral)

/-- What may come next. -/
inductive Phase where
  /-- A value. -/
  | value
  /-- The first item of an array, or its end. -/
  | firstItem
  /-- A comma and another item, or the end of the array. -/
  | afterItem (items : List Source)
  /-- The first member of an object, or its end. -/
  | firstKey
  /-- A key, after a comma. -/
  | key (members : List (StringLiteral × Source))
  /-- The colon after a key. -/
  | colon (members : List (StringLiteral × Source)) (key : StringLiteral)
  /-- A comma and another member, or the end of the object. -/
  | afterMember (members : List (StringLiteral × Source))
  /-- Nothing: the text's value is complete. -/
  | finished (root : Source)

/-- A text's tree, and whether more text follows its value. -/
structure Document where
  root : Source
  trailing : Bool

/-- Ends every open container at a fault inside the innermost one. -/
def close (fault : Fault) (inner : Source) : List Frame → Source
  | [] => inner
  | .array items :: up => close fault (.array (inner :: items).reverse (some fault)) up
  | .object members key :: up =>
    close fault (.object ((key, inner) :: members).reverse (some fault)) up

/-- The tree of a text that stops being JSON in a given phase. -/
def failAt (fault : Fault) (up : List Frame) : Phase → Document
  | .value => ⟨close fault (.broken fault) up, false⟩
  | .firstItem => ⟨close fault (.array [] (some fault)) up, false⟩
  | .afterItem items => ⟨close fault (.array items.reverse (some fault)) up, false⟩
  | .firstKey => ⟨close fault (.object [] (some fault)) up, false⟩
  | .key members => ⟨close fault (.object members.reverse (some fault)) up, false⟩
  | .colon members key =>
    ⟨close fault (.object ((key, .broken fault) :: members).reverse (some fault)) up, false⟩
  | .afterMember members => ⟨close fault (.object members.reverse (some fault)) up, false⟩
  | .finished root => ⟨root, true⟩

/-- Puts a complete value in its place. -/
def complete (s : Source) : List Frame → List Frame × Phase
  | [] => ([], .finished s)
  | .array items :: up => (up, .afterItem (s :: items))
  | .object members key :: up => (up, .afterMember ((key, s) :: members))

/-- What follows a token where a value may stand; none if the token starts
none. -/
def startValue (up : List Frame) : Token → Except Fault (List Frame × Phase)
  | .null => .ok (complete .null up)
  | .bool b => .ok (complete (.bool b) up)
  | .number l => .ok (complete (.number l) up)
  | .string l => .ok (complete (.string l) up)
  | .openArray => .ok (up, .firstItem)
  | .openObject => .ok (up, .firstKey)
  | .broken f => .error f
  | _ => .error (.plain .malformed)

/-- One token. A token that may not stand where it does is a fault; only a
string may break off inside where a key is expected. -/
def step (up : List Frame) (phase : Phase) (t : Token) : Except Document (List Frame × Phase) :=
  let stray : Except Document (List Frame × Phase) :=
    .error (failAt (.plain .malformed) up phase)
  match phase, t with
  | .value, t =>
    match startValue up t with
    | .ok next => .ok next
    | .error f => .error (failAt f up .value)
  | .firstItem, .closeArray => .ok (complete (.array [] none) up)
  | .firstItem, t =>
    match startValue (.array [] :: up) t with
    | .ok next => .ok next
    | .error f => .error (failAt f (.array [] :: up) .value)
  | .afterItem items, .comma => .ok (.array items :: up, .value)
  | .afterItem items, .closeArray => .ok (complete (.array items.reverse none) up)
  | .firstKey, .closeObject => .ok (complete (.object [] none) up)
  | .firstKey, .string k => .ok (up, .colon [] k)
  | .firstKey, .broken (.inString ps e) => .error (failAt (.inString ps e) up .firstKey)
  | .key members, .string k => .ok (up, .colon members k)
  | .key members, .broken (.inString ps e) => .error (failAt (.inString ps e) up (.key members))
  | .colon members k, .colon => .ok (.object members k :: up, .value)
  | .afterMember members, .comma => .ok (up, .key members)
  | .afterMember members, .closeObject => .ok (complete (.object members.reverse none) up)
  | _, _ => stray

/-- The tree of the tokens that follow. -/
def build (up : List Frame) (phase : Phase) : List Token → Document
  | [] =>
    match phase with
    | .finished root => ⟨root, false⟩
    | phase => failAt (.plain .truncated) up phase
  | t :: ts =>
    match step up phase t with
    | .ok (up, phase) => build up phase ts
    | .error d => d

/-- The tree of a text. -/
def parse (text : String) : Document := build [] .value (Token.ofText text)

/-- Where the text inside a tree stops being JSON. -/
def fault? : Source → Option Fault
  | .array _ f | .object _ f => f
  | .broken f => some f
  | _ => none

/-- The error on a value of the wrong kind. A scalar is read first, so one
that cannot be stored is reported as that. -/
def wrongKind : Source → ReadError
  | .number l => if l.value?.isSome then .mismatch else .malformed
  | .string l => if l.value?.isSome then .mismatch else .malformed
  | .broken f => f.kept
  | _ => .mismatch

end Source

namespace Json

/-- The levels of arrays and objects that may be stored or read as records,
all in all. -/
def maxDepth : Nat := 127

/-- An error where a container's text is broken, and the value otherwise. -/
def unlessBroken {α : Type} (fault : Option Fault) (a : α) : Except ReadError α :=
  match fault with
  | none => .ok a
  | some f => .error f.kept

/-- The string that a literal stores. -/
def storedString (l : StringLiteral) : Except ReadError String :=
  match l.value? with
  | some s => .ok s
  | none => .error .malformed

/-- The value that a tree stores, if `depth` more levels may be opened. -/
def ofSource (depth : Nat) : Source → Except ReadError Json
  | .null => .ok .null
  | .bool b => .ok (.bool b)
  | .number l =>
    match l.value? with
    | some n => .ok (.number n)
    | none => .error .malformed
  | .string l => (storedString l).map .string
  | .array xs fault =>
    match depth with
    | 0 => .error .malformed
    | depth + 1 => do
      let vs ← items depth xs
      unlessBroken fault (.array vs)
  | .object ms fault =>
    match depth with
    | 0 => .error .malformed
    | depth + 1 => do
      let vs ← members depth ms
      unlessBroken fault (ofMembers vs)
  | .broken f => .error f.kept
where
  items (depth : Nat) : List Source → Except ReadError (List Json)
    | [] => .ok []
    | x :: xs => do
      let v ← ofSource depth x
      let vs ← items depth xs
      return v :: vs
  members (depth : Nat) : List (StringLiteral × Source) → Except ReadError (List (String × Json))
    | [] => .ok []
    | (k, x) :: ms => do
      let name ← storedString k
      let v ← ofSource depth x
      let vs ← members depth ms
      return (name, v) :: vs

end Json

namespace Source.Document

/-- What a reader of trees makes of a text; nothing may follow the value. -/
def read {α : Type} (f : Source → Except ReadError α) (d : Document) : Except ReadError α := do
  let a ← f d.root
  if d.trailing then throw .malformed
  return a

end Source.Document

namespace Json

/-- The value that a text stores. -/
def ofText (text : String) : Except ReadError Json := (Source.parse text).read (ofSource maxDepth)

end Json
end GraphCalls
