/-
JSON values.

An object is the list of its members. `Json.ofMembers` builds the object that
a reader keeps: names in strictly increasing order, and of several members of
one name the last. Values made for printing may list members in another
order, so the order is a property of a value (`Json.Sorted`) and not part of
its type.
-/
import GraphCalls.Number.Binary64
import GraphCalls.Number.Bounds

namespace GraphCalls

/-- A stored JSON number: an integer that fits 64 bits, with or without a
sign, or else a binary64. -/
inductive Number where
  | int (value : Int)
  | float (value : Binary64)
deriving DecidableEq

/-- The integers that are stored exactly. -/
def Number.minInt : Int := -(Bounds.minSigned64 : Int)

def Number.maxInt : Int := Bounds.maxUnsigned64

/-- A JSON value. -/
inductive Json where
  | null
  | bool (value : Bool)
  | number (value : Number)
  | string (value : String)
  | array (items : List Json)
  | object (members : List (String × Json))

namespace Json

/-- Whether two values are the same; the integer `1` is not the float `1.0`. -/
def decEq : (a b : Json) → Decidable (a = b)
  | .null, .null => isTrue rfl
  | .bool a, .bool b => if h : a = b then isTrue (h ▸ rfl) else isFalse (by simp [h])
  | .number a, .number b => if h : a = b then isTrue (h ▸ rfl) else isFalse (by simp [h])
  | .string a, .string b => if h : a = b then isTrue (h ▸ rfl) else isFalse (by simp [h])
  | .array a, .array b =>
    match items a b with
    | isTrue h => isTrue (h ▸ rfl)
    | isFalse h => isFalse (by simp [h])
  | .object a, .object b =>
    match members a b with
    | isTrue h => isTrue (h ▸ rfl)
    | isFalse h => isFalse (by simp [h])
  | .null, .bool _ | .null, .number _ | .null, .string _ | .null, .array _ | .null, .object _
  | .bool _, .null | .bool _, .number _ | .bool _, .string _ | .bool _, .array _
  | .bool _, .object _ | .number _, .null | .number _, .bool _ | .number _, .string _
  | .number _, .array _ | .number _, .object _ | .string _, .null | .string _, .bool _
  | .string _, .number _ | .string _, .array _ | .string _, .object _ | .array _, .null
  | .array _, .bool _ | .array _, .number _ | .array _, .string _ | .array _, .object _
  | .object _, .null | .object _, .bool _ | .object _, .number _ | .object _, .string _
  | .object _, .array _ => isFalse (by simp)
where
  items : (a b : List Json) → Decidable (a = b)
    | [], [] => isTrue rfl
    | [], _ :: _ | _ :: _, [] => isFalse (by simp)
    | x :: xs, y :: ys =>
      match decEq x y, items xs ys with
      | isTrue h, isTrue h' => isTrue (by simp [h, h'])
      | isFalse h, _ => isFalse (by simp [h])
      | _, isFalse h => isFalse (by simp [h])
  members : (a b : List (String × Json)) → Decidable (a = b)
    | [], [] => isTrue rfl
    | [], _ :: _ | _ :: _, [] => isFalse (by simp)
    | (k, x) :: xs, (l, y) :: ys =>
      match decEq x y, members xs ys with
      | isTrue h, isTrue h' =>
        if hk : k = l then isTrue (by simp [h, h', hk]) else isFalse (by simp [hk])
      | isFalse h, _ => isFalse (by simp [h])
      | _, isFalse h => isFalse (by simp [h])

instance : DecidableEq Json := decEq

/-! ## Members in order of their names -/

/-- Adds a member to members in increasing order of names; a member of that
name is replaced. Names compare by code points, which is also the order of
their bytes. -/
def insertMember {α : Type} (k : String) (v : α) : List (String × α) → List (String × α)
  | [] => [(k, v)]
  | (l, w) :: ms =>
    if k < l then (k, v) :: (l, w) :: ms
    else if k = l then (k, v) :: ms
    else (l, w) :: insertMember k v ms

/-- Members in increasing order of names, the last of each name. -/
def sortMembers {α : Type} (ms : List (String × α)) : List (String × α) :=
  ms.foldl (fun acc m => insertMember m.1 m.2 acc) []

/-- The object with the given members. -/
def ofMembers (ms : List (String × Json)) : Json := .object (sortMembers ms)

/-- Puts the members of every object in order. -/
def sorted : Json → Json
  | .array xs => .array (items xs)
  | .object ms => ofMembers (members ms)
  | v => v
where
  items : List Json → List Json
    | [] => []
    | x :: xs => sorted x :: items xs
  members : List (String × Json) → List (String × Json)
    | [] => []
    | (k, x) :: ms => (k, sorted x) :: members ms

/-- Every object lists its members in strictly increasing order of names. -/
def Sorted : Json → Prop
  | .array xs => items xs
  | .object ms => (ms.map Prod.fst).Pairwise (· < ·) ∧ members ms
  | _ => True
where
  items : List Json → Prop
    | [] => True
    | x :: xs => Sorted x ∧ items xs
  members : List (String × Json) → Prop
    | [] => True
    | (_, x) :: ms => Sorted x ∧ members ms

/-- The member of an object with a given name. -/
def get? (name : String) : Json → Option Json
  | .object ms => (ms.find? (·.1 == name)).map Prod.snd
  | _ => none

/-- Levels of arrays and objects, the outermost counted. -/
def depth : Json → Nat
  | .array xs => items xs + 1
  | .object ms => members ms + 1
  | _ => 0
where
  items : List Json → Nat
    | [] => 0
    | x :: xs => max (depth x) (items xs)
  members : List (String × Json) → Nat
    | [] => 0
    | (_, x) :: ms => max (depth x) (members ms)

/-- A natural number as a value. -/
def ofNat (n : Nat) : Json := .number (.int n)

/-- An optional value, absent as null. -/
def ofOption {α : Type} (f : α → Json) : Option α → Json
  | none => .null
  | some a => f a

end Json
end GraphCalls
