/-
Readers of typed data, from a text and from a value alike.

A reader is given twice: on source trees, where the first fault in text order
decides the error, and on values, where the only possible fault is another
shape. A record is read from an object, member by member, or from an array of
its fields in order; the fields collect in a draft, and a final step turns
the draft into the record or finds a field missing.
-/
import GraphCalls.Json.Source
import GraphCalls.Entries

namespace GraphCalls

/-- How data of a type is read from a text and from a value. -/
structure Reader (α : Type) where
  /-- Reads a source tree, inside which `depth` more levels may be opened. -/
  ofSource (depth : Nat) : Source → Except ReadError α
  /-- Reads a value; none if it has another shape. -/
  ofJson : Json → Option α

namespace Reader

/-- Reads a text. -/
def ofText {α : Type} (r : Reader α) (text : String) : Except ReadError α :=
  (Source.parse text).read (r.ofSource Json.maxDepth)

/-- Any value. -/
def json : Reader Json := ⟨Json.ofSource, some⟩

/-- A string. -/
def string : Reader String where
  ofSource _ s := match s with
    | .string l => Json.storedString l
    | s => .error s.wrongKind
  ofJson v := match v with
    | .string s => some s
    | _ => none

/-- An integer from `lo` to `hi`. A number with point or exponent is none. -/
def integer (lo hi : Int) : Reader Int where
  ofSource _ s := match s with
    | .number l =>
      match l.value? with
      | none => .error .malformed
      | some (.int n) => if lo ≤ n ∧ n ≤ hi then .ok n else .error .mismatch
      | some (.float _) => .error .mismatch
    | s => .error s.wrongKind
  ofJson v := match v with
    | .number (.int n) => if lo ≤ n ∧ n ≤ hi then some n else none
    | _ => none

/-- Something, or null. -/
def option {α : Type} (r : Reader α) : Reader (Option α) where
  ofSource depth s := match s with
    | .null => .ok none
    | s => (r.ofSource depth s).map some
  ofJson v := match v with
    | .null => some none
    | v => (r.ofJson v).map some

/-- An array of things of one kind. -/
def list {α : Type} (r : Reader α) : Reader (List α) where
  ofSource depth s := match s, depth with
    | .array _ _, 0 => .error .malformed
    | .array xs fault, depth + 1 => do
      let as ← xs.mapM (r.ofSource depth)
      Json.unlessBroken fault as
    | s, _ => .error s.wrongKind
  ofJson v := match v with
    | .array vs => vs.mapM r.ofJson
    | _ => none

/-- An object whose members are all of one kind, in their order; of a repeated
name the first place and the last value. -/
def entries {α : Type} (r : Reader α) : Reader (Entries α) where
  ofSource depth s := match s, depth with
    | .object _ _, 0 => .error .malformed
    | .object ms fault, depth + 1 => do
      let es ← ms.foldlM (fun acc m => do
        let k ← Json.storedString m.1
        let a ← r.ofSource depth m.2
        return Entries.set k a acc) []
      Json.unlessBroken fault es
    | s, _ => .error s.wrongKind
  ofJson v := match v with
    | .object ms => ms.foldlM (fun acc m => (r.ofJson m.2).map (Entries.set m.1 · acc)) []
    | _ => none

end Reader

/-- A field of a record, as it is collected in a draft. -/
structure Field (δ : Type) where
  name : String
  /-- Whether the array form of the record may end before this field. -/
  mayBeLeftOut : Bool
  /-- Whether the draft has the field already. -/
  present : δ → Bool
  /-- Reads the field into the draft. -/
  ofSource (depth : Nat) : Source → δ → Except ReadError δ
  ofJson : Json → δ → Option δ

/-- A field read by `r`, kept where `get` and `set` say. -/
def Field.of {α δ : Type} (name : String) (mayBeLeftOut : Bool) (r : Reader α)
    (get : δ → Option α) (set : α → δ → δ) : Field δ where
  name := name
  mayBeLeftOut := mayBeLeftOut
  present d := (get d).isSome
  ofSource depth s d := (r.ofSource depth s).map (set · d)
  ofJson v d := (r.ofJson v).map (set · d)

/-- A record: its fields in order, the empty draft, what becomes of members
that are no field, and what a complete draft makes. -/
structure Record (δ α : Type) where
  fields : List (Field δ)
  empty : δ
  /-- Keeps a member that is no field. Such members are skipped if this is
  none; a record that keeps them has no array form. -/
  keep : Option (String → Json → δ → δ)
  finish : δ → Option α

namespace Record

variable {δ α : Type}

def field? (r : Record δ α) (name : String) : Option (Field δ) :=
  r.fields.find? (·.name == name)

/-- One member of an object. A field that comes again is refused before its
value is looked at. -/
def memberOfSource (r : Record δ α) (depth : Nat) (d : δ) (m : StringLiteral × Source) :
    Except ReadError δ := do
  let name ← Json.storedString m.1
  match r.field? name with
  | some f => if f.present d then throw .mismatch else f.ofSource depth m.2 d
  | none =>
    match r.keep with
    | some keep =>
      let v ← Json.ofSource depth m.2
      return keep name v d
    | none =>
      match m.2.fault? with
      | some fault => throw fault.skipped
      | none => return d

/-- The items of the array form, against the fields that they should be. -/
def itemsOfSource (depth : Nat) (fault : Option Fault) :
    List (Field δ) → List Source → δ → Except ReadError δ
  | [], [], d => Json.unlessBroken fault d
  | [], _ :: _, _ => .error .malformed
  | f :: fs, [], d =>
    match fault with
    | some fault => .error fault.kept
    | none => if f.mayBeLeftOut then itemsOfSource depth fault fs [] d else .error .mismatch
  | f :: fs, x :: xs, d => do
    let d ← f.ofSource depth x d
    itemsOfSource depth fault fs xs d

def finished (r : Record δ α) (d : δ) : Except ReadError α :=
  match r.finish d with
  | some a => .ok a
  | none => .error .mismatch

def ofSource (r : Record δ α) (depth : Nat) (s : Source) : Except ReadError α :=
  match s, depth with
  | .object _ _, 0 => .error .malformed
  | .object ms fault, depth + 1 => do
    let d ← ms.foldlM (r.memberOfSource depth) r.empty
    let d ← Json.unlessBroken fault d
    r.finished d
  | .array xs fault, depth =>
    match r.keep, depth with
    | some _, _ => .error .mismatch
    | none, 0 => .error .malformed
    | none, depth + 1 => do
      let d ← itemsOfSource depth fault r.fields xs r.empty
      r.finished d
  | s, _ => .error s.wrongKind

def memberOfJson (r : Record δ α) (d : δ) (m : String × Json) : Option δ :=
  match r.field? m.1 with
  | some f => if f.present d then none else f.ofJson m.2 d
  | none =>
    match r.keep with
    | some keep => some (keep m.1 m.2 d)
    | none => some d

def itemsOfJson : List (Field δ) → List Json → δ → Option δ
  | [], [], d => some d
  | [], _ :: _, _ => none
  | f :: fs, [], d => if f.mayBeLeftOut then itemsOfJson fs [] d else none
  | f :: fs, v :: vs, d => (f.ofJson v d).bind (itemsOfJson fs vs)

def ofJson (r : Record δ α) (v : Json) : Option α :=
  match v with
  | .object ms => (ms.foldlM r.memberOfJson r.empty).bind r.finish
  | .array vs => if r.keep.isSome then none else (itemsOfJson r.fields vs r.empty).bind r.finish
  | _ => none

/-- The reader of a record. -/
def reader (r : Record δ α) : Reader α := ⟨r.ofSource, r.ofJson⟩

end Record
end GraphCalls
