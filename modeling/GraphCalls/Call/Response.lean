/-
Responses to an operation.

A response has data, errors or both. What a server adds to an error entry
beyond the known fields is kept; what it adds elsewhere is skipped.
-/
import GraphCalls.Json.Reader

namespace GraphCalls

/-- A place in a document. -/
structure Location where
  line : Nat
  column : Nat
deriving DecidableEq

/-- An entry of a response's errors. -/
structure ErrorEntry where
  message : String
  locations : List Location
  path : Option (List Json)
  extensions : Option Json
  /-- Members beyond the known ones, by name. -/
  extra : List (String × Json)
deriving DecidableEq

/-- A response whose data is of type `δ`. -/
structure Response (δ : Type) where
  data : Option δ
  errors : Option (List ErrorEntry)
  extensions : Option Json
deriving DecidableEq

/-! ## Reading -/

namespace Location

structure Draft where
  line : Option Int := none
  column : Option Int := none

/-- Lines and columns fit 32 bits. -/
def coordinate : Reader Int := .integer 0 Bounds.maxUnsigned32

def record : Record Draft Location where
  fields := [
    .of "line" false coordinate Draft.line fun n d => { d with line := some n },
    .of "column" false coordinate Draft.column fun n d => { d with column := some n }]
  empty := {}
  keep := none
  finish d := do return ⟨(← d.line).toNat, (← d.column).toNat⟩

end Location

namespace ErrorEntry

structure Draft where
  message : Option String := none
  locations : Option (List Location) := none
  path : Option (Option (List Json)) := none
  extensions : Option (Option Json) := none
  extra : List (String × Json) := []

/-- Every field may be absent; only an object is an entry. -/
def record : Record Draft ErrorEntry where
  fields := [
    .of "message" true .string Draft.message fun s d => { d with message := some s },
    .of "locations" true (.list Location.record.reader) Draft.locations
      fun ls d => { d with locations := some ls },
    .of "path" true (.option (.list .json)) Draft.path fun p d => { d with path := some p },
    .of "extensions" true (.option .json) Draft.extensions
      fun v d => { d with extensions := some v }]
  empty := {}
  keep := some fun name v d => { d with extra := Json.insertMember name v d.extra }
  finish d := some {
    message := d.message.getD ""
    locations := d.locations.getD []
    path := d.path.join
    extensions := d.extensions.join
    extra := d.extra }

end ErrorEntry

namespace Response

structure Draft (δ : Type) where
  data : Option (Option δ) := none
  errors : Option (Option (List ErrorEntry)) := none
  extensions : Option (Option Json) := none

/-- A response whose data is read by `r`. The array form must have the data;
an object may leave it out. -/
def record {δ : Type} (r : Reader δ) : Record (Draft δ) (Response δ) where
  fields := [
    .of "data" false (.option r) Draft.data fun v d => { d with data := some v },
    .of "errors" true (.option (.list ErrorEntry.record.reader)) Draft.errors
      fun es d => { d with errors := some es },
    .of "extensions" true (.option .json) Draft.extensions
      fun v d => { d with extensions := some v }]
  empty := {}
  keep := none
  finish d := some ⟨d.data.join, d.errors.join, d.extensions.join⟩

def reader {δ : Type} (r : Reader δ) : Reader (Response δ) := (record r).reader

/-- The response that a text holds. -/
def ofText {δ : Type} (r : Reader δ) (text : String) : Except ReadError (Response δ) :=
  (reader r).ofText text

/-- The response that a value holds. -/
def ofJson {δ : Type} (r : Reader δ) (v : Json) : Option (Response δ) := (reader r).ofJson v

/-! ## Asking -/

variable {δ : Type}

def errorEntries (r : Response δ) : List ErrorEntry := r.errors.getD []

def hasErrors (r : Response δ) : Bool := !r.errorEntries.isEmpty

/-- Both data and errors. -/
def isPartial (r : Response δ) : Bool := r.data.isSome && r.hasErrors

end Response

/-! ## Writing -/

/-- A member that stands only if there is something to write. -/
def presentMember {α : Type} (name : String) (f : α → Json) : Option α → List (String × Json)
  | none => []
  | some a => [(name, f a)]

def Location.toJson (l : Location) : Json :=
  .object [("line", .ofNat l.line), ("column", .ofNat l.column)]

/-- Known fields first, then the others; absent ones are left out. -/
def ErrorEntry.toJson (e : ErrorEntry) : Json :=
  .object (("message", .string e.message) ::
    ((if e.locations.isEmpty then [] else [("locations", .array (e.locations.map Location.toJson))]) ++
      presentMember "path" .array e.path ++ presentMember "extensions" id e.extensions ++ e.extra))

/-- The data always stands, errors and extensions only if there are any. -/
def Response.toJson {δ : Type} (f : δ → Json) (r : Response δ) : Json :=
  .object (("data", .ofOption f r.data) ::
    (presentMember "errors" (fun es => .array (es.map ErrorEntry.toJson)) r.errors ++
      presentMember "extensions" id r.extensions))

end GraphCalls
