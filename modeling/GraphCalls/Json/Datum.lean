/-
Data to be written as JSON.

Values can always be written. Of other data, whatever keys the entries of a map
has to stand for a name: a pair, say, cannot key a member.
-/
import GraphCalls.Json.Printer

namespace GraphCalls

/-- Why data cannot be written. -/
inductive WriteError where
  /-- What keys an entry stands for no name. -/
  | unnamedKey
deriving DecidableEq

def WriteError.message : WriteError → String
  | .unnamedKey => "key must be a string"

/-- Data to be written: values, and lists and maps of data. What keys the
entries of a map is data too. -/
inductive Datum where
  | value (v : Json)
  | list (items : List Datum)
  | map (entries : List (Datum × Datum))

namespace Datum

/-- The name that a key stands for; numbers and truth values stand for their
spelling. -/
def name : Datum → Except WriteError String
  | .value (.string s) => .ok s
  | .value (.bool b) => .ok (Json.bool b).compact
  | .value (.number n) => .ok (Json.number n).compact
  | _ => .error .unnamedKey

/-- The value that data is written as. -/
def toJson : Datum → Except WriteError Json
  | .value v => .ok v
  | .list ds => do return .array (← items ds)
  | .map es => do return .object (← entries es)
where
  items : List Datum → Except WriteError (List Json)
    | [] => .ok []
    | d :: ds => do return (← toJson d) :: (← items ds)
  entries : List (Datum × Datum) → Except WriteError (List (String × Json))
    | [] => .ok []
    | (k, d) :: es => do return (← name k, ← toJson d) :: (← entries es)

/-- The compact text of data. -/
def text (d : Datum) : Except WriteError String := do return (← d.toJson).compact

/-- Values under names. -/
def members (ms : List (String × Json)) : Datum := .map (ms.map fun m => (.value (.string m.1), .value m.2))

theorem entries_members (ms : List (String × Json)) :
    toJson.entries (ms.map fun m => (.value (.string m.1), .value m.2)) = .ok ms := by
  induction ms with
  | nil => rfl
  | cons m ms ih =>
    rw [List.map_cons, toJson.entries, ih]
    rfl

/-- Values under names can be written, and are written as the object of them. -/
theorem toJson_members (ms : List (String × Json)) : (members ms).toJson = .ok (.object ms) := by
  rw [members, toJson, entries_members]
  rfl

end Datum
end GraphCalls
