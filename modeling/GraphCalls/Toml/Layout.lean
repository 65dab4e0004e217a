/-
Tables as their statements lay them out.

A header opens a table once; the tables on the way to it may be opened later.
Dotted keys make the tables on their way, and only tables that dotted keys
made can be filled by them again. A header in double brackets adds a table to
a list of tables, and a path that goes through such a list means its last.
-/
import GraphCalls.Entries
import GraphCalls.Json.Basic
import GraphCalls.Toml.Basic

namespace GraphCalls
namespace Toml

/-- How a table came about. -/
inductive Origin where
  /-- On the way to a header. -/
  | implied
  /-- By a header of its own. -/
  | opened
  /-- On the way of a dotted key. -/
  | dotted
deriving DecidableEq

/-- What stands under a key. -/
inductive Node where
  | value (v : Toml)
  | table (origin : Origin) (entries : List (String × Node))
  | tables (elements : List (List (String × Node)))

/-- The entries of a table. -/
abbrev Layout := Entries Node

namespace Layout

/-- Changes the last element of a list. -/
def onLast {α : Type} (f : α → Option α) : List α → Option (List α)
  | [] => none
  | [a] => (f a).map ([·])
  | a :: as => (onLast f as).map (a :: ·)

/-- Sets a value under a dotted key. -/
def assign (v : Toml) : List String → Layout → Option Layout
  | [], _ => none
  | [k], es => if (es.get? k).isSome then none else some (es.set k (.value v))
  | k :: path, es =>
    match es.get? k with
    | none => (assign v path []).map fun inner => es.set k (.table .dotted inner)
    | some (.table .dotted inner) =>
      (assign v path inner).map fun inner => es.set k (.table .dotted inner)
    | some (.table .implied inner) =>
      if path.length = 1 then none
      else (assign v path inner).map fun inner => es.set k (.table .implied inner)
    | some (.tables ts) =>
      if path.length = 1 then none
      else (onLast (assign v path) ts).map fun ts => es.set k (.tables ts)
    | some (.table .opened _) | some (.value _) => none

/-- Changes what stands at the end of a header's path. -/
def declare (f : Option Node → Option Node) : List String → Layout → Option Layout
  | [], _ => none
  | [k], es => (f (es.get? k)).map fun n => es.set k n
  | k :: path, es =>
    match es.get? k with
    | none => (declare f path []).map fun inner => es.set k (.table .implied inner)
    | some (.table origin inner) =>
      (declare f path inner).map fun inner => es.set k (.table origin inner)
    | some (.tables ts) => (onLast (declare f path) ts).map fun ts => es.set k (.tables ts)
    | some (.value _) => none

/-- Opens a table, unless it was opened before. -/
def openTable : Option Node → Option Node
  | none => some (.table .opened [])
  | some (.table .implied inner) => some (.table .opened inner)
  | some _ => none

/-- Adds a table to a list of tables. -/
def addTable : Option Node → Option Node
  | none => some (.tables [[]])
  | some (.tables ts) => some (.tables (ts ++ [[]]))
  | some _ => none

/-- Changes the table that a header's path means. -/
def within (f : Layout → Option Layout) : List String → Layout → Option Layout
  | [], es => f es
  | k :: path, es =>
    match es.get? k with
    | some (.table origin inner) =>
      (within f path inner).map fun inner => es.set k (.table origin inner)
    | some (.tables ts) => (onLast (within f path) ts).map fun ts => es.set k (.tables ts)
    | _ => none

end Layout

namespace Node

/-- The value of a node: how its tables came about no longer matters. -/
def toToml : Node → Toml
  | .value v => v
  | .table _ es => .table (Json.sortMembers (members es))
  | .tables ts => .array (elements ts)
where
  members : List (String × Node) → List (String × Toml)
    | [] => []
    | (k, n) :: es => (k, toToml n) :: members es
  elements : List (List (String × Node)) → List Toml
    | [] => []
    | es :: ts => .table (Json.sortMembers (members es)) :: elements ts

end Node

/-- The table that a layout makes. -/
def Layout.toToml (es : Layout) : Toml := (Node.table .opened es).toToml

end Toml
end GraphCalls
