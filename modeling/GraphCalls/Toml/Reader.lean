/-
Readers of what settings are made of.
-/
import GraphCalls.Entries
import GraphCalls.Number.Bounds
import GraphCalls.Toml.Basic

namespace GraphCalls
namespace Toml

def string? : Toml → Option String
  | .string s => some s
  | _ => none

/-- A natural number of 64 bits. -/
def natural? : Toml → Option Nat
  | .integer n => if 0 ≤ n ∧ n ≤ Bounds.maxUnsigned64 then some n.toNat else none
  | _ => none

/-- A table of strings. -/
def strings? (t : Toml) : Option (Entries String) := do
  (← t.members?).mapM fun m => (string? m.2).map (m.1, ·)

/-- A member of a table that may be absent; what stands in its place must be
readable. -/
def member? {α : Type} (f : Toml → Option α) (name : String) (t : Toml) : Option (Option α) := do
  match (← t.members?).find? (·.1 == name) with
  | none => some none
  | some m => (f m.2).map some

end Toml
end GraphCalls
