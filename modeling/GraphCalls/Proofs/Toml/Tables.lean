/-
Tables that sections fill.

A new name goes behind those that are there. So a section that opens a new table
leaves all others as they are, and its settings are then the entries of this
table, in order (`Section.foldlM_fill`).
-/
import GraphCalls.Proofs.Entries
import GraphCalls.Proofs.Json.Order
import GraphCalls.Proofs.Toml.Sections

namespace GraphCalls
namespace Toml

namespace Layout

variable {es inner : Layout} {k : String} {o : Origin} {path : List String}

theorem assign_new (v : Toml) (h : k ∉ es.map Prod.fst) : assign v [k] es = some (es ++ [(k, .value v)]) := by
  rw [assign, Entries.get?_of_not_mem h, Entries.set_of_not_mem h]
  rfl

/-- What is done in the last table leaves those before it as they are. -/
theorem within_last (f : Layout → Option Layout) (h : k ∉ es.map Prod.fst) :
    within f (k :: path) (es ++ [(k, .table o inner)]) =
      (within f path inner).map fun inner => es ++ [(k, .table o inner)] := by
  rw [within, Entries.get?_concat h]
  simp only [Entries.set_concat h]

theorem declare_last (f : Option Node → Option Node) (h : k ∉ es.map Prod.fst) (hpath : path ≠ []) :
    declare f (k :: path) (es ++ [(k, .table o inner)]) =
      (declare f path inner).map fun inner => es ++ [(k, .table o inner)] := by
  cases path with
  | nil => exact absurd rfl hpath
  | cons l path =>
    rw [declare, Entries.get?_concat h]
    · simp only [Entries.set_concat h]
    · exact hpath

theorem declare_implied (f : Option Node → Option Node) (h : k ∉ es.map Prod.fst) (hpath : path ≠ []) :
    declare f (k :: path) es = (declare f path []).map fun inner => es ++ [(k, .table .implied inner)] := by
  cases path with
  | nil => exact absurd rfl hpath
  | cons l path =>
    rw [declare, Entries.get?_of_not_mem h]
    · simp only [Entries.set_of_not_mem h]
    · exact hpath

theorem declare_new (h : k ∉ es.map Prod.fst) : declare openTable [k] es = some (es ++ [(k, .table .opened [])]) := by
  rw [declare, Entries.get?_of_not_mem h, openTable, Option.map_some, Entries.set_of_not_mem h]

end Layout

namespace Section

/-- The nodes of settings. -/
def nodes (settings : List (String × Setting)) : Layout := settings.map fun v => (v.1, .value v.2.toToml)

/-- New settings stand behind those that a table has. -/
theorem foldlM_fill {path : List String} (around : Layout → Layout)
    (haround : ∀ f inner, Layout.within f path (around inner) = (f inner).map around) :
    ∀ (settings : List (String × Setting)) (inner : Layout),
      (inner.map Prod.fst ++ settings.map Prod.fst).Nodup →
        settings.foldlM (fill path) (around inner) = some (around (inner ++ nodes settings))
  | [], inner, _ => by simp [nodes]
  | v :: settings, inner, h => by
    have hnew : v.1 ∉ inner.map Prod.fst := fun hm => List.disjoint_of_nodup_append h hm (List.mem_cons_self ..)
    have hrest : ((inner ++ [(v.1, Node.value v.2.toToml)]).map Prod.fst ++ settings.map Prod.fst).Nodup := by
      simpa using h
    rw [List.foldlM_cons, fill, haround, Layout.assign_new _ hnew]
    simp only [Option.map_some, Option.bind_eq_bind, Option.bind_some]
    rw [foldlM_fill around haround settings _ hrest]
    simp [nodes]

theorem map_fst_nodes (settings : List (String × Setting)) : (nodes settings).map Prod.fst = settings.map Prod.fst := by
  simp [nodes]

end Section
end Toml
end GraphCalls
