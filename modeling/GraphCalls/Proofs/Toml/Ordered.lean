/-
Values that are read from a text are in order throughout.

A table gets the order of its members when its layout is done, so a layout
needs no order of its own: it is enough that the values in it are in order, and
nothing that lines do changes that (`Progress.sorted_line`).
-/
import GraphCalls.Proofs.Entries
import GraphCalls.Proofs.Json.Order
import GraphCalls.Toml.Parser

namespace GraphCalls
namespace Toml

/-- The members of every table are in increasing order of their names. -/
def Sorted : Toml → Prop
  | .array xs => items xs
  | .table ms => Json.InOrder ms ∧ members ms
  | _ => True
where
  items : List Toml → Prop
    | [] => True
    | x :: xs => Sorted x ∧ items xs
  members : List (String × Toml) → Prop
    | [] => True
    | (_, x) :: ms => Sorted x ∧ members ms

theorem sorted_items_iff : ∀ {xs : List Toml}, Sorted.items xs ↔ ∀ x ∈ xs, x.Sorted
  | [] => by simp [Sorted.items]
  | x :: xs => by rw [Sorted.items, sorted_items_iff, List.forall_mem_cons]

theorem sorted_members_iff : ∀ {ms : List (String × Toml)}, Sorted.members ms ↔ ∀ m ∈ ms, m.2.Sorted
  | [] => by simp [Sorted.members]
  | m :: ms => by rw [Sorted.members, sorted_members_iff, List.forall_mem_cons]

/-! ## Layouts -/

/-- The values in a node are in order. -/
def Node.Sorted : Node → Prop
  | .value v => v.Sorted
  | .table _ es => entries es
  | .tables ts => elements ts
where
  entries : List (String × Node) → Prop
    | [] => True
    | (_, n) :: es => Node.Sorted n ∧ entries es
  elements : List (List (String × Node)) → Prop
    | [] => True
    | es :: ts => entries es ∧ elements ts

/-- The values in a layout are in order. -/
def Layout.Sorted (es : Layout) : Prop := ∀ e ∈ es, e.2.Sorted

theorem Node.sorted_entries_iff : ∀ {es : Layout}, Node.Sorted.entries es ↔ es.Sorted
  | [] => by simp [Node.Sorted.entries, Layout.Sorted]
  | e :: es => by rw [Node.Sorted.entries, sorted_entries_iff, Layout.Sorted, Layout.Sorted, List.forall_mem_cons]

theorem Node.sorted_elements_iff : ∀ {ts : List Layout}, Node.Sorted.elements ts ↔ ∀ es ∈ ts, es.Sorted
  | [] => by simp [Node.Sorted.elements]
  | es :: ts => by rw [Node.Sorted.elements, sorted_elements_iff, sorted_entries_iff, List.forall_mem_cons]

/-- What a table is made from has no say in the order of its members. -/
theorem sorted_table {ms : List (String × Toml)} (h : ∀ m ∈ ms, m.2.Sorted) : (table (Json.sortMembers ms)).Sorted :=
  ⟨Json.inOrder_sortMembers ms, sorted_members_iff.2 fun m hm => h m (Json.mem_of_mem_sortMembers hm)⟩

theorem Node.sorted_toToml : {n : Node} → n.Sorted → n.toToml.Sorted
  | .value _, h => h
  | .table _ es, h => sorted_table (members h)
  | .tables ts, h => sorted_items_iff.2 (elements h)
where
  members : {es : List (String × Node)} → Node.Sorted.entries es → ∀ m ∈ Node.toToml.members es, m.2.Sorted
    | [], _ => by simp [Node.toToml.members]
    | (_, n) :: es, h => List.forall_mem_cons.2 ⟨sorted_toToml h.1, members h.2⟩
  elements : {ts : List (List (String × Node))} → Node.Sorted.elements ts → ∀ x ∈ Node.toToml.elements ts, x.Sorted
    | [], _ => by simp [Node.toToml.elements]
    | es :: ts, h => List.forall_mem_cons.2 ⟨sorted_table (members h.1), elements h.2⟩

namespace Layout

variable {es es' : Layout} {k : String} {n : Node} {path : List String} {v : Toml}

theorem sorted_nil : Sorted [] := by simp [Sorted]

theorem Sorted.set (hes : es.Sorted) (hn : n.Sorted) : (Sorted (Entries.set k n es)) := by
  induction es with
  | nil => exact List.forall_mem_singleton.2 hn
  | cons e es ih =>
    obtain ⟨he, hes⟩ := List.forall_mem_cons.1 hes
    rw [Entries.set]
    split
    · exact List.forall_mem_cons.2 ⟨hn, hes⟩
    · exact List.forall_mem_cons.2 ⟨he, ih hes⟩

theorem Sorted.get? (hes : es.Sorted) (h : Entries.get? es k = some n) : n.Sorted := hes _ (Entries.mem_of_get? h)

theorem Sorted.onLast {f : Layout → Option Layout} (hf : ∀ {es es'}, es.Sorted → f es = some es' → es'.Sorted) :
    ∀ {ts ts' : List Layout}, (∀ es ∈ ts, es.Sorted) → Layout.onLast f ts = some ts' → ∀ es ∈ ts', es.Sorted
  | [es], ts', hts, h => by
    obtain ⟨es', hes', rfl⟩ := Option.map_eq_some_iff.1 h
    exact List.forall_mem_singleton.2 (hf (hts es (List.mem_singleton_self es)) hes')
  | es :: e :: ts, ts', hts, h => by
    obtain ⟨hes, hts⟩ := List.forall_mem_cons.1 hts
    obtain ⟨rest, hrest, rfl⟩ := Option.map_eq_some_iff.1 h
    exact List.forall_mem_cons.2 ⟨hes, Sorted.onLast hf hts hrest⟩

theorem Sorted.of_map_set {α : Type} {x : Option α} {node : α → Node} (hes : es.Sorted)
    (hx : ∀ a, x = some a → (node a).Sorted) (h : (x.map fun a => Entries.set k (node a) es) = some es') :
    es'.Sorted := by
  obtain ⟨a, ha, rfl⟩ := Option.map_eq_some_iff.1 h
  exact hes.set (hx a ha)

theorem Sorted.table {o : Origin} (h : es.Sorted) : (Node.table o es).Sorted := Node.sorted_entries_iff.2 h

theorem Sorted.tables {ts : List Layout} (h : ∀ es ∈ ts, es.Sorted) : (Node.tables ts).Sorted :=
  Node.sorted_elements_iff.2 h

theorem Sorted.inner {o : Origin} {inner : Layout} (hes : es.Sorted) (h : Entries.get? es k = some (.table o inner)) :
    inner.Sorted := Node.sorted_entries_iff.1 (hes.get? h)

theorem Sorted.elements {ts : List Layout} (hes : es.Sorted) (h : Entries.get? es k = some (.tables ts)) :
    ∀ es ∈ ts, es.Sorted := Node.sorted_elements_iff.1 (hes.get? h)

theorem Sorted.assign (hv : v.Sorted) : ∀ {path : List String} {es es' : Layout}, es.Sorted →
    Layout.assign v path es = some es' → es'.Sorted
  | [k], es, es', hes, h => by
    rw [Layout.assign] at h
    split at h
    · cases h
    · cases h
      exact hes.set hv
  | k :: l :: path, es, es', hes, h => by
    have ih := @Sorted.assign hv (l :: path)
    simp only [Layout.assign] at h
    split at h
    next => exact hes.of_map_set (fun inner hinner => (ih sorted_nil hinner).table) h
    next hk => exact hes.of_map_set (fun inner' hinner => (ih (hes.inner hk) hinner).table) h
    next hk =>
      split at h
      · cases h
      · exact hes.of_map_set (fun inner' hinner => (ih (hes.inner hk) hinner).table) h
    next hk =>
      split at h
      · cases h
      · exact hes.of_map_set (fun ts' hts => Sorted.tables (Sorted.onLast ih (hes.elements hk) hts)) h
    all_goals cases h

theorem Sorted.declare {f : Option Node → Option Node}
    (hf : ∀ {n n'}, (∀ m ∈ n, m.Sorted) → f n = some n' → n'.Sorted) : ∀ {path : List String} {es es' : Layout},
    es.Sorted → Layout.declare f path es = some es' → es'.Sorted
  | [k], es, es', hes, h => hes.of_map_set (fun n hn => hf (fun m hm => hes.get? hm) hn) h
  | k :: l :: path, es, es', hes, h => by
    have ih := @Sorted.declare f hf (l :: path)
    simp only [Layout.declare] at h
    split at h
    next => exact hes.of_map_set (fun inner hinner => (ih sorted_nil hinner).table) h
    next hk => exact hes.of_map_set (fun inner' hinner => (ih (hes.inner hk) hinner).table) h
    next hk =>
      exact hes.of_map_set (fun ts' hts => Sorted.tables (Sorted.onLast ih (hes.elements hk) hts)) h
    next => cases h

theorem Sorted.within {f : Layout → Option Layout} (hf : ∀ {es es'}, es.Sorted → f es = some es' → es'.Sorted) :
    ∀ {path : List String} {es es' : Layout}, es.Sorted → Layout.within f path es = some es' → es'.Sorted
  | [], es, es', hes, h => hf hes h
  | k :: path, es, es', hes, h => by
    have ih := @Sorted.within f hf path
    rw [Layout.within] at h
    split at h
    next hk => exact hes.of_map_set (fun inner' hinner => (ih (hes.inner hk) hinner).table) h
    next hk =>
      exact hes.of_map_set (fun ts' hts => Sorted.tables (Sorted.onLast ih (hes.elements hk) hts)) h
    next => cases h

theorem sorted_openTable {n : Option Node} {n' : Node} (hn : ∀ m ∈ n, m.Sorted) (h : openTable n = some n') :
    n'.Sorted := by
  rw [openTable.eq_def] at h
  split at h
  · cases h
    trivial
  next inner =>
    cases h
    have hinner : (Node.table .implied inner).Sorted := hn _ rfl
    exact hinner
  · cases h

theorem sorted_addTable {n : Option Node} {n' : Node} (hn : ∀ m ∈ n, m.Sorted) (h : addTable n = some n') :
    n'.Sorted := by
  rw [addTable.eq_def] at h
  split at h
  · cases h
    exact ⟨trivial, trivial⟩
  · cases h
    refine Node.sorted_elements_iff.2 (List.forall_mem_append.2 ⟨Node.sorted_elements_iff.1 (hn _ rfl), ?_⟩)
    exact List.forall_mem_singleton.2 sorted_nil
  · cases h

theorem Sorted.toToml (h : es.Sorted) : es.toToml.Sorted := Node.sorted_toToml (Sorted.table (o := .opened) h)

end Layout

/-! ## Values and lines -/

theorem Scalar.sorted_of_ofChars? {cs : List Char} {v : Toml} (h : ofChars? cs = some v) : v.Sorted := by
  rw [ofChars?] at h
  split at h
  · cases h
    trivial
  split at h
  · cases h
    trivial
  split at h
  · cases h
    trivial
  split at h
  · cases h
    trivial
  · obtain ⟨_, -, rfl⟩ := Option.map_eq_some_iff.1 h
    trivial

namespace Group

theorem sorted_of_value? {depth : Nat} {gs : List Group} {v : Toml} (h : value? depth gs = some v) : v.Sorted := by
  induction depth using Nat.strongRecOn generalizing gs v with
  | ind depth ih =>
    rw [value?.eq_def] at h
    split at h
    · cases h
      trivial
    · cases h
    · cases h
    next depth inner =>
      obtain ⟨xs, hxs, rfl⟩ := Option.map_eq_some_iff.1 h
      refine sorted_items_iff.2 fun x hx => ?_
      obtain ⟨gs, -, hgs⟩ := exists_mem_of_forall₂ (mapM_eq_some_iff.1 hxs).flip hx
      exact ih depth (Nat.lt_succ_self depth) hgs
    next depth inner =>
      obtain ⟨es, hes, h⟩ := Option.bind_eq_some_iff.1 h
      cases h
      refine Layout.Sorted.toToml (of_foldlM_eq_some (fun item _ es es' hes h => ?_) Layout.sorted_nil hes)
      obtain ⟨⟨path, text⟩, -, h⟩ := Option.bind_eq_some_iff.1 h
      obtain ⟨v, hv, h⟩ := Option.bind_eq_some_iff.1 h
      exact hes.assign (ih depth (Nat.lt_succ_self depth) hv) h
    next =>
      obtain ⟨cs, -, h⟩ := Option.bind_eq_some_iff.1 h
      exact Scalar.sorted_of_ofChars? h

theorem Progress.sorted_line {p p' : Progress} {gs : List Group} (hp : p.root.Sorted) (h : p.line gs = some p') :
    p'.root.Sorted := by
  rw [Progress.line] at h
  split at h
  · cases h
    exact hp
  · obtain ⟨path, -, h⟩ := Option.bind_eq_some_iff.1 h
    obtain ⟨root, hroot, h⟩ := Option.bind_eq_some_iff.1 h
    cases h
    exact hp.declare Layout.sorted_addTable hroot
  · obtain ⟨path, -, h⟩ := Option.bind_eq_some_iff.1 h
    obtain ⟨root, hroot, h⟩ := Option.bind_eq_some_iff.1 h
    cases h
    exact hp.declare Layout.sorted_openTable hroot
  · obtain ⟨⟨path, text⟩, -, h⟩ := Option.bind_eq_some_iff.1 h
    obtain ⟨v, hv, h⟩ := Option.bind_eq_some_iff.1 h
    obtain ⟨root, hroot, h⟩ := Option.bind_eq_some_iff.1 h
    cases h
    exact hp.within (Layout.Sorted.assign (sorted_of_value? hv)) hroot

end Group

/-- **What a text writes is in order throughout.** -/
theorem sorted_of_ofText? {text : String} {t : Toml} (h : ofText? text = some t) : t.Sorted := by
  obtain ⟨ts, -, h⟩ := Option.bind_eq_some_iff.1 h
  obtain ⟨gs, -, h⟩ := Option.bind_eq_some_iff.1 h
  obtain ⟨p, hp, h⟩ := Option.bind_eq_some_iff.1 h
  cases h
  exact (of_foldlM_eq_some (p := fun p : Group.Progress => p.root.Sorted)
    (fun _ _ _ _ => Group.Progress.sorted_line) Layout.sorted_nil hp).toToml

end Toml
end GraphCalls
