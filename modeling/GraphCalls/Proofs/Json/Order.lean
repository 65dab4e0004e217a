/-
Members in the order of their names.

Sorting leaves members that are in order as they are (`sorted_of_sorted`), and
only moves those whose names are all different (`perm_sortMembers`). What is
stored of a source tree is in order throughout (`sorted_of_ofSource`), and nests
no deeper than it may (`depth_of_ofSource`).
-/
import GraphCalls.Json.Source
import GraphCalls.Proofs.Traversal
import Mathlib.Data.String.Basic

namespace GraphCalls

theorem Source.Document.read_eq_ok_iff {α : Type} {f : Source → Except ReadError α} {d : Source.Document} {a : α} :
    d.read f = .ok a ↔ f d.root = .ok a ∧ d.trailing = false := by
  rw [read, bind_eq_ok_iff]
  cases d.trailing with
  | true => simp [throw, throwThe, MonadExceptOf.throw]
  | false => simp [pure, Except.pure]

namespace Json

/-! ## Lists of members -/

section
variable {α : Type} {k : String} {v : α} {ms acc : List (String × α)}

/-- The names are in strictly increasing order. -/
def InOrder (ms : List (String × α)) : Prop := (ms.map Prod.fst).Pairwise (· < ·)

theorem inOrder_cons {m : String × α} : InOrder (m :: ms) ↔ (∀ n ∈ ms, m.1 < n.1) ∧ InOrder ms := by
  simp [InOrder]

theorem inOrder_append :
    InOrder (acc ++ ms) ↔ InOrder acc ∧ InOrder ms ∧ ∀ a ∈ acc, ∀ m ∈ ms, a.1 < m.1 := by
  simp [InOrder, List.pairwise_append]

theorem mem_of_mem_insertMember {m : String × α} (h : m ∈ insertMember k v ms) : m = (k, v) ∨ m ∈ ms := by
  induction ms with
  | nil => exact .inl (List.mem_singleton.1 h)
  | cons n ms ih =>
    obtain ⟨l, w⟩ := n
    rw [insertMember] at h
    split at h
    · exact List.mem_cons.1 h
    split at h
    · exact (List.mem_cons.1 h).imp id (List.mem_cons_of_mem _)
    rcases List.mem_cons.1 h with rfl | h
    · exact .inr (List.mem_cons_self ..)
    · exact (ih h).imp id (List.mem_cons_of_mem _)

theorem inOrder_insertMember (h : InOrder ms) : InOrder (insertMember k v ms) := by
  induction ms with
  | nil => exact List.pairwise_singleton ..
  | cons n ms ih =>
    obtain ⟨l, w⟩ := n
    obtain ⟨hl, hms⟩ := inOrder_cons.1 h
    rw [insertMember]
    split
    next hk => exact inOrder_cons.2 ⟨List.forall_mem_cons.2 ⟨hk, fun m hm => hk.trans (hl m hm)⟩, h⟩
    split
    next hk =>
      subst hk
      exact inOrder_cons.2 ⟨hl, hms⟩
    next hlt hne =>
      have hk : l < k := lt_of_le_of_ne (not_lt.1 hlt) (Ne.symm hne)
      refine inOrder_cons.2 ⟨fun m hm => ?_, ih hms⟩
      rcases mem_of_mem_insertMember hm with rfl | hm
      · exact hk
      · exact hl m hm

theorem insertMember_of_last (h : ∀ m ∈ ms, m.1 < k) : insertMember k v ms = ms ++ [(k, v)] := by
  induction ms with
  | nil => rfl
  | cons n ms ih =>
    obtain ⟨hn, hms⟩ := List.forall_mem_cons.1 h
    rw [insertMember, if_neg (lt_asymm hn), if_neg (ne_of_gt hn), ih hms]
    rfl

theorem perm_insertMember (h : k ∉ ms.map Prod.fst) : (insertMember k v ms).Perm ((k, v) :: ms) := by
  induction ms with
  | nil => exact List.Perm.refl _
  | cons n ms ih =>
    simp only [List.map_cons, List.mem_cons, not_or] at h
    rw [insertMember]
    split
    · exact List.Perm.refl _
    rw [if_neg h.1]
    exact ((ih h.2).cons n).trans (List.Perm.swap _ _ ms)

theorem insertMember_comm_of_lt {k l : String} (h : k < l) (v w : α) : ∀ ms : List (String × α),
    insertMember k v (insertMember l w ms) = insertMember l w (insertMember k v ms)
  | [] => by simp [insertMember, h, lt_asymm h, ne_of_gt h]
  | (n, x) :: ms => by
    have ih := insertMember_comm_of_lt h v w ms
    rcases lt_trichotomy k n with hk | rfl | hk
    · rcases lt_trichotomy l n with hl | rfl | hl <;> simp [insertMember, lt_asymm, ne_of_gt, *]
    · simp [insertMember, lt_asymm h, ne_of_gt h]
    · have hl := hk.trans h
      simp [insertMember, lt_asymm hk, ne_of_gt hk, lt_asymm hl, ne_of_gt hl, ih]

/-- Two members may be added in either order. -/
theorem insertMember_comm {k l : String} (h : k ≠ l) (v w : α) (ms : List (String × α)) :
    insertMember k v (insertMember l w ms) = insertMember l w (insertMember k v ms) := by
  rcases lt_or_gt_of_ne h with h | h
  · exact insertMember_comm_of_lt h v w ms
  · exact (insertMember_comm_of_lt h w v ms).symm

end

/-! ## Sorting them -/

section
variable {α : Type}

/-- Sorting goes on from members that are sorted already. -/
def sortOnto (acc ms : List (String × α)) : List (String × α) :=
  ms.foldl (fun acc m => insertMember m.1 m.2 acc) acc

theorem mem_of_mem_sortOnto {m : String × α} :
    ∀ acc ms : List (String × α), m ∈ sortOnto acc ms → m ∈ acc ∨ m ∈ ms
  | _, [], h => .inl h
  | acc, n :: ms, h => by
    rcases mem_of_mem_sortOnto (insertMember n.1 n.2 acc) ms h with h | h
    · rcases mem_of_mem_insertMember h with rfl | h
      · exact .inr (List.mem_cons_self ..)
      · exact .inl h
    · exact .inr (List.mem_cons_of_mem _ h)

theorem inOrder_sortOnto : ∀ acc ms : List (String × α), InOrder acc → InOrder (sortOnto acc ms)
  | _, [], h => h
  | acc, n :: ms, h => inOrder_sortOnto (insertMember n.1 n.2 acc) ms (inOrder_insertMember h)

theorem sortOnto_of_inOrder : ∀ acc ms : List (String × α), InOrder (acc ++ ms) → sortOnto acc ms = acc ++ ms
  | acc, [], _ => (List.append_nil acc).symm
  | acc, m :: ms, h => by
    have hlast : ∀ a ∈ acc, a.1 < m.1 := fun a ha => (inOrder_append.1 h).2.2 a ha m (List.mem_cons_self ..)
    have hnext : acc ++ m :: ms = (acc ++ [m]) ++ ms := by rw [List.append_assoc, List.singleton_append]
    rw [hnext] at h ⊢
    rw [← sortOnto_of_inOrder (acc ++ [m]) ms h, ← insertMember_of_last hlast]
    rfl

theorem perm_sortOnto : ∀ acc ms : List (String × α), ((acc ++ ms).map Prod.fst).Nodup →
    (sortOnto acc ms).Perm (acc ++ ms)
  | acc, [], _ => by rw [List.append_nil]; exact List.Perm.refl _
  | acc, m :: ms, h => by
    have hnext : (acc ++ m :: ms).Perm (m :: acc ++ ms) := List.perm_middle
    have hnodup : (m.1 :: (acc ++ ms).map Prod.fst).Nodup := (hnext.map Prod.fst).nodup_iff.1 h
    have hm : m.1 ∉ acc.map Prod.fst := by
      have hall := (List.nodup_cons.1 hnodup).1
      rw [List.map_append, List.mem_append, not_or] at hall
      exact hall.1
    have hins : (insertMember m.1 m.2 acc ++ ms).Perm (m :: acc ++ ms) := (perm_insertMember hm).append_right ms
    have hrest : (sortOnto (insertMember m.1 m.2 acc) ms).Perm (insertMember m.1 m.2 acc ++ ms) :=
      perm_sortOnto _ ms ((hins.map Prod.fst).nodup_iff.2 hnodup)
    exact (hrest.trans hins).trans hnext.symm

theorem mem_of_mem_sortMembers {m : String × α} {ms : List (String × α)} (h : m ∈ sortMembers ms) : m ∈ ms :=
  (mem_of_mem_sortOnto [] ms h).resolve_left (List.not_mem_nil)

theorem inOrder_sortMembers (ms : List (String × α)) : InOrder (sortMembers ms) :=
  inOrder_sortOnto [] ms List.Pairwise.nil

theorem sortMembers_of_inOrder {ms : List (String × α)} (h : InOrder ms) : sortMembers ms = ms :=
  sortOnto_of_inOrder [] ms h

theorem perm_sortMembers {ms : List (String × α)} (h : (ms.map Prod.fst).Nodup) : (sortMembers ms).Perm ms :=
  perm_sortOnto [] ms h

/-- Members have one order only. -/
theorem sortMembers_eq_of_perm {ms ns : List (String × α)} (hp : ms.Perm ns) (hn : InOrder ns) :
    sortMembers ms = ns := by
  have hms : (ms.map Prod.fst).Nodup := (hp.map Prod.fst).nodup_iff.2 (hn.imp ne_of_lt)
  have hlt : ∀ {l : List (String × α)}, InOrder l → l.Pairwise fun m n => m.1 < n.1 := List.pairwise_map.1
  exact ((perm_sortMembers hms).trans hp).eq_of_pairwise
    (fun m n _ _ hmn hnm => absurd hnm (lt_asymm hmn)) (hlt (inOrder_sortMembers ms)) (hlt hn)

/-- Sorting sees the names only. -/
theorem sortMembers_map {β : Type} {ms : List (String × α)} (h : (ms.map Prod.fst).Nodup) (f : α → β) :
    sortMembers (ms.map fun m => (m.1, f m.2)) = (sortMembers ms).map fun m => (m.1, f m.2) := by
  refine sortMembers_eq_of_perm ((perm_sortMembers h).symm.map _) ?_
  have horder := inOrder_sortMembers ms
  simpa [InOrder, List.map_map, Function.comp_def] using horder

end

/-! ## Values in order -/

theorem sorted_items_iff : ∀ {xs : List Json}, Sorted.items xs ↔ ∀ x ∈ xs, x.Sorted
  | [] => by simp [Sorted.items]
  | x :: xs => by rw [Sorted.items, sorted_items_iff, List.forall_mem_cons]

theorem sorted_members_iff : ∀ {ms : List (String × Json)}, Sorted.members ms ↔ ∀ m ∈ ms, m.2.Sorted
  | [] => by simp [Sorted.members]
  | m :: ms => by rw [Sorted.members, sorted_members_iff, List.forall_mem_cons]

theorem depth_items_le_iff {d : Nat} : ∀ {xs : List Json}, depth.items xs ≤ d ↔ ∀ x ∈ xs, x.depth ≤ d
  | [] => by simp [depth.items]
  | x :: xs => by rw [depth.items, Nat.max_le, depth_items_le_iff, List.forall_mem_cons]

theorem depth_members_le_iff {d : Nat} :
    ∀ {ms : List (String × Json)}, depth.members ms ≤ d ↔ ∀ m ∈ ms, m.2.depth ≤ d
  | [] => by simp [depth.members]
  | m :: ms => by rw [depth.members, Nat.max_le, depth_members_le_iff, List.forall_mem_cons]

theorem sorted_items_eq_map : ∀ xs : List Json, sorted.items xs = xs.map sorted
  | [] => rfl
  | x :: xs => by rw [sorted.items, sorted_items_eq_map, List.map_cons]

theorem sorted_members_eq_map : ∀ ms : List (String × Json),
    sorted.members ms = ms.map fun m => (m.1, m.2.sorted)
  | [] => rfl
  | (k, x) :: ms => by rw [sorted.members, sorted_members_eq_map, List.map_cons]

/-- A value in order is not changed by sorting it. -/
theorem sorted_of_sorted : {v : Json} → v.Sorted → v.sorted = v
  | .null, _ | .bool _, _ | .number _, _ | .string _, _ => rfl
  | .array xs, h => by rw [sorted, items h]
  | .object ms, h => by rw [sorted, members h.2, ofMembers, sortMembers_of_inOrder h.1]
where
  items : {xs : List Json} → Sorted.items xs → sorted.items xs = xs
    | [], _ => rfl
    | x :: xs, h => by rw [sorted.items, sorted_of_sorted h.1, items h.2]
  members : {ms : List (String × Json)} → Sorted.members ms → sorted.members ms = ms
    | [], _ => rfl
    | (k, x) :: ms, h => by rw [sorted.members, sorted_of_sorted h.1, members h.2]

/-! ## Stored values -/

theorem sorted_ofMembers {ms : List (String × Json)} (h : ∀ m ∈ ms, m.2.Sorted) : (ofMembers ms).Sorted :=
  ⟨inOrder_sortMembers ms, sorted_members_iff.2 fun m hm => h m (mem_of_mem_sortMembers hm)⟩

theorem depth_ofMembers_le {d : Nat} {ms : List (String × Json)} (h : ∀ m ∈ ms, m.2.depth ≤ d) :
    (ofMembers ms).depth ≤ d + 1 :=
  Nat.succ_le_succ (depth_members_le_iff.2 fun m hm => h m (mem_of_mem_sortMembers hm))

/-- What can be stored is in order, and has as many levels as it may have. -/
def Fits (d : Nat) (v : Json) : Prop := v.Sorted ∧ v.depth ≤ d

theorem fits_of_ofSource : {s : Source} → {d : Nat} → {v : Json} → ofSource d s = .ok v → v.Fits d
  | .null, d, v, h => by cases h; exact ⟨trivial, Nat.zero_le d⟩
  | .bool _, d, v, h => by cases h; exact ⟨trivial, Nat.zero_le d⟩
  | .number l, d, v, h => by
    rw [ofSource] at h
    split at h
    · cases h; exact ⟨trivial, Nat.zero_le d⟩
    · cases h
  | .string l, d, v, h => by
    rw [ofSource, map_eq_ok_iff] at h
    obtain ⟨s, -, rfl⟩ := h
    exact ⟨trivial, Nat.zero_le d⟩
  | .array _ _, 0, _, h => by cases h
  | .array xs fault, d + 1, v, h => by
    rw [ofSource, bind_eq_ok_iff] at h
    obtain ⟨vs, hvs, h⟩ := h
    have hall := items hvs
    cases fault with
    | some f => cases h
    | none =>
      cases h
      exact ⟨sorted_items_iff.2 fun x hx => (hall x hx).1,
        Nat.succ_le_succ (depth_items_le_iff.2 fun x hx => (hall x hx).2)⟩
  | .object _ _, 0, _, h => by cases h
  | .object ms fault, d + 1, v, h => by
    rw [ofSource, bind_eq_ok_iff] at h
    obtain ⟨vs, hvs, h⟩ := h
    have hall := members hvs
    cases fault with
    | some f => cases h
    | none =>
      cases h
      exact ⟨sorted_ofMembers fun m hm => (hall m hm).1, depth_ofMembers_le fun m hm => (hall m hm).2⟩
  | .broken f, _, _, h => by cases h
where
  items : {xs : List Source} → {d : Nat} → {vs : List Json} → ofSource.items d xs = .ok vs → ∀ v ∈ vs, v.Fits d
    | [], d, vs, h => by cases h; exact fun v hv => absurd hv List.not_mem_nil
    | x :: xs, d, vs, h => by
      simp only [ofSource.items, bind_eq_ok_iff] at h
      obtain ⟨v, hv, ws, hws, h⟩ := h
      cases h
      exact List.forall_mem_cons.2 ⟨fits_of_ofSource hv, items hws⟩
  members : {ms : List (StringLiteral × Source)} → {d : Nat} → {vs : List (String × Json)} →
      ofSource.members d ms = .ok vs → ∀ m ∈ vs, m.2.Fits d
    | [], d, vs, h => by cases h; exact fun v hv => absurd hv List.not_mem_nil
    | (k, x) :: ms, d, vs, h => by
      simp only [ofSource.members, bind_eq_ok_iff] at h
      obtain ⟨name, -, v, hv, ws, hws, h⟩ := h
      cases h
      exact List.forall_mem_cons.2 ⟨fits_of_ofSource hv, members hws⟩

/-- A value that is read from a text is in order and within the limit of levels. -/
theorem fits_of_ofText {text : String} {v : Json} (h : ofText text = .ok v) : v.Fits maxDepth :=
  fits_of_ofSource (Source.Document.read_eq_ok_iff.1 h).1

end Json
end GraphCalls
