/-
Named entries in the order in which their names first came.

Setting an entry whose name is there changes it in its place; a new name goes
to the end. Names compare exactly.
-/
namespace GraphCalls

/-- Values by name, in order. -/
abbrev Entries (α : Type) := List (String × α)

namespace Entries

variable {α : Type}

/-- Sets the entry of a name. -/
def set (k : String) (a : α) : Entries α → Entries α
  | [] => [(k, a)]
  | (l, b) :: es => if k = l then (k, a) :: es else (l, b) :: set k a es

/-- The value of a name. -/
def get? (es : Entries α) (k : String) : Option α := (es.find? (·.1 == k)).map Prod.snd

theorem get?_nil (k : String) : get? ([] : Entries α) k = none := rfl

theorem get?_cons (e : String × α) (es : Entries α) (k : String) :
    get? (e :: es) k = if e.1 = k then some e.2 else get? es k := by
  by_cases h : e.1 = k <;> simp [get?, h]

theorem get?_set_self (es : Entries α) (k : String) (a : α) : get? (set k a es) k = some a := by
  induction es with
  | nil => simp [set, get?_cons]
  | cons e es ih =>
    by_cases h : k = e.1
    · simp [set, h, get?_cons]
    · simp [set, h, get?_cons, ih, Ne.symm h]

theorem get?_set_of_ne {k l : String} (h : l ≠ k) (a : α) (es : Entries α) :
    get? (set k a es) l = get? es l := by
  induction es with
  | nil => simp [set, get?_cons, get?_nil, Ne.symm h]
  | cons e es ih =>
    by_cases hk : k = e.1
    · simp [set, ← hk, get?_cons, Ne.symm h]
    · simp [set, hk, get?_cons, ih]

/-- The names stay in their order; a new one comes last. -/
theorem map_fst_set (k : String) (a : α) (es : Entries α) :
    (set k a es).map Prod.fst =
      if k ∈ es.map Prod.fst then es.map Prod.fst else es.map Prod.fst ++ [k] := by
  induction es with
  | nil => simp [set]
  | cons e es ih =>
    by_cases hk : k = e.1
    · simp [set, hk]
    · rw [set, if_neg hk, List.map_cons, ih, List.map_cons]
      by_cases hm : k ∈ es.map Prod.fst
      · rw [if_pos hm, if_pos (List.mem_cons_of_mem _ hm)]
      · rw [if_neg hm, if_neg (by simp [hk, List.mem_cons] at hm ⊢; exact hm), List.cons_append]

theorem get?_of_mem {k : String} {a : α} : ∀ {es : Entries α}, (es.map Prod.fst).Nodup → (k, a) ∈ es →
    get? es k = some a
  | e :: es, hn, hm => by
    simp only [List.map_cons, List.nodup_cons] at hn
    rw [get?_cons]
    rcases List.mem_cons.1 hm with rfl | hm
    · simp
    · have hne : e.1 ≠ k := fun he => hn.1 (he ▸ List.mem_map_of_mem hm)
      rw [if_neg hne]
      exact get?_of_mem hn.2 hm

theorem set_of_not_mem {k : String} {a : α} : ∀ {es : Entries α}, k ∉ es.map Prod.fst →
    set k a es = es ++ [(k, a)]
  | [], _ => rfl
  | e :: es, h => by
    simp only [List.map_cons, List.mem_cons, not_or] at h
    rw [set, if_neg h.1, set_of_not_mem h.2, List.cons_append]

/-- Sets entries one after the other. -/
def setAll (es : Entries α) (more : List (String × α)) : Entries α :=
  more.foldl (fun es e => set e.1 e.2 es) es

/-- Entries with names of their own are all kept, in order. -/
theorem setAll_of_nodup : ∀ {es : Entries α} {more : List (String × α)},
    ((es ++ more).map Prod.fst).Nodup → setAll es more = es ++ more
  | es, [], _ => by simp [setAll]
  | es, e :: more, h => by
    have hnew : e.1 ∉ es.map Prod.fst := by
      rw [List.map_append, List.map_cons, List.nodup_append] at h
      exact fun hm => h.2.2 _ hm _ (List.mem_cons_self ..) rfl
    rw [← List.singleton_append, ← List.append_assoc] at h
    have hrest := setAll_of_nodup h
    rw [setAll, List.foldl_cons, set_of_not_mem hnew]
    rw [setAll] at hrest
    rw [hrest, List.append_assoc, List.singleton_append]

end Entries
end GraphCalls
