/-
Setting entries one after the other.

Of several entries of one name the last gives the value (`get?_setAll`) and
the first gives the place (`map_fst_setAll`). So nothing is left out exactly if
every name comes once.
-/
import GraphCalls.Entries
import Mathlib.Data.List.Nodup

namespace GraphCalls

/-! ## First occurrences -/

section
variable {α : Type} [BEq α]

theorem eraseDups_sublist : ∀ l : List α, l.eraseDups.Sublist l
  | [] => by simp
  | a :: l => by
    rw [List.eraseDups_cons]
    exact ((eraseDups_sublist _).trans List.filter_sublist).cons_cons a
termination_by l => l.length
decreasing_by simp only [List.length_cons]; exact Nat.lt_succ_of_le (List.length_filter_le _ _)

variable [LawfulBEq α]

theorem nodup_eraseDups : ∀ l : List α, l.eraseDups.Nodup
  | [] => by simp
  | a :: l => by
    rw [List.eraseDups_cons, List.nodup_cons]
    exact ⟨by simp, nodup_eraseDups _⟩
termination_by l => l.length
decreasing_by simp only [List.length_cons]; exact Nat.lt_succ_of_le (List.length_filter_le _ _)

theorem eraseDups_of_nodup : ∀ {l : List α}, l.Nodup → l.eraseDups = l
  | [], _ => by simp
  | a :: l, h => by
    rw [List.nodup_cons] at h
    have hrest : l.filter (fun b => !b == a) = l :=
      List.filter_eq_self.2 fun b hb => by
        simp only [Bool.not_eq_eq_eq_not, Bool.not_true, beq_eq_false_iff_ne]
        rintro rfl
        exact h.1 hb
    rw [List.eraseDups_cons, hrest, eraseDups_of_nodup h.2]

theorem length_eraseDups_eq_iff {l : List α} : l.eraseDups.length = l.length ↔ l.Nodup := by
  constructor
  · intro h
    rw [← (eraseDups_sublist l).eq_of_length h]
    exact nodup_eraseDups l
  · intro h
    rw [eraseDups_of_nodup h]

end

namespace Entries

variable {α : Type}

theorem get?_append (es more : Entries α) (k : String) : get? (es ++ more) k = (get? es k).or (get? more k) := by
  simp only [get?, List.find?_append]
  cases es.find? (·.1 == k) <;> rfl

/-- The last entry of a name counts. -/
theorem get?_setAll (k : String) : ∀ {es : Entries α} {more : List (String × α)},
    get? (setAll es more) k = (get? more.reverse k).or (get? es k)
  | es, [] => rfl
  | es, e :: more => by
    rw [setAll, List.foldl_cons, ← setAll, get?_setAll k, List.reverse_cons, get?_append, Option.or_assoc]
    congr 1
    rw [get?_cons, get?_nil]
    by_cases hk : e.1 = k
    · rw [if_pos hk, ← hk, get?_set_self, Option.some_or]
    · rw [if_neg hk, get?_set_of_ne (Ne.symm hk), Option.none_or]

theorem mem_of_get? {es : Entries α} {k : String} {a : α} (h : get? es k = some a) : (k, a) ∈ es := by
  obtain ⟨e, he, rfl⟩ := Option.map_eq_some_iff.1 h
  obtain rfl : e.1 = k := by simpa using List.find?_some he
  exact List.mem_of_find?_eq_some he

theorem get?_of_not_mem {es : Entries α} {k : String} (h : k ∉ es.map Prod.fst) : get? es k = none := by
  rw [get?, Option.map_eq_none_iff, List.find?_eq_none]
  intro e he hk
  exact h (List.mem_map.2 ⟨e, he, by simpa using hk⟩)

theorem get?_map {β : Type} (f : α → β) : ∀ (es : Entries α) (k : String),
    get? (es.map fun e => (e.1, f e.2)) k = (get? es k).map f
  | [], _ => rfl
  | e :: es, k => by
    rw [List.map_cons, get?_cons, get?_cons, get?_map f es]
    split <;> rfl

theorem get?_concat {es : Entries α} {k : String} {a : α} (h : k ∉ es.map Prod.fst) :
    get? (es ++ [(k, a)]) k = some a := by
  rw [get?_append, get?_of_not_mem h, get?_cons, if_pos rfl]
  rfl

theorem set_concat {k : String} {a b : α} : ∀ {es : Entries α}, k ∉ es.map Prod.fst →
    set k b (es ++ [(k, a)]) = es ++ [(k, b)]
  | [], _ => by simp [set]
  | e :: es, h => by
    simp only [List.map_cons, List.mem_cons, not_or] at h
    rw [List.cons_append, set, if_neg h.1, set_concat h.2, List.cons_append]

theorem nodup_set {es : Entries α} (h : (es.map Prod.fst).Nodup) (k : String) (a : α) :
    ((set k a es).map Prod.fst).Nodup := by
  rw [map_fst_set]
  split
  · exact h
  next hk => exact List.nodup_append.2 ⟨h, List.nodup_singleton k, fun b hb c hc => by
      rw [List.mem_singleton.1 hc]
      exact fun heq => hk (heq ▸ hb)⟩

theorem get?_reverse (es : Entries α) (k : String) :
    get? es.reverse k = ((es.filter (·.1 == k)).map Prod.snd).getLast? := by
  rw [get?, ← List.head?_filter, List.filter_reverse, List.head?_reverse, List.getLast?_map]

/-- The names keep the places in which they first came. -/
theorem map_fst_setAll : ∀ {es : Entries α} {more : List (String × α)},
    (setAll es more).map Prod.fst =
      es.map Prod.fst ++ ((more.map Prod.fst).filter (· ∉ es.map Prod.fst)).eraseDups
  | es, [] => by simp [setAll]
  | es, e :: more => by
    rw [setAll, List.foldl_cons, ← setAll, map_fst_setAll, map_fst_set]
    by_cases hm : e.1 ∈ es.map Prod.fst
    · rw [if_pos hm, List.map_cons, List.filter_cons_of_neg (by simpa using hm)]
    · rw [if_neg hm, List.map_cons, List.filter_cons_of_pos (by simpa using hm), List.eraseDups_cons,
        List.filter_filter, List.append_assoc, List.singleton_append]
      congr 4
      funext k
      rw [Bool.eq_iff_iff]
      simp [or_comm]

theorem map_fst_setAll_nil (more : List (String × α)) :
    (setAll [] more).map Prod.fst = (more.map Prod.fst).eraseDups := by
  rw [map_fst_setAll, List.map_nil, List.nil_append]
  congr 1
  exact List.filter_eq_self.2 (by simp)

theorem nodup_setAll_nil (more : List (String × α)) : ((setAll [] more).map Prod.fst).Nodup := by
  rw [map_fst_setAll_nil]
  exact nodup_eraseDups _

theorem mem_map_fst_setAll_nil {more : List (String × α)} {k : String} :
    k ∈ (setAll [] more).map Prod.fst ↔ k ∈ more.map Prod.fst := by
  rw [map_fst_setAll_nil, List.mem_eraseDups]

theorem mem_of_mem_setAll_nil {e : String × α} {more : List (String × α)} (h : e ∈ setAll [] more) : e ∈ more := by
  have hget := get?_of_mem (nodup_setAll_nil more) h
  rw [get?_setAll, get?_nil, Option.or_none] at hget
  exact List.mem_reverse.1 (mem_of_get? hget)

/-- An entry after which its name does not come again stays. -/
theorem mem_setAll_nil_of_last {k : String} {a : α} {before after : List (String × α)}
    (h : k ∉ after.map Prod.fst) : (k, a) ∈ setAll [] (before ++ (k, a) :: after) := by
  have hafter : k ∉ after.reverse.map Prod.fst := by rwa [List.map_reverse, List.mem_reverse]
  apply mem_of_get?
  rw [get?_setAll, List.reverse_append, List.reverse_cons, get?_append, get?_append, get?_of_not_mem hafter,
    get?_cons, if_pos rfl]
  rfl

end Entries
end GraphCalls
