/-
What it takes for a registry to be made.

No name comes twice and every name that is referred to is there
(`ofTypes_eq_ok_iff`), so whatever a reference inside one of the types comes
down to can be looked up (`exists_resolve`).
-/
import GraphCalls.Proofs.Schema.Outline
import Mathlib.Data.List.Nodup

namespace GraphCalls
namespace Registry

variable {r : Registry} {queryType : String} {mutationType subscriptionType : Option String} {types : List TypeDef}

theorem repeatedName?_eq_none_iff : ∀ {seen : List String} {ts : List TypeDef},
    repeatedName? seen ts = none ↔ (ts.map (·.name)).Nodup ∧ ∀ t ∈ ts, t.name ∉ seen
  | seen, [] => by simp [repeatedName?]
  | seen, t :: ts => by
    by_cases h : t.name ∈ seen
    · simp [repeatedName?, h]
    · rw [repeatedName?, if_neg h, repeatedName?_eq_none_iff]
      simp only [List.map_cons, List.nodup_cons, List.mem_map, List.mem_cons, not_or, forall_eq_or_imp, not_exists,
        not_and, h, not_false_eq_true, true_and]
      exact ⟨fun ⟨hn, ht⟩ => ⟨⟨fun u hu => (ht u hu).1, hn⟩, fun u hu => (ht u hu).2⟩,
        fun ⟨⟨hne, hn⟩, ht⟩ => ⟨hn, fun u hu => ⟨hne u hu, ht u hu⟩⟩⟩

theorem ofTypes_eq_ok_iff : ofTypes queryType mutationType subscriptionType types = .ok r ↔
    r = ⟨types, queryType, mutationType, subscriptionType⟩ ∧ (types.map (·.name)).Nodup ∧
      ∀ name ∈ r.requiredNames, (r.find? name).isSome := by
  have hnodup : repeatedName? [] types = none ↔ (types.map (·.name)).Nodup := by
    simp [repeatedName?_eq_none_iff]
  rw [ofTypes, ← hnodup]
  cases repeatedName? [] types with
  | some name => simp
  | none =>
    simp only [true_and]
    split
    next name hname =>
      have hmissing := List.find?_some hname
      simp only [reduceCtorEq, false_iff, not_and]
      rintro rfl hall
      simp [Option.isSome_iff_ne_none.1 (hall name (List.mem_of_find?_eq_some hname))] at hmissing
    next hall =>
      rw [List.find?_eq_none] at hall
      simp only [Except.ok.injEq]
      constructor
      · rintro rfl
        exact ⟨rfl, fun name hname => by simpa [Option.isSome_iff_ne_none] using hall name hname⟩
      · exact fun h => h.1.symm

/-- A reference inside a type of a registry comes down to a type that is there. -/
theorem exists_resolve (h : ofTypes queryType mutationType subscriptionType types = .ok r) {t : TypeDef} {ref : TypeRef}
    (ht : t ∈ r.types) (href : ref ∈ t.references) : ∃ u, r.resolve ref = .ok u := by
  have hname : ref.name ∈ r.requiredNames :=
    List.mem_cons_of_mem _ (List.mem_append_right _ (List.mem_flatMap.2 ⟨t, ht, List.mem_map_of_mem href⟩))
  obtain ⟨u, hu⟩ := Option.isSome_iff_exists.1 ((ofTypes_eq_ok_iff.1 h).2.2 _ hname)
  exact ⟨u, resolve_ok_iff.2 hu⟩

end Registry
end GraphCalls
