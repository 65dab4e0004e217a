/-
In a registry that was made, nothing is looked up in vain.

Whatever starts at one of the types only ever looks for names that a type
mentions, and for roots. Resolving one of its references comes to a type
(`exists_resolve`), and so does each step of a walk, whatever else stops it
(`expand_found`); selections, roots and planned calls follow.
-/
import GraphCalls.Proofs.Schema.Admission
import GraphCalls.Proofs.Schema.Depth
import GraphCalls.Proofs.Traversal

namespace GraphCalls

/-- Either there is a result, or what failed was not for want of a type. -/
def Found {α : Type} (x : Except SchemaError α) : Prop := ∀ e, x = .error e → e.isTypeNotFound = false

section
variable {α β : Type} {x : Except SchemaError α}

theorem found_ok (a : α) : Found (.ok a : Except SchemaError α) := by
  intro e h
  cases h

theorem Found.map (h : Found x) (f : α → β) : Found (x.map f) := fun e he => h e (map_eq_error_iff.1 he)

theorem Found.mapM {f : α → Except SchemaError β} {as : List α} (h : ∀ a ∈ as, Found (f a)) : Found (as.mapM f) := by
  intro e he
  obtain ⟨a, ha, he⟩ := exists_of_mapM_eq_error he
  exact h a ha e he

end

theorem TypeDef.mem_references_of_mem_members {t : TypeDef} {f : String} {ref : TypeRef} (h : (f, ref) ∈ t.members) :
    ref ∈ t.references := by
  rw [TypeDef.members, TypeDef.members?] at h
  rw [TypeDef.references, List.mem_append]
  cases hf : t.fields with
  | some fs =>
    simp only [hf, Option.getD_some, List.mem_map, Prod.mk.injEq] at h
    obtain ⟨field, hfield, -, rfl⟩ := h
    exact .inl (List.mem_flatMap.2 ⟨field, hfield, List.mem_cons_self ..⟩)
  | none =>
    cases hi : t.inputFields with
    | none => simp [hf, hi] at h
    | some is =>
      simp only [hf, hi, Option.map_some, Option.getD_some, List.mem_map, Prod.mk.injEq] at h
      obtain ⟨input, hinput, -, rfl⟩ := h
      exact .inr (List.mem_map_of_mem hinput)

namespace Registry

variable {r : Registry} {queryType : String} {mutationType subscriptionType : Option String} {types : List TypeDef}

/-! ## Roots -/

theorem exists_get_of_mem (h : ofTypes queryType mutationType subscriptionType types = .ok r) {name : String}
    (hname : name ∈ r.requiredNames) : ∃ t ∈ r.types, t.name = name ∧ r.get name = .ok t := by
  obtain ⟨t, ht⟩ := Option.isSome_iff_exists.1 ((ofTypes_eq_ok_iff.1 h).2.2 name hname)
  exact ⟨t, List.mem_of_find?_eq_some ht, by simpa using List.find?_some ht, get_eq_ok_iff.2 ht⟩

theorem exists_rootType_query (h : ofTypes queryType mutationType subscriptionType types = .ok r) :
    ∃ t ∈ r.types, r.rootType .query = .ok t := by
  obtain ⟨t, ht, -, hget⟩ := exists_get_of_mem h (List.mem_cons_self ..)
  exact ⟨t, ht, hget⟩

theorem rootType_found (h : ofTypes queryType mutationType subscriptionType types = .ok r) (kind : OperationKind) :
    Found (r.rootType kind) := by
  cases kind with
  | query =>
    obtain ⟨t, -, ht⟩ := exists_rootType_query h
    exact ht ▸ found_ok t
  | mutation =>
    rw [rootType]
    split
    next name hm =>
      have hrequired : name ∈ r.requiredNames := by simp [requiredNames, hm]
      obtain ⟨t, -, -, ht⟩ := exists_get_of_mem h hrequired
      exact ht ▸ found_ok t
    next =>
      intro e he
      cases he
      rfl

/-! ## Walks -/

/-- A walk over members that all come down to types fails only where a deeper
one does. -/
theorem expandMembers_found {deeper : TypeDef → Memo → Option (Walk (List SelectionNode))}
    (hd : ∀ {u m w}, u ∈ r.types → deeper u m = some w → Found w.result) :
    ∀ {ms m w}, (∀ f ref, (f, ref) ∈ ms → ∃ u, r.resolve ref = .ok u) →
      r.expandMembers deeper ms m = some w → Found w.result := by
  intro ms
  induction ms with
  | nil =>
    intro m w _ h
    rw [expandMembers, Option.some.injEq] at h
    subst h
    exact found_ok []
  | cons member ms ih =>
    intro m w hms h
    obtain ⟨f, ref⟩ := member
    obtain ⟨u, hu⟩ := hms f ref (List.mem_cons_self ..)
    have hrest : ∀ {m w}, r.expandMembers deeper ms m = some w → Found w.result :=
      ih fun f ref hm => hms f ref (List.mem_cons_of_mem _ hm)
    -- One more node does not change why the rest failed.
    have hmore : ∀ {m w n}, (r.expandMembers deeper ms m).map
        (fun w => { w with result := w.result.map (n :: ·) }) = some w → Found w.result := by
      intro m w n h
      obtain ⟨w', hw, rfl⟩ := Option.map_eq_some_iff.1 h
      exact (hrest hw).map _
    simp only [expandMembers, hu] at h
    split at h
    · split at h
      · split at h
        · cases h
        next e m' hbody =>
          rw [Option.some.injEq] at h
          subst h
          exact hd (mem_types_of_resolve hu) hbody
        · exact hmore h
      · exact hrest h
    · exact hmore h

theorem expand_found (hr : ofTypes queryType mutationType subscriptionType types = .ok r) :
    ∀ {depth t m w}, t ∈ r.types → r.expand depth t m = some w → Found w.result
  | 0, t, m, w, _, h => by simp [expand] at h
  | depth + 1, t, m, w, ht, h => by
    simp only [expand] at h
    split at h
    · rw [Option.some.injEq] at h
      subst h
      intro e he
      cases he
      rfl
    next ms hms =>
      refine expandMembers_found (expand_found hr) (fun f ref hm => ?_) h
      have hm : (f, ref) ∈ t.members := by simpa [TypeDef.members, hms] using hm
      exact exists_resolve hr ht (TypeDef.mem_references_of_mem_members hm)

/-- A selection of one of the types, from whatever memo. -/
theorem synthesize_found (hr : ofTypes queryType mutationType subscriptionType types = .ok r) {t : TypeDef}
    (ht : t ∈ r.types) (m : Memo) : Found (r.synthesize t m).result :=
  (expand_found hr ht (r.expand_depthBound t m)).map _

theorem defaultSelection_found (hr : ofTypes queryType mutationType subscriptionType types = .ok r) {t : TypeDef}
    (ht : t ∈ r.types) : Found (r.defaultSelection t.name) := by
  obtain ⟨u, hu⟩ := Option.isSome_iff_exists.1 (isSome_find?_iff.2 (List.mem_map_of_mem (f := (·.name)) ht))
  have hdefault : r.defaultSelection t.name = r.selectionOf u := by
    rw [defaultSelection, get_eq_ok_iff.2 hu]
    rfl
  exact hdefault ▸ synthesize_found hr (List.mem_of_find?_eq_some hu) .empty

theorem defaultSelections_found (hr : ofTypes queryType mutationType subscriptionType types = .ok r) :
    Found r.defaultSelections :=
  Found.mapM fun _ ht => (synthesize_found hr (List.mem_filter.1 ht).1 .empty).map _

end Registry
end GraphCalls
