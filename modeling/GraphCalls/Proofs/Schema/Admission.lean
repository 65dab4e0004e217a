/-
Which lists of types make a registry, and what is reported of the others.

A list is refused for the first type whose name came before it. Only then are
names looked up, in the order in which the schema mentions them, and the list
is refused for the first that no type has. Every list has exactly one outcome
by these rules, and `ofTypes` comes to it; a registry that is made finds for
each name the one type that has it (`ofTypes_admission`).
-/
import GraphCalls.Proofs.Schema.Accepted

namespace GraphCalls

/-- The names that a type mentions: for each field its result and then its
arguments, and after the fields the input fields. -/
def TypeDef.mentions (t : TypeDef) : List String :=
  ((t.fields.getD []).flatMap fun f => f.type.name :: f.args.map (·.type.name)) ++
    (t.inputFields.getD []).map (·.type.name)

namespace Registry

/-- The names that a schema mentions: its roots, and then type by type. -/
def mentions (queryType : String) (mutationType subscriptionType : Option String) (types : List TypeDef) :
    List String :=
  queryType :: (mutationType.toList ++ subscriptionType.toList ++ types.flatMap TypeDef.mentions)

/-- What becomes of a list of types with names of roots. -/
inductive Admission (queryType : String) (mutationType subscriptionType : Option String) (types : List TypeDef) :
    Except SchemaError Registry → Prop
  /-- A type has the name of one before it, and those before it have names of their own. -/
  | repeated {before t after} (htypes : types = before ++ t :: after) (hbefore : (before.map (·.name)).Nodup)
      (hname : t.name ∈ before.map (·.name)) :
      Admission queryType mutationType subscriptionType types (.error (.malformed (.duplicateType t.name)))
  /-- A name that is mentioned is no type's, and those mentioned before it are. -/
  | missing {before name after} (hnodup : (types.map (·.name)).Nodup)
      (hmentions : mentions queryType mutationType subscriptionType types = before ++ name :: after)
      (hbefore : ∀ other ∈ before, other ∈ types.map (·.name)) (hname : name ∉ types.map (·.name)) :
      Admission queryType mutationType subscriptionType types (.error (.typeNotFound name))
  | made (hnodup : (types.map (·.name)).Nodup)
      (hmentions : ∀ name ∈ mentions queryType mutationType subscriptionType types, name ∈ types.map (·.name)) :
      Admission queryType mutationType subscriptionType types (.ok ⟨types, queryType, mutationType, subscriptionType⟩)

/-- A registry holds the types of a list: all of them in order, each to be
found by its name, and no others. -/
structure Holds (r : Registry) (types : List TypeDef) : Prop where
  types_eq : r.types = types
  size_eq : r.size = types.length
  find?_iff : ∀ name t, r.find? name = some t ↔ t ∈ types ∧ t.name = name
  get_iff : ∀ name t, r.get name = .ok t ↔ t ∈ types ∧ t.name = name
  absent : ∀ name, name ∉ types.map (·.name) → r.find? name = none ∧ r.get name = .error (.typeNotFound name)

variable {r : Registry} {queryType : String} {mutationType subscriptionType : Option String} {types : List TypeDef}
variable {name : String} {t : TypeDef}

/-! ## Names that come twice -/

theorem repeatedName?_eq_some_iff : ∀ {seen : List String} {ts : List TypeDef},
    repeatedName? seen ts = some name ↔ ∃ before t after, ts = before ++ t :: after ∧ t.name = name ∧
      (before.map (·.name)).Nodup ∧ (∀ u ∈ before, u.name ∉ seen) ∧ (name ∈ seen ∨ name ∈ before.map (·.name))
  | seen, [] => by simp [repeatedName?]
  | seen, t :: ts => by
    rw [repeatedName?]
    split
    next hseen =>
      simp only [Option.some.injEq]
      constructor
      · rintro rfl
        exact ⟨[], t, ts, rfl, rfl, by simp, by simp, .inl hseen⟩
      · rintro ⟨before, u, after, hts, rfl, -, hfresh, -⟩
        cases before with
        | nil =>
          simp only [List.nil_append, List.cons.injEq] at hts
          rw [hts.1]
        | cons first before =>
          simp only [List.cons_append, List.cons.injEq] at hts
          exact absurd hseen (hts.1 ▸ hfresh first (List.mem_cons_self ..))
    next hseen =>
      rw [repeatedName?_eq_some_iff]
      constructor
      · rintro ⟨before, u, after, rfl, rfl, hnodup, hfresh, hname⟩
        have hne : ∀ v ∈ before, v.name ≠ t.name := fun v hv he => hfresh v hv (he ▸ List.mem_cons_self ..)
        refine ⟨t :: before, u, after, rfl, rfl, ?_, ?_, ?_⟩
        · rw [List.map_cons, List.nodup_cons]
          refine ⟨?_, hnodup⟩
          rw [List.mem_map]
          rintro ⟨v, hv, he⟩
          exact hne v hv he
        · intro v hv
          rcases List.mem_cons.1 hv with rfl | hv
          · exact hseen
          · exact fun hs => hfresh v hv (List.mem_cons_of_mem _ hs)
        · rw [List.map_cons, List.mem_cons]
          rw [List.mem_cons] at hname
          tauto
      · rintro ⟨before, u, after, hts, rfl, hnodup, hfresh, hname⟩
        cases before with
        | nil =>
          simp only [List.nil_append, List.cons.injEq] at hts
          exact absurd (hts.1 ▸ hname.resolve_right (by simp)) hseen
        | cons first before =>
          simp only [List.cons_append, List.cons.injEq] at hts
          obtain ⟨rfl, rfl⟩ := hts
          simp only [List.map_cons, List.nodup_cons, List.mem_map, not_exists, not_and] at hnodup
          refine ⟨before, u, after, rfl, rfl, hnodup.2, fun v hv hs => ?_, ?_⟩
          · rcases List.mem_cons.1 hs with he | hs
            · exact hnodup.1 v hv he
            · exact hfresh v (List.mem_cons_of_mem _ hv) hs
          · rw [List.map_cons, List.mem_cons] at hname
            rw [List.mem_cons]
            tauto

/-! ## Names that are looked up -/

theorem requiredNames_eq_mentions : (⟨types, queryType, mutationType, subscriptionType⟩ : Registry).requiredNames =
    mentions queryType mutationType subscriptionType types := by
  have hreferences : ∀ t : TypeDef, t.references.map (·.name) = t.mentions := fun t => by
    simp [TypeDef.references, TypeDef.mentions, List.map_flatMap, Function.comp_def]
  simp only [requiredNames, mentions, hreferences]

theorem isSome_find?_iff : (r.find? name).isSome ↔ name ∈ r.types.map (·.name) := by
  simp [find?, List.find?_isSome, List.mem_map]

theorem find?_eq_some_iff_mem (h : (r.types.map (·.name)).Nodup) :
    r.find? name = some t ↔ t ∈ r.types ∧ t.name = name := by
  constructor
  · intro hf
    exact ⟨List.mem_of_find?_eq_some hf, by simpa using List.find?_some hf⟩
  · rintro ⟨hm, rfl⟩
    obtain ⟨u, hu⟩ := Option.isSome_iff_exists.1 (isSome_find?_iff.2 (List.mem_map_of_mem (f := (·.name)) hm))
    have hname : u.name = t.name := by simpa using List.find?_some hu
    have hut : u = t := List.inj_on_of_nodup_map h (List.mem_of_find?_eq_some hu) hm hname
    rw [hu, hut]

theorem get_eq_ok_iff : r.get name = .ok t ↔ r.find? name = some t := by
  rw [get]
  split <;> simp_all

theorem get_eq_error_of_not_mem (h : name ∉ r.types.map (·.name)) :
    r.find? name = none ∧ r.get name = .error (.typeNotFound name) := by
  have hf : r.find? name = none := by rwa [← isSome_find?_iff, Option.not_isSome_iff_eq_none] at h
  exact ⟨hf, by rw [get, hf]⟩

theorem holds_of_nodup (h : (r.types.map (·.name)).Nodup) : r.Holds r.types where
  types_eq := rfl
  size_eq := rfl
  find?_iff _ _ := find?_eq_some_iff_mem h
  get_iff _ _ := get_eq_ok_iff.trans (find?_eq_some_iff_mem h)
  absent _ := get_eq_error_of_not_mem

/-! ## Outcomes -/

/-- The outcome of a list is what making a registry of it comes to. -/
theorem Admission.ofTypes_eq {result : Except SchemaError Registry}
    (h : Admission queryType mutationType subscriptionType types result) :
    ofTypes queryType mutationType subscriptionType types = result := by
  cases h with
  | repeated htypes hbefore hname =>
    rw [ofTypes, repeatedName?_eq_some_iff.2 ⟨_, _, _, htypes, rfl, hbefore, by simp, .inr hname⟩]
  | @missing before name after hnodup hmentions hbefore hname =>
    have hfirst : (mentions queryType mutationType subscriptionType types).find? (fun name =>
        ((⟨types, queryType, mutationType, subscriptionType⟩ : Registry).find? name).isNone) = some name := by
      rw [List.find?_eq_some_iff_append]
      refine ⟨by rw [(get_eq_error_of_not_mem hname).1]; rfl, before, after, hmentions, fun other hother => ?_⟩
      simpa [Option.isSome_iff_ne_none] using isSome_find?_iff.2 (hbefore other hother)
    rw [ofTypes, repeatedName?_eq_none_iff.2 ⟨hnodup, by simp⟩]
    simp only [requiredNames_eq_mentions]
    rw [hfirst]
  | made hnodup hmentions =>
    rw [ofTypes_eq_ok_iff, requiredNames_eq_mentions]
    exact ⟨rfl, hnodup, fun name hname => isSome_find?_iff.2 (hmentions name hname)⟩

/-- No list is without an outcome. -/
theorem exists_admission (queryType : String) (mutationType subscriptionType : Option String) (types : List TypeDef) :
    ∃ result, Admission queryType mutationType subscriptionType types result := by
  cases hrep : repeatedName? [] types with
  | some name =>
    obtain ⟨before, t, after, htypes, rfl, hbefore, -, hname⟩ := repeatedName?_eq_some_iff.1 hrep
    exact ⟨_, .repeated htypes hbefore (hname.resolve_left (by simp))⟩
  | none =>
    have hnodup := (repeatedName?_eq_none_iff.1 hrep).1
    cases hfirst : (mentions queryType mutationType subscriptionType types).find? (· ∉ types.map (·.name)) with
    | some name =>
      obtain ⟨hname, before, after, hmentions, hbefore⟩ := List.find?_eq_some_iff_append.1 hfirst
      exact ⟨_, .missing hnodup hmentions (by simpa using hbefore) (by simpa using hname)⟩
    | none => exact ⟨_, .made hnodup (by simpa using hfirst)⟩

/-- **What becomes of a list of types.** It has one outcome by the rules, and
that is what making a registry comes to; so it makes one exactly if the names
are distinct and every name that is mentioned is among them, and the registry
then holds the list as it is. -/
theorem ofTypes_admission (queryType : String) (mutationType subscriptionType : Option String) (types : List TypeDef) :
    (∀ result, Admission queryType mutationType subscriptionType types result ↔
      ofTypes queryType mutationType subscriptionType types = result) ∧
    ((∃ r, ofTypes queryType mutationType subscriptionType types = .ok r) ↔ (types.map (·.name)).Nodup ∧
      ∀ name ∈ mentions queryType mutationType subscriptionType types, name ∈ types.map (·.name)) ∧
    ∀ r, ofTypes queryType mutationType subscriptionType types = .ok r → r.Holds types := by
  refine ⟨fun result => ⟨Admission.ofTypes_eq, ?_⟩, ⟨?_, ?_⟩, ?_⟩
  · rintro rfl
    obtain ⟨result, h⟩ := exists_admission queryType mutationType subscriptionType types
    rwa [h.ofTypes_eq]
  · rintro ⟨r, hr⟩
    obtain ⟨rfl, hnodup, hall⟩ := ofTypes_eq_ok_iff.1 hr
    rw [requiredNames_eq_mentions] at hall
    exact ⟨hnodup, fun name hname => isSome_find?_iff.1 (hall name hname)⟩
  · exact fun ⟨hnodup, hall⟩ => ⟨_, (Admission.made hnodup hall).ofTypes_eq⟩
  · intro r hr
    obtain ⟨rfl, hnodup, -⟩ := ofTypes_eq_ok_iff.1 hr
    exact holds_of_nodup hnodup

end Registry
end GraphCalls
