/-
What is known of a registry that comes from a JSON value, whatever the value.

The checks of a payload see every reference in it, and let none through that
nests too deep or has a wrapper at its bottom (`RefPayload.check_ok`); a
registry is only made if nothing that is mentioned is missing. So what follows
never fails for want of a type (`ofJson_closed`).
-/
import GraphCalls.Proofs.Call.DraftHistory
import GraphCalls.Proofs.Schema.AnswerRegistry
import GraphCalls.Proofs.Schema.Closed

namespace GraphCalls

/-- At most `n` modifiers around a name that is not that of a wrapper. -/
def TypeRef.Fits (n : Nat) (ref : TypeRef) : Prop := ref.depth ≤ n ∧ ref.unwrapped.kind.isWrapper = false

namespace Introspection

/-- A reference that passes its check has room below the levels around it for
all of its modifiers. -/
theorem RefPayload.check_ok : ∀ {p : RefPayload} {level n : Nat} {ref : TypeRef}, level + n = maxWrapperDepth →
    p.check level = .ok ref → ref.Fits n
  | .mk kind name none, level, n, ref, hn, h => by
    rw [check_none] at h
    obtain ⟨k, -, h⟩ := bind_eq_ok_iff.1 h
    split at h
    · split at h <;> cases h
    next hk =>
      cases name with
      | none => cases h
      | some name =>
        cases h
        exact ⟨Nat.zero_le n, by simpa [TypeRef.unwrapped, TypeRef.kind] using hk⟩
  | .mk kind name (some inner), level, n, ref, hn, h => by
    rw [check_some] at h
    obtain ⟨k, -, h⟩ := bind_eq_ok_iff.1 h
    split at h
    · split at h
      · cases h
      next hlevel =>
        obtain ⟨below, hbelow, h⟩ := bind_eq_ok_iff.1 h
        obtain ⟨n, rfl⟩ : ∃ m, n = m + 1 := ⟨n - 1, by omega⟩
        obtain ⟨hdepth, hkind⟩ := check_ok (n := n) (by omega) hbelow
        split at h <;> cases h <;> exact ⟨Nat.succ_le_succ hdepth, hkind⟩
    next hk =>
      cases name with
      | none => cases h
      | some name =>
        cases h
        exact ⟨Nat.zero_le n, by simpa [TypeRef.unwrapped, TypeRef.kind] using hk⟩

theorem InputPayload.check_ok {p : InputPayload} {i : InputValue} (h : p.check = .ok i) :
    i.type.Fits maxWrapperDepth := by
  obtain ⟨ref, href, h⟩ := bind_eq_ok_iff.1 h
  cases h
  exact RefPayload.check_ok (Nat.zero_add _) href

theorem FieldPayload.check_ok {p : FieldPayload} {f : FieldDef} (h : p.check = .ok f) :
    ∀ ref ∈ f.references, ref.Fits maxWrapperDepth := by
  obtain ⟨args, hargs, h⟩ := bind_eq_ok_iff.1 h
  obtain ⟨ref, href, h⟩ := bind_eq_ok_iff.1 h
  cases h
  rw [FieldDef.references, List.forall_mem_cons, List.forall_mem_map]
  exact ⟨RefPayload.check_ok (Nat.zero_add _) href, forall_mem_of_mapM hargs fun _ _ _ => InputPayload.check_ok⟩

theorem forall_mem_of_checkAll {α β : Type} {f : α → Except SchemaError β} {p : β → Prop} {as : Option (List α)}
    {bs : Option (List β)} (h : checkAll f as = .ok bs) (hf : ∀ a b, f a = .ok b → p b) : ∀ b ∈ bs.getD [], p b := by
  cases as with
  | none =>
    cases h
    simp
  | some as =>
    obtain ⟨bs, hbs, rfl⟩ := map_eq_ok_iff.1 h
    exact forall_mem_of_mapM hbs fun a _ => hf a

theorem TypePayload.check_ok {p : TypePayload} {t : TypeDef} (h : p.check = .ok t) :
    t.kind.isWrapper = false ∧ ∀ ref ∈ t.references, ref.Fits maxWrapperDepth := by
  obtain ⟨kind, -, h⟩ := bind_eq_ok_iff.1 h
  change (if kind.isWrapper = true then Except.error _ else _) = _ at h
  split at h
  · cases h
  next hkind =>
    cases hname : p.name with
    | none =>
      rw [hname] at h
      cases h
    | some name =>
      rw [hname] at h
      obtain ⟨fields, hfields, h⟩ := bind_eq_ok_iff.1 h
      obtain ⟨inputs, hinputs, h⟩ := bind_eq_ok_iff.1 h
      cases h
      refine ⟨by simpa using hkind, forall_mem_references.2 ⟨?_, ?_⟩⟩
      · exact forall_mem_of_checkAll hfields fun _ _ => FieldPayload.check_ok
      · exact forall_mem_of_checkAll hinputs fun _ _ => InputPayload.check_ok

/-- What a payload is accepted for: types that passed their checks, and a
registry made of them. -/
theorem Payload.check_ok {p : Payload} {r : Registry} (h : p.check = .ok r) :
    ∃ queryType mutationType subscriptionType types,
      Registry.ofTypes queryType mutationType subscriptionType types = .ok r ∧
        ∀ t ∈ types, t.kind.isWrapper = false ∧ ∀ ref ∈ t.references, ref.Fits maxWrapperDepth := by
  rw [Payload.check] at h
  split at h
  · cases h
  next schema _ =>
    split at h
    · cases h
    next queryType _ =>
      obtain ⟨types, htypes, h⟩ := bind_eq_ok_iff.1 h
      exact ⟨queryType, _, _, types, h, forall_mem_of_mapM htypes fun _ _ _ => TypePayload.check_ok⟩

end Introspection

/-- A planned call never fails for want of a type. -/
theorem Draft.call_found {queryType : String} {mutationType subscriptionType : Option String} {types : List TypeDef}
    {d : Draft} (hr : Registry.ofTypes queryType mutationType subscriptionType types = .ok d.registry)
    {field : String} {args : List (String × Json)} {selection : Option String} {e : SchemaError}
    (h : d.call field args selection = .error (.schema e)) : e.isTypeNotFound = false := by
  obtain ⟨f, hf, he⟩ := exists_declares_of_call_eq_schema (w := ⟨"", field, args, selection⟩) h
  obtain ⟨t, ht⟩ := exists_resolve_of_declares hr hf
  by_cases hc : d.registry.classify t = .object
  · rw [neededSelection_of_object ht hc, map_eq_error_iff] at he
    exact Registry.defaultSelection_found hr (Registry.mem_types_of_resolve ht) e he
  · rw [neededSelection_of_ne_object ht hc] at he
    cases he

namespace Registry

/-- A registry whose types are sound, and in which nothing is mentioned that
is missing. -/
structure Closed (r : Registry) : Prop where
  kinds : ∀ t ∈ r.types, t.kind ≠ .list ∧ t.kind ≠ .nonNull
  references : ∀ t ∈ r.types, ∀ ref ∈ t.references,
    ref.depth ≤ 7 ∧ ∃ kind, ref.unwrapped = .named kind ref.name ∧ kind ≠ .list ∧ kind ≠ .nonNull
  distinct : (r.types.map (·.name)).Nodup
  query : ∃ t ∈ r.types, t.name = r.queryType
  mutation : ∀ name, r.mutationType = some name → ∃ t ∈ r.types, t.name = name
  subscription : ∀ name, r.subscriptionType = some name → ∃ t ∈ r.types, t.name = name
  referred : ∀ t ∈ r.types, ∀ ref ∈ t.references, ∃ u ∈ r.types, u.name = ref.name

/-- What is done with a registry's own types and references never fails for
want of a type. -/
structure Complete (r : Registry) : Prop where
  resolve : ∀ t ∈ r.types, ∀ ref ∈ t.references, ∃ u ∈ r.types, r.resolve ref = .ok u
  rootType_query : ∃ t ∈ r.types, r.rootType .query = .ok t
  rootType : ∀ kind, Found (r.rootType kind)
  synthesize : ∀ t ∈ r.types, ∀ m, Found (r.synthesize t m).result
  defaultSelection : ∀ t ∈ r.types, Found (r.defaultSelection t.name)
  defaultSelections : Found r.defaultSelections
  call : ∀ d : Draft, d.registry = r → ∀ field args selection e, d.call field args selection = .error (.schema e) →
    e.isTypeNotFound = false

theorem complete_of_ofTypes {queryType : String} {mutationType subscriptionType : Option String}
    {types : List TypeDef} {r : Registry} (h : ofTypes queryType mutationType subscriptionType types = .ok r) :
    r.Complete where
  resolve t ht ref href := by
    obtain ⟨u, hu⟩ := exists_resolve h ht href
    exact ⟨u, mem_types_of_resolve hu, hu⟩
  rootType_query := exists_rootType_query h
  rootType := rootType_found h
  synthesize t ht := synthesize_found h ht
  defaultSelection t ht := defaultSelection_found h ht
  defaultSelections := defaultSelections_found h
  call := by
    rintro d rfl field args selection e he
    exact Draft.call_found h he

theorem isWrapper_eq_false_iff {kind : TypeKind} : kind.isWrapper = false ↔ kind ≠ .list ∧ kind ≠ .nonNull := by
  cases kind <;> simp [TypeKind.isWrapper]

theorem unwrapped_eq : ∀ ref : TypeRef, ref.unwrapped = .named ref.unwrapped.kind ref.name
  | .named _ _ => rfl
  | .list ref => unwrapped_eq ref
  | .nonNull ref => unwrapped_eq ref

/-- **A registry of a JSON value**, whatever the value: its types are named
types with references of at most seven modifiers, under distinct names, and
every root and every reference is there; so nothing that is done with its own
types fails for want of one. -/
theorem ofJson_closed {v : Json} {r : Registry} (h : ofJson v = .ok r) : r.Closed ∧ r.Complete := by
  rw [ofJson] at h
  split at h
  swap
  · cases h
  obtain ⟨queryType, mutationType, subscriptionType, types, hr, htypes⟩ := Introspection.Payload.check_ok h
  refine ⟨?_, complete_of_ofTypes hr⟩
  obtain ⟨rfl, hnodup, hall⟩ := ofTypes_eq_ok_iff.1 hr
  have hthere : ∀ name ∈ requiredNames ⟨types, queryType, mutationType, subscriptionType⟩, ∃ t ∈ types, t.name = name :=
    fun name hname => List.mem_map.1 (isSome_find?_iff.1 (hall name hname))
  exact {
    kinds := fun t ht => isWrapper_eq_false_iff.1 (htypes t ht).1
    references := fun t ht ref href =>
      have hfits := (htypes t ht).2 ref href
      ⟨hfits.1, _, unwrapped_eq ref, isWrapper_eq_false_iff.1 hfits.2⟩
    distinct := hnodup
    query := hthere _ (List.mem_cons_self ..)
    mutation := fun name hname => hthere name (by simp_all [requiredNames])
    subscription := fun name hname => hthere name (by simp_all [requiredNames])
    referred := fun t ht ref href => hthere _ (by
      simp only [requiredNames, List.mem_cons, List.mem_append, List.mem_flatMap]
      exact .inr (.inr ⟨t, ht, List.mem_map_of_mem href⟩)) }

end Registry

namespace Roster

/-- A reference with as many modifiers as there can be. -/
def scores : FieldDef :=
  field "scores" (.nonNull (.list (.nonNull (.list (.nonNull (.list (.nonNull (.named .scalar "String"))))))))

def server : ServerSchema where
  queryType := "Query"
  mutationType := none
  subscriptionType := none
  types := [query, object "User" [field "friends" (.list (.named .object "User")), scores], text]
  interfaces _ := .null
  possibleTypes _ := .null
  directives := .array []
  kind_named := by decide
  references_named := by decide

end Roster

theorem Registry.ofJson_closed_roster :
    ofJson (.object [("data", Roster.server.tree)]) = .ok ⟨Roster.server.types, "Query", none, none⟩ ∧
      Closed ⟨Roster.server.types, "Query", none, none⟩ ∧ Complete ⟨Roster.server.types, "Query", none, none⟩ := by
  have h : ofJson (.object [("data", Roster.server.tree)]) = .ok ⟨Roster.server.types, "Query", none, none⟩ := rfl
  exact ⟨h, ofJson_closed h⟩

end GraphCalls
