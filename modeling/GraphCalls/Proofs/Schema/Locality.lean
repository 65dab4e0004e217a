/-
Which part of a schema a default selection depends on.

A walk from a type looks up the types that chains of members lead to, and of
each of them only the class and the members' names with the names of their
types. Where two registries agree on that, each run of a walk in one is a run
in the other (`Runs.transfer`), so the two selections are the same or fail for
the same reason. The order of the types, other types, modifiers, arguments and
descriptions have no part in it (`defaultSelection_local`).
-/
import GraphCalls.Proofs.Schema.CallDepth
import GraphCalls.Proofs.Schema.Closed
import Mathlib.Data.List.Perm.Basic

namespace GraphCalls

namespace TypeDef

/-- The names of a type's members, each with the name of the type that it
comes down to. -/
def memberNames (t : TypeDef) : Option (List (String × String)) :=
  t.members?.map (·.map fun m => (m.1, m.2.name))

/-- Two definitions of a type with members of the same names, in the same
order, that come down to types of the same names. How references are wrapped,
and the kinds, arguments and descriptions written with them, may differ. -/
structure SameShape (t u : TypeDef) : Prop where
  name : t.name = u.name
  kind : t.kind = u.kind
  fields : t.fields.map (·.map fun f => (f.name, f.type.name)) = u.fields.map (·.map fun f => (f.name, f.type.name))
  inputFields : t.inputFields.map (·.map fun f => (f.name, f.type.name)) =
    u.inputFields.map (·.map fun f => (f.name, f.type.name))

theorem memberNames_eq_or (t : TypeDef) : t.memberNames =
    (t.fields.map (·.map fun f => (f.name, f.type.name))).or
      (t.inputFields.map (·.map fun f => (f.name, f.type.name))) := by
  rw [memberNames, members?]
  cases t.fields with
  | some fs => simp
  | none => simp [Function.comp_def]

theorem SameShape.memberNames_eq {t u : TypeDef} (h : t.SameShape u) : t.memberNames = u.memberNames := by
  rw [memberNames_eq_or, memberNames_eq_or, h.fields, h.inputFields]

theorem SameShape.refl (t : TypeDef) : t.SameShape t := ⟨rfl, rfl, rfl, rfl⟩

end TypeDef

namespace Registry

/-- The type of one name has a member that comes down to the other. -/
def Refers (r : Registry) (n k : String) : Prop :=
  ∃ t f ref, r.find? n = some t ∧ (f, ref) ∈ t.members ∧ ref.name = k

/-- Chains of members lead from one name to another, or to itself. -/
def LeadsTo (r : Registry) : String → String → Prop := Relation.ReflTransGen r.Refers

/-- Both registries have a type of a name, and the two have the same class
and the same names in their members. -/
def AgreesOn (r r' : Registry) (n : String) : Prop :=
  ∃ t t', r.find? n = some t ∧ r'.find? n = some t' ∧ t.memberNames = t'.memberNames ∧ r.classify t = r'.classify t'

/-- Two registries agree on all names that are led to. -/
def AgreesFrom (r r' : Registry) (n : String) : Prop := ∀ k, r.LeadsTo n k → r.AgreesOn r' k

/-- Members of one name, of types that the registries agree on from there on. -/
def SameMember (r r' : Registry) (x y : String × TypeRef) : Prop :=
  x.1 = y.1 ∧ x.2.name = y.2.name ∧ r.AgreesFrom r' x.2.name

/-- The tasks of two walks, one in each registry, that will go alike. -/
inductive Task.Alike (r r' : Registry) : Task → Task → Prop
  | notComposite {t t'} (hname : t.name = t'.name) (ht : t.members? = none) (ht' : t'.members? = none) :
      Alike r r' (.type t) (.type t')
  | type {t t' ms ms'} (hname : t.name = t'.name) (ht : t.members? = some ms) (ht' : t'.members? = some ms')
      (h : List.Forall₂ (r.SameMember r') ms ms') : Alike r r' (.type t) (.type t')
  | members {ms ms'} (h : List.Forall₂ (r.SameMember r') ms ms') : Alike r r' (.members ms) (.members ms')

variable {r r' : Registry} {name : String} {t t' : TypeDef}

/-! ## Runs in two registries -/

theorem AgreesFrom.of_refers {k : String} (h : r.AgreesFrom r' name) (hk : r.Refers name k) : r.AgreesFrom r' k :=
  fun l hl => h l (.head hk hl)

theorem name_of_find? (h : r.find? name = some t) : t.name = name := by simpa using List.find?_some h

/-- Members with the same names are members that the registries agree on. -/
theorem sameMembers_of_map_eq : ∀ {ms ms' : List (String × TypeRef)},
    ms.map (fun m => (m.1, m.2.name)) = ms'.map (fun m => (m.1, m.2.name)) →
    (∀ m ∈ ms, r.AgreesFrom r' m.2.name) → List.Forall₂ (r.SameMember r') ms ms'
  | [], [], _, _ => .nil
  | m :: ms, m' :: ms', h, hall => by
    simp only [List.map_cons, List.cons.injEq, Prod.mk.injEq] at h
    rw [List.forall_mem_cons] at hall
    exact .cons ⟨h.1.1, h.1.2, hall.1⟩ (sameMembers_of_map_eq h.2 hall.2)

/-- What a name stands for in two registries that agree from there on. -/
theorem AgreesFrom.exists_types (h : r.AgreesFrom r' name) : ∃ t t', r.find? name = some t ∧ r'.find? name = some t' ∧
    r.classify t = r'.classify t' ∧ Task.Alike r r' (.type t) (.type t') := by
  obtain ⟨t, t', ht, ht', hnames, hclass⟩ := h name .refl
  have hname : t.name = t'.name := (name_of_find? ht).trans (name_of_find? ht').symm
  refine ⟨t, t', ht, ht', hclass, ?_⟩
  cases hms : t.members? with
  | none => exact .notComposite hname hms (by simpa [TypeDef.memberNames, hms] using hnames.symm)
  | some ms =>
    simp only [TypeDef.memberNames, hms, Option.map_some] at hnames
    obtain ⟨ms', hms', hnames⟩ := Option.map_eq_some_iff.1 hnames.symm
    refine .type hname hms hms' (sameMembers_of_map_eq hnames.symm fun m hm => ?_)
    exact h.of_refers ⟨t, m.1, m.2, ht, by simpa [TypeDef.members, hms] using hm, rfl⟩

/-- What a member comes down to in one registry, its like does in the other. -/
theorem SameMember.resolve {x y : String × TypeRef} (h : r.SameMember r' x y) (hr : r.resolve x.2 = .ok t) :
    ∃ t', r'.resolve y.2 = .ok t' ∧ t.name = t'.name ∧ r.classify t = r'.classify t' ∧
      Task.Alike r r' (.type t) (.type t') := by
  obtain ⟨u, t', hu, ht', hclass, halike⟩ := h.2.2.exists_types
  obtain rfl : t = u := Option.some.inj ((resolve_ok_iff.1 hr).symm.trans hu)
  have hname : t.name = t'.name := (name_of_find? hu).trans (name_of_find? ht').symm
  rw [h.2.1] at ht'
  exact ⟨t', resolve_ok_iff.2 ht', hname, hclass, halike⟩

/-- A member that the registries agree on comes down to a type. -/
theorem SameMember.resolve_ne_error {x y : String × TypeRef} (h : r.SameMember r' x y) (e : SchemaError) :
    r.resolve x.2 ≠ .error e := by
  obtain ⟨u, t', hu, -⟩ := h.2.2.exists_types
  rw [resolve_ok_iff.2 hu]
  nofun

theorem Task.Alike.members_cons {f : String} {ref : TypeRef} {ms : List (String × TypeRef)} {task' : Task}
    (h : Task.Alike r r' (.members ((f, ref) :: ms)) task') : ∃ ref' ms', task' = .members ((f, ref') :: ms') ∧
      r.SameMember r' (f, ref) (f, ref') ∧ Task.Alike r r' (.members ms) (.members ms') := by
  cases h with
  | members h =>
    cases h with
    | @cons _ y _ _ hx hms =>
      obtain ⟨f', ref'⟩ := y
      obtain ⟨rfl, hx⟩ : f = f' ∧ _ := hx
      exact ⟨ref', _, rfl, ⟨rfl, hx⟩, .members hms⟩

/-- A run in one registry is a run in the other. -/
theorem Runs.transfer {task task' : Task} {m : Memo} {w : Walk (List SelectionNode)} {n : Nat} (h : Runs r task m w n)
    (halike : Task.Alike r r' task task') : Runs r' task' m w n := by
  induction h generalizing task' with
  | notComposite ht =>
    cases halike with
    | notComposite hname _ ht' => exact hname ▸ .notComposite ht'
    | type _ hms => cases ht.symm.trans hms
  | type ht _ ih =>
    cases halike with
    | notComposite _ hnone => cases ht.symm.trans hnone
    | type _ hms hms' hsame =>
      cases ht.symm.trans hms
      exact .type hms' (ih (.members hsame))
  | done =>
    cases halike with
    | members hsame =>
      cases hsame
      exact .done
  | unresolved hr =>
    obtain ⟨ref', ms', rfl, hx, -⟩ := halike.members_cons
    exact absurd hr (hx.resolve_ne_error _)
  | leaf hr hc _ ih =>
    obtain ⟨ref', ms', rfl, hx, hms⟩ := halike.members_cons
    obtain ⟨t', hr', -, hclass, -⟩ := hx.resolve hr
    exact .leaf hr' (hclass ▸ hc) (ih hms)
  | dropped hr hc hv _ ih =>
    obtain ⟨ref', ms', rfl, hx, hms⟩ := halike.members_cons
    obtain ⟨t', hr', hname, hclass, -⟩ := hx.resolve hr
    exact .dropped hr' (hclass ▸ hc) (hname ▸ hv) (ih hms)
  | failed hr hc hv _ ih =>
    obtain ⟨ref', ms', rfl, hx, -⟩ := halike.members_cons
    obtain ⟨t', hr', hname, hclass, hbody⟩ := hx.resolve hr
    exact .failed hr' (hclass ▸ hc) (hname ▸ hv) (hname ▸ ih hbody)
  | opened hr hc hv _ _ ihbody ih =>
    obtain ⟨ref', ms', rfl, hx, hms⟩ := halike.members_cons
    obtain ⟨t', hr', hname, hclass, hbody⟩ := hx.resolve hr
    exact .opened hr' (hclass ▸ hc) (hname ▸ hv) (hname ▸ ihbody hbody) (ih hms)

/-- Walks from types that will go alike are one. -/
theorem selectionTree_eq_of_alike (h : Task.Alike r r' (.type t) (.type t')) (m : Memo) :
    r.selectionTree t m = r'.selectionTree t' m := by
  obtain ⟨n, -, hrun⟩ := runs_of_expand (r.expand_depthBound t m)
  obtain ⟨n', -, hrun'⟩ := runs_of_expand (r'.expand_depthBound t' m)
  exact (hrun'.unique (hrun.transfer h)).1

theorem selectionOf_eq_of_alike (h : Task.Alike r r' (.type t) (.type t')) : r.selectionOf t = r'.selectionOf t' := by
  rw [selectionOf, selectionOf, synthesize, synthesize, selectionTree_eq_of_alike h]

theorem defaultSelection_of_find? (h : r.find? name = some t) : r.defaultSelection name = r.selectionOf t := by
  rw [defaultSelection, get_eq_ok_iff.2 h]
  rfl

/-- Where two registries agree, a default selection is the same. -/
theorem defaultSelection_eq_of_agreesFrom (h : r.AgreesFrom r' name) :
    r.defaultSelection name = r'.defaultSelection name := by
  obtain ⟨t, t', ht, ht', -, halike⟩ := h.exists_types
  rw [defaultSelection_of_find? ht, defaultSelection_of_find? ht', selectionOf_eq_of_alike halike]

/-! ## What registries agree on -/

variable {queryType : String} {mutationType subscriptionType subscriptionType' : Option String}
variable {types types' : List TypeDef}

/-- The class of a type depends on its name and kind and on the names of the roots. -/
theorem classify_congr (hquery : r.queryType = r'.queryType) (hmutation : r.mutationType = r'.mutationType)
    (hname : t.name = t'.name) (hkind : t.kind = t'.kind) : r.classify t = r'.classify t' := by
  rw [classify, classify, isExcluded, isExcluded, isRootName, isRootName, hquery, hmutation, hname, hkind]

/-- Registries with the same roots agree wherever the types that are led to
have the same shape in both. -/
theorem agreesFrom_of_sameShape (hr : ofTypes queryType mutationType subscriptionType types = .ok r)
    (hr' : ofTypes queryType mutationType subscriptionType' types' = .ok r') (ht : t ∈ types)
    (hshape : ∀ u ∈ types, r.LeadsTo t.name u.name → ∃ u' ∈ types', u.SameShape u') : r.AgreesFrom r' t.name := by
  obtain ⟨rfl, hnodup, -⟩ := ofTypes_eq_ok_iff.1 hr
  obtain ⟨rfl, hnodup', -⟩ := ofTypes_eq_ok_iff.1 hr'
  -- Every name that is led to is a type's, since references are never left open.
  have hfound : ∀ {k}, (⟨types, queryType, mutationType, subscriptionType⟩ : Registry).LeadsTo t.name k →
      ∃ u ∈ types, u.name = k := by
    intro k hk
    rcases Relation.ReflTransGen.cases_tail_iff .. |>.1 hk with rfl | ⟨n, -, u, f, ref, hu, hm, rfl⟩
    · exact ⟨t, ht, rfl⟩
    · obtain ⟨v, hv⟩ := exists_resolve hr (List.mem_of_find?_eq_some hu) (TypeDef.mem_references_of_mem_members hm)
      exact ⟨v, mem_types_of_resolve hv, name_of_find? (resolve_ok_iff.1 hv)⟩
  intro k hk
  obtain ⟨u, hu, rfl⟩ := hfound hk
  obtain ⟨u', hu', hsame⟩ := hshape u hu hk
  exact ⟨u, u', (find?_eq_some_iff_mem hnodup).2 ⟨hu, rfl⟩, (find?_eq_some_iff_mem hnodup').2 ⟨hu', hsame.name.symm⟩,
    hsame.memberNames_eq, classify_congr rfl rfl hsame.name hsame.kind⟩

/-! ## Types in another order -/

theorem ofTypes_of_perm (hr : ofTypes queryType mutationType subscriptionType types = .ok r) (hp : types.Perm types') :
    ofTypes queryType mutationType subscriptionType types' =
      .ok ⟨types', queryType, mutationType, subscriptionType⟩ := by
  obtain ⟨rfl, hnodup, hall⟩ := ofTypes_eq_ok_iff.1 hr
  refine ofTypes_eq_ok_iff.2 ⟨rfl, ((hp.map (·.name)).nodup_iff).1 hnodup, fun name hname => ?_⟩
  have hsame : name ∈ (⟨types, queryType, mutationType, subscriptionType⟩ : Registry).requiredNames := by
    simpa [requiredNames, hp.mem_iff] using hname
  have hfound := isSome_find?_iff.1 (hall name hsame)
  exact isSome_find?_iff.2 ((hp.map (·.name)).mem_iff.1 hfound)

/-- The order of the types has no part in a default selection. -/
theorem defaultSelection_of_perm (hr : ofTypes queryType mutationType subscriptionType types = .ok r)
    (hp : types.Perm types') (name : String) :
    (⟨types', queryType, mutationType, subscriptionType⟩ : Registry).defaultSelection name =
      r.defaultSelection name := by
  have hr' := ofTypes_of_perm hr hp
  obtain ⟨rfl, -, -⟩ := ofTypes_eq_ok_iff.1 hr
  by_cases hname : name ∈ types.map (·.name)
  · obtain ⟨t, ht, rfl⟩ := List.mem_map.1 hname
    refine (defaultSelection_eq_of_agreesFrom (agreesFrom_of_sameShape hr hr' ht fun u hu _ => ?_)).symm
    exact ⟨u, hp.mem_iff.1 hu, .refl u⟩
  · have hname' : name ∉ types'.map (·.name) := fun h => hname ((hp.map (·.name)).mem_iff.2 h)
    have hget := (get_eq_error_of_not_mem (r := ⟨types, queryType, mutationType, subscriptionType⟩) hname).2
    have hget' := (get_eq_error_of_not_mem (r := ⟨types', queryType, mutationType, subscriptionType⟩) hname').2
    rw [defaultSelection, defaultSelection, hget, hget']
    rfl

/-- A default selection for each type, in order. -/
def Selected (r : Registry) (ts : List TypeDef) (l : List (String × String)) : Prop :=
  List.Forall₂ (fun t e => e.1 = t.name ∧ r.defaultSelection t.name = .ok e.2) ts l

theorem defaultSelections_eq_ok_iff (hnodup : (r.types.map (·.name)).Nodup) {l : List (String × String)} :
    r.defaultSelections = .ok l ↔ r.Selected r.objectLikeTypes l := by
  have hstep : ∀ t ∈ r.objectLikeTypes, ∀ e : String × String,
      ((r.selectionOf t).map fun s => (t.name, s)) = .ok e ↔ e.1 = t.name ∧ r.defaultSelection t.name = .ok e.2 := by
    intro t ht e
    rw [defaultSelection_of_find? ((find?_eq_some_iff_mem hnodup).2 ⟨(List.mem_filter.1 ht).1, rfl⟩), map_eq_ok_iff]
    constructor
    · rintro ⟨s, hs, rfl⟩
      exact ⟨rfl, hs⟩
    · rintro ⟨hname, hs⟩
      exact ⟨e.2, hs, Prod.ext hname.symm rfl⟩
  rw [defaultSelections, mapM_eq_ok_iff, Selected, List.forall₂_iff_zip, List.forall₂_iff_zip]
  refine and_congr_right fun _ => forall₂_congr fun t e => ?_
  exact imp_congr_right fun hte => hstep t (List.of_mem_zip hte).1 e

/-- Types in another order have the same default selections, in that order. -/
theorem defaultSelections_of_perm (hr : ofTypes queryType mutationType subscriptionType types = .ok r)
    (hp : types.Perm types') {l : List (String × String)} (h : r.defaultSelections = .ok l) :
    ∃ l', (⟨types', queryType, mutationType, subscriptionType⟩ : Registry).defaultSelections = .ok l' ∧ l'.Perm l := by
  have hdefault := defaultSelection_of_perm hr hp
  obtain ⟨-, hnodup', -⟩ := ofTypes_eq_ok_iff.1 (ofTypes_of_perm hr hp)
  obtain ⟨rfl, hnodup, -⟩ := ofTypes_eq_ok_iff.1 hr
  have hobjects : (⟨types', queryType, mutationType, subscriptionType⟩ : Registry).objectLikeTypes.Perm
      (⟨types, queryType, mutationType, subscriptionType⟩ : Registry).objectLikeTypes := hp.symm.filter _
  obtain ⟨l', hl', hperm⟩ := List.perm_comp_forall₂ hobjects ((defaultSelections_eq_ok_iff hnodup).1 h)
  refine ⟨l', (defaultSelections_eq_ok_iff hnodup').2 (hl'.imp fun t e hte => ?_), hperm⟩
  rw [hdefault]
  exact hte

/-! ## Locality -/

/-- **A default selection depends on what it reaches, and on nothing else.**
It is the same, or fails for the same reason, in any two registries that agree
on the types that are led to: on their classes, and on the names of their
members and of the types that these come down to. So it is not changed by
other types, by another order of the types, or by definitions that are written
otherwise. If the types come in another order, so do the default selections of
all of them. -/
theorem defaultSelection_local :
    (∀ {r r' : Registry} {name : String}, (∀ n, r.LeadsTo name n → r.AgreesOn r' n) →
      r.defaultSelection name = r'.defaultSelection name) ∧
    (∀ {queryType : String} {mutationType subscriptionType subscriptionType' : Option String}
      {types types' : List TypeDef} {r r' : Registry},
      ofTypes queryType mutationType subscriptionType types = .ok r →
      ofTypes queryType mutationType subscriptionType' types' = .ok r' →
      ∀ t ∈ types, (∀ u ∈ types, r.LeadsTo t.name u.name → ∃ u' ∈ types', u.SameShape u') →
        r.defaultSelection t.name = r'.defaultSelection t.name) ∧
    (∀ {queryType : String} {mutationType subscriptionType : Option String} {types types' : List TypeDef}
      {r : Registry}, ofTypes queryType mutationType subscriptionType types = .ok r → types.Perm types' →
      ∃ r', ofTypes queryType mutationType subscriptionType types' = .ok r' ∧
        (∀ name, r'.defaultSelection name = r.defaultSelection name) ∧
        ∀ l, r.defaultSelections = .ok l → r.Selected r.objectLikeTypes l ∧
          ∃ l', r'.defaultSelections = .ok l' ∧ l'.Perm l ∧ r'.Selected r'.objectLikeTypes l') := by
  refine ⟨fun h => defaultSelection_eq_of_agreesFrom h, fun hr hr' t ht hshape => ?_, fun hr hp => ?_⟩
  · exact defaultSelection_eq_of_agreesFrom (agreesFrom_of_sameShape hr hr' ht hshape)
  · have hr' := ofTypes_of_perm hr hp
    obtain ⟨-, hnodup', -⟩ := ofTypes_eq_ok_iff.1 hr'
    refine ⟨_, hr', defaultSelection_of_perm hr hp, fun l hl => ?_⟩
    obtain ⟨l', hl', hperm⟩ := defaultSelections_of_perm hr hp hl
    obtain ⟨rfl, hnodup, -⟩ := ofTypes_eq_ok_iff.1 hr
    exact ⟨(defaultSelections_eq_ok_iff hnodup).1 hl, l', hl', hperm, (defaultSelections_eq_ok_iff hnodup').1 hl'⟩

end Registry

namespace Roster

/-- The same users and teams, listed otherwise and wrapped otherwise, and a
type that nothing leads to. -/
def rewritten : Registry where
  types := [
    object "Team" [field "lead" (.nonNull (.named .interface "User")), field "title" (.named .scalar "String")],
    text, object "Prize" [field "winner" (.named .object "User")],
    { user with
      description := some "Somebody"
      fields := some [
        ⟨"name", none, [⟨"upper", none, .named .scalar "String", none⟩], .named .scalar "String", true, none⟩,
        field "friends" (.nonNull (.list (.nonNull (.named .object "User")))), field "team" (.named .object "Team")] },
    query]
  queryType := "Query"
  mutationType := none
  subscriptionType := none

end Roster

theorem Registry.defaultSelection_local_roster :
    ofTypes "Query" none none Roster.registry.types = .ok Roster.registry ∧
      ofTypes "Query" none none Roster.rewritten.types = .ok Roster.rewritten ∧
      (∀ u ∈ Roster.registry.types, ∃ u' ∈ Roster.rewritten.types, u.SameShape u') ∧
      Roster.registry.defaultSelection "User" =
        .ok "name friends \x7b name team \x7b lead \x7b name \x7d title \x7d \x7d" ∧
      Roster.rewritten.defaultSelection "User" =
        .ok "name friends \x7b name team \x7b lead \x7b name \x7d title \x7d \x7d" := by
  have hr : ofTypes "Query" none none Roster.registry.types = .ok Roster.registry := rfl
  have hr' : ofTypes "Query" none none Roster.rewritten.types = .ok Roster.rewritten := rfl
  have hshape : ∀ u ∈ Roster.registry.types, ∃ u' ∈ Roster.rewritten.types, u.SameShape u' := by
    refine List.forall_mem_cons.2 ⟨⟨Roster.query, by decide, rfl, rfl, rfl, rfl⟩, List.forall_mem_cons.2 ⟨?_, ?_⟩⟩
    · exact ⟨Roster.rewritten.types[3], by decide, rfl, rfl, rfl, rfl⟩
    · refine List.forall_mem_cons.2 ⟨⟨Roster.rewritten.types[0], by decide, rfl, rfl, rfl, rfl⟩, ?_⟩
      exact List.forall_mem_singleton.2 ⟨Roster.text, by decide, rfl, rfl, rfl, rfl⟩
  have hselection : Roster.registry.defaultSelection "User" =
      .ok "name friends \x7b name team \x7b lead \x7b name \x7d title \x7d \x7d" := by decide
  have hsame := defaultSelection_local.2.1 hr hr' Roster.user (by decide) fun u hu _ => hshape u hu
  exact ⟨hr, hr', hshape, hselection, hsame ▸ hselection⟩

end GraphCalls
