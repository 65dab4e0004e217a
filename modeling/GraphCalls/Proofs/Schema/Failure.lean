/-
Where a walk fails: at the first type without members that it meets.

The outline of a type goes on where a walk would fail, as if a type without a
list of members had an empty one. In a registry that was made there is exactly
one such outline for each memo (`exists_outline`, `Outline.Lists.unique`), and
it lists what there is to meet in depth-first order. A walk follows it up to
the first type without members, and leaves in the memo what it has recorded by
then (`Runs.follows`).
-/
import GraphCalls.Proofs.Schema.CallDepth
import GraphCalls.Proofs.Schema.Closed
import GraphCalls.Proofs.Schema.FirstOccurrence

namespace GraphCalls

/-- A type with neither output nor input fields; it has no selection. -/
def TypeDef.IsBare (t : TypeDef) : Prop := t.fields = none ∧ t.inputFields = none

instance (t : TypeDef) : Decidable t.IsBare := inferInstanceAs (Decidable (_ ∧ _))

theorem TypeDef.members?_eq_none_iff {t : TypeDef} : t.members? = none ↔ t.IsBare := by
  rw [members?, IsBare]
  cases t.fields <;> simp

/-- Pairs that are recorded once, and were not before, are counted once. -/
theorem Memo.visits_append {m : Memo} {new : List Expansion} (hnodup : new.Nodup) (hnew : ∀ e ∈ new, e ∉ m.expanded)
    (f n : String) : Memo.visits ⟨m.expanded ++ new⟩ f n = if (f, n) ∈ new then 1 else m.visits f n := by
  rw [visits, List.count_append]
  split
  next h => rw [List.count_eq_zero_of_not_mem (hnew _ h), List.count_eq_one_of_mem hnodup h]
  next h => rw [List.count_eq_zero_of_not_mem h, visits, Nat.add_zero]

namespace Outline

section
variable {r : Registry} {f : String} {ref : TypeRef} {t : TypeDef} {ms : List (String × TypeRef)} {o : Outline}
  {seen : List Expansion}

/-! ## What became of the first member -/

theorem Lists.of_leaf (h : Lists r ((f, ref) :: ms) o) (hr : r.resolve ref = .ok t) (hc : r.classify t ≠ .object) :
    ∃ rest, o = .leaf f rest ∧ Lists r ms rest := by
  cases h with
  | leaf _ _ h => exact ⟨_, rfl, h⟩
  | dropped hr' hc' | opened hr' hc' =>
    cases hr.symm.trans hr'
    exact absurd hc' hc

theorem Lists.of_recorded (h : Lists r ((f, ref) :: ms) o) (hp : o.Prunes seen) (hr : r.resolve ref = .ok t)
    (hc : r.classify t = .object) (hm : (f, t.name) ∈ seen) :
    ∃ rest, o = .dropped f t rest ∧ Lists r ms rest ∧ rest.Prunes seen := by
  cases h with
  | leaf hr' hc' =>
    cases hr.symm.trans hr'
    exact absurd hc hc'
  | dropped hr' _ h =>
    cases hr.symm.trans hr'
    exact ⟨_, rfl, h, hp.2⟩
  | opened hr' =>
    cases hr.symm.trans hr'
    exact absurd hm hp.1

theorem Lists.of_new (h : Lists r ((f, ref) :: ms) o) (hp : o.Prunes seen) (hr : r.resolve ref = .ok t)
    (hc : r.classify t = .object) (hm : (f, t.name) ∉ seen) :
    ∃ b rest, o = .opened f t b rest ∧ (Lists r t.members b ∧ b.Prunes (seen ++ [(f, t.name)])) ∧
      Lists r ms rest ∧ rest.Prunes (seen ++ (f, t.name) :: b.recorded) := by
  cases h with
  | leaf hr' hc' =>
    cases hr.symm.trans hr'
    exact absurd hc hc'
  | dropped hr' =>
    cases hr.symm.trans hr'
    exact absurd hp.1 hm
  | opened hr' _ hb h =>
    cases hr.symm.trans hr'
    exact ⟨_, _, rfl, ⟨hb, hp.2.1⟩, h, hp.2.2⟩

end

/-- What became of members is determined by them and by what was recorded
before. -/
theorem Lists.unique {r : Registry} {ms : List (String × TypeRef)} {o : Outline} (h : Lists r ms o) :
    ∀ {seen o'}, Prunes seen o → Lists r ms o' → Prunes seen o' → o' = o := by
  induction h with
  | done =>
    intro seen o' _ h' _
    cases h'
    rfl
  | leaf hr hc _ ih =>
    intro seen o' hp h' hp'
    obtain ⟨rest, rfl, hrest⟩ := h'.of_leaf hr hc
    rw [ih hp hrest hp']
  | dropped hr hc _ ih =>
    intro seen o' hp h' hp'
    obtain ⟨rest, rfl, hrest, hprest⟩ := h'.of_recorded hp' hr hc hp.1
    rw [ih hp.2 hrest hprest]
  | opened hr hc _ _ ihb ih =>
    intro seen o' hp h' hp'
    obtain ⟨b', rest, rfl, ⟨hb, hpb⟩, hrest, hprest⟩ := h'.of_new hp' hr hc hp.1
    obtain rfl := ihb hp.2.1 hb hpb
    rw [ih hp.2.2 hrest hprest]

/-! ## Walks along an outline -/

/-- The pairs that expansions record. -/
def pairs (es : List (String × TypeDef × Outline)) : List Expansion := es.map fun e => (e.1, e.2.1.name)

theorem recorded_eq_pairs (o : Outline) : o.recorded = pairs o.expansions := rfl

/-- From a memo, a walk follows an outline: to its end, or into the first type
without members. -/
inductive Follows (m : Memo) (o : Outline) : Walk (List SelectionNode) → Prop
  | done (hall : ∀ e ∈ o.expansions, ¬e.2.1.IsBare) : Follows m o ⟨.ok o.nodes, ⟨m.expanded ++ o.recorded⟩⟩
  | stuck {before e after} (hes : o.expansions = before ++ e :: after) (hbefore : ∀ e ∈ before, ¬e.2.1.IsBare)
      (hbare : e.2.1.IsBare) :
      Follows m o ⟨.error (.notComposite e.2.1.name), ⟨m.expanded ++ pairs (before ++ [e])⟩⟩

variable {m : Memo} {o b : Outline} {w : Walk (List SelectionNode)} {f : String} {t : TypeDef}

theorem Follows.leaf (h : Follows m o w) : Follows m (.leaf f o) (w.push (.leaf f)) := by
  cases h with
  | done hall => exact .done hall
  | stuck hes hbefore hbare => exact .stuck hes hbefore hbare

theorem Follows.dropped (h : Follows m o w) : Follows m (.dropped f t o) w := by
  cases h with
  | done hall => exact .done hall
  | stuck hes hbefore hbare => exact .stuck hes hbefore hbare

/-- A type without members has no body. -/
theorem Follows.bare (ht : t.IsBare) :
    Follows m (.opened f t b o) ⟨.error (.notComposite t.name), m.record (f, t.name)⟩ := by
  have hes : (Outline.opened f t b o).expansions = [] ++ (f, t, b) :: (b.expansions ++ o.expansions) := rfl
  exact .stuck hes (by simp) ht

/-- A body that fails is where the walk fails. -/
theorem Follows.failed {e : SchemaError} {m' : Memo} (ht : ¬t.IsBare)
    (h : Follows (m.record (f, t.name)) b ⟨.error e, m'⟩) : Follows m (.opened f t b o) ⟨.error e, m'⟩ := by
  obtain _ | @⟨before, e, after, hes, hbefore, hbare⟩ := h
  have hmemo : (m.record (f, t.name)).expanded ++ pairs (before ++ [e]) =
      m.expanded ++ pairs (((f, t, b) :: before) ++ [e]) := by
    simp [Memo.record, pairs]
  rw [hmemo]
  have hes : (Outline.opened f t b o).expansions = ((f, t, b) :: before) ++ e :: (after ++ o.expansions) := by
    simp [expansions, hes]
  exact .stuck hes (List.forall_mem_cons.2 ⟨ht, hbefore⟩) hbare

/-- After a body that was made, the walk goes on with the other members. -/
theorem Follows.opened (ht : ¬t.IsBare) (hb : ∀ e ∈ b.expansions, ¬e.2.1.IsBare)
    (h : Follows ⟨(m.record (f, t.name)).expanded ++ b.recorded⟩ o w) :
    Follows m (.opened f t b o) (w.push (.nested f b.nodes)) := by
  have hmade : ∀ e ∈ (f, t, b) :: b.expansions, ¬e.2.1.IsBare := List.forall_mem_cons.2 ⟨ht, hb⟩
  cases h with
  | done hall =>
    have hmemo : (m.record (f, t.name)).expanded ++ b.recorded ++ o.recorded =
        m.expanded ++ (Outline.opened f t b o).recorded := by
      simp [Memo.record]
    rw [hmemo]
    exact .done fun e he => (List.mem_append.1 he).elim (hmade e) (hall e)
  | @stuck before e after hes hbefore hbare =>
    have hmemo : (m.record (f, t.name)).expanded ++ b.recorded ++ pairs (before ++ [e]) =
        m.expanded ++ pairs (((f, t, b) :: b.expansions ++ before) ++ [e]) := by
      simp [Memo.record, pairs, recorded]
    rw [hmemo]
    have hes : (Outline.opened f t b o).expansions = ((f, t, b) :: b.expansions ++ before) ++ e :: after := by
      simp [expansions, hes]
    exact .stuck hes (fun e he => (List.mem_append.1 he).elim (hmade e) (hbefore e)) hbare

end Outline

namespace Registry

variable {r : Registry} {t x : TypeDef} {m : Memo} {o : Outline}
  {queryType : String} {mutationType subscriptionType : Option String} {types : List TypeDef}

/-! ## The outline of a type -/

/-- Members that all come down to types have an outline, if the types do whose
bodies it opens. -/
theorem exists_outline_of_members {depth : Nat}
    (hd : ∀ {u seen}, u ∈ r.types → (r.unrecorded t ⟨seen⟩).length < depth →
      ∃ o, Outline.Lists r u.members o ∧ o.Prunes seen) :
    ∀ {ms seen}, (∀ f ref, (f, ref) ∈ ms → ∃ u, r.resolve ref = .ok u ∧
        (r.classify u = .object → ∃ x ∈ t :: r.types, (f, u.name) ∈ r.expansionsOf x)) →
      (r.unrecorded t ⟨seen⟩).length < depth + 1 → ∃ o, Outline.Lists r ms o ∧ o.Prunes seen := by
  intro ms
  induction ms with
  | nil => exact fun _ _ => ⟨.done, .done, trivial⟩
  | cons member ms ih =>
    intro seen hms hseen
    obtain ⟨f, ref⟩ := member
    obtain ⟨⟨u, hu, hexpansion⟩, hrest⟩ := List.forall_mem_cons.1 fun (p : String × TypeRef) hp => hms p.1 p.2 hp
    have ih {seen} := @ih seen fun f ref hm => hrest (f, ref) hm
    by_cases hc : r.classify u = .object
    · by_cases hm : (f, u.name) ∈ seen
      · obtain ⟨o, ho, hp⟩ := ih hseen
        exact ⟨.dropped f u o, .dropped hu hc ho, hm, hp⟩
      · have hlt := length_unrecorded_record_lt (mem_unrecorded (m := ⟨seen⟩).2 ⟨hexpansion hc, hm⟩)
        have hdepth : (r.unrecorded t ⟨seen ++ [(f, u.name)]⟩).length < depth := by
          simp only [Memo.record] at hlt
          omega
        obtain ⟨b, hb, hpb⟩ := hd (mem_types_of_resolve hu) hdepth
        have hle : (r.unrecorded t ⟨seen ++ (f, u.name) :: b.recorded⟩).length ≤ (r.unrecorded t ⟨seen⟩).length :=
          length_unrecorded_le (List.subset_append_left _ _)
        obtain ⟨o, ho, hpo⟩ := ih (Nat.lt_of_le_of_lt hle hseen)
        exact ⟨.opened f u b o, .opened hu hc hb ho, hm, hpb, hpo⟩
    · obtain ⟨o, ho, hp⟩ := ih hseen
      exact ⟨.leaf f o, .leaf hu hc ho, hp⟩

/-- Every type has an outline, from whatever memo. -/
theorem exists_outline (hr : ofTypes queryType mutationType subscriptionType types = .ok r) (ht : t ∈ r.types)
    (seen : List Expansion) : ∃ o, Outline.Lists r t.members o ∧ o.Prunes seen := by
  have hstep : ∀ {depth u seen}, u ∈ r.types → (r.unrecorded t ⟨seen⟩).length < depth →
      ∃ o, Outline.Lists r u.members o ∧ o.Prunes seen := by
    intro depth
    induction depth with
    | zero => exact fun _ h => absurd h (Nat.not_lt_zero _)
    | succ depth ih =>
      intro u seen hu h
      refine exists_outline_of_members ih (fun f ref hm => ?_) h
      obtain ⟨x, hx⟩ := exists_resolve hr hu (TypeDef.mem_references_of_mem_members hm)
      exact ⟨x, hx, fun hc => ⟨u, List.mem_cons_of_mem _ hu, mem_expansionsOf.2 ⟨f, ref, x, hm, hx, hc, rfl⟩⟩⟩
  exact hstep ht (Nat.lt_succ_self _)

/-! ## Runs along an outline -/

/-- The members that a task walks. -/
def Task.listed : Task → List (String × TypeRef)
  | .type t => t.members
  | .members ms => ms

/-- A walk of a task follows an outline, unless it stops before the first
member. -/
def Task.Follows (m : Memo) (o : Outline) (w : Walk (List SelectionNode)) : Task → Prop
  | .type t => if t.IsBare then w = ⟨.error (.notComposite t.name), m⟩ else o.Follows m w
  | .members _ => o.Follows m w

theorem Runs.follows {task : Task} {w : Walk (List SelectionNode)} {n : Nat} (h : Runs r task m w n) :
    ∀ {o : Outline}, Outline.Lists r task.listed o → o.Prunes m.expanded → task.Follows m o w := by
  induction h with
  | notComposite ht =>
    intro o _ _
    rw [Task.Follows, if_pos (TypeDef.members?_eq_none_iff.1 ht)]
  | @type t ms m w n ht _ ih =>
    intro o hl hp
    have hbare : ¬t.IsBare := by simp [← TypeDef.members?_eq_none_iff, ht]
    have hms : t.members = ms := by simp [TypeDef.members, ht]
    rw [Task.Follows, if_neg hbare]
    exact ih (hms ▸ hl) hp
  | @done m =>
    intro o hl _
    cases hl
    have hdone := Outline.Follows.done (m := m) (o := .done) (by simp [Outline.expansions])
    rwa [Outline.recorded_done, List.append_nil] at hdone
  | unresolved hr =>
    intro o hl _
    cases hl with
    | leaf hr' | dropped hr' | opened hr' => cases hr.symm.trans hr'
  | leaf hr hc _ ih =>
    intro o hl hp
    obtain ⟨rest, rfl, hrest⟩ := hl.of_leaf hr hc
    exact (ih hrest hp).leaf
  | @dropped f ref t ms m w n hr hc hv _ ih =>
    intro o hl hp
    obtain ⟨rest, rfl, hrest, hprest⟩ := hl.of_recorded hp hr hc ((m.mem_expanded_iff f t.name).2 hv)
    exact (ih hrest hprest).dropped
  | @failed f ref t ms m m' e n hr hc hv _ ih =>
    intro o hl hp
    have hnew : (f, t.name) ∉ m.expanded := fun hm => (m.mem_expanded_iff f t.name).1 hm hv
    obtain ⟨b, rest, rfl, ⟨hb, hpb⟩, -⟩ := hl.of_new hp hr hc hnew
    have hbody := ih hb hpb
    rw [Task.Follows] at hbody
    split at hbody
    next hbare =>
      cases hbody
      exact .bare hbare
    next hbare => exact hbody.failed hbare
  | @opened f ref t ms m m' body w k n hr hc hv _ _ ihbody ih =>
    intro o hl hp
    have hnew : (f, t.name) ∉ m.expanded := fun hm => (m.mem_expanded_iff f t.name).1 hm hv
    obtain ⟨b, rest, rfl, ⟨hb, hpb⟩, hrest, hprest⟩ := hl.of_new hp hr hc hnew
    have hbody := ihbody hb hpb
    rw [Task.Follows] at hbody
    split at hbody
    next => cases hbody
    next hbare =>
      cases hbody with
      | done hall => exact .opened hbare hall (ih hrest (by simpa [Memo.record] using hprest))

theorem synthesize_of_isBare (ht : t.IsBare) : r.synthesize t m = ⟨.error (.notComposite t.name), m⟩ := by
  have hexpand : r.expand (r.depthBound t m) t m = some ⟨.error (.notComposite t.name), m⟩ := by
    rw [depthBound, expand, TypeDef.members?_eq_none_iff.2 ht]
  rw [synthesize, selectionTree, hexpand]
  rfl

theorem synthesize_follows (ht : ¬t.IsBare) (hl : Outline.Lists r t.members o) (hp : o.Prunes m.expanded) :
    ∃ w, o.Follows m w ∧ r.synthesize t m = ⟨w.result.map SelectionNode.bodyText, w.memo⟩ := by
  obtain ⟨_, _, hrun⟩ := runs_of_expand (r.expand_depthBound t m)
  have hw := hrun.follows hl hp
  rw [Task.Follows, if_neg ht] at hw
  exact ⟨r.selectionTree t m, hw, rfl⟩

/-- The bodies of an outline are for the types that chains of new edges reach. -/
theorem exists_body_iff_reaches (hl : Outline.Lists r t.members o) (hp : o.Prunes m.expanded) :
    (∃ b, (x, b) ∈ o.bodies t) ↔ r.Reaches m t x := by
  constructor
  · rintro ⟨b, hb⟩
    rcases Outline.mem_bodies.1 hb with ⟨rfl, -⟩ | ⟨f, he⟩
    · exact .refl
    · obtain ⟨z, hz, hx⟩ := reaches_of_expansion hl (fun p hp => hp) (fun e => hp.not_mem) he
      exact hz.tail ⟨f, hx⟩
  · intro hx
    have ho : Outlines r t.members m ⟨.ok o.nodes, ⟨m.expanded ++ o.recorded⟩⟩ o := ⟨hl, hp, rfl, rfl⟩
    exact body_of_reaches ho hx

/-- A chain of new edges comes to a type without members, or starts there, if
the outline meets one. -/
theorem reaches_isBare_iff (hl : Outline.Lists r t.members o) (hp : o.Prunes m.expanded) :
    (∃ x, r.Reaches m t x ∧ x.IsBare) ↔ t.IsBare ∨ ∃ e ∈ o.expansions, e.2.1.IsBare := by
  simp only [← exists_body_iff_reaches hl hp, Outline.mem_bodies]
  constructor
  · rintro ⟨x, ⟨b, ⟨rfl, -⟩ | ⟨f, he⟩⟩, hbare⟩
    · exact .inl hbare
    · exact .inr ⟨(f, x, b), he, hbare⟩
  · rintro (hbare | ⟨⟨f, x, b⟩, he, hbare⟩)
    · exact ⟨t, ⟨o, .inl ⟨rfl, rfl⟩⟩, hbare⟩
    · exact ⟨x, ⟨b, .inr ⟨f, he⟩⟩, hbare⟩

/-- Whether a selection fails does not need a walk. -/
theorem exists_synthesize_error_iff (hr : ofTypes queryType mutationType subscriptionType types = .ok r)
    (ht : t ∈ r.types) :
    (∃ e, (r.synthesize t m).result = .error e) ↔ ∃ x, r.Reaches m t x ∧ x.IsBare := by
  obtain ⟨o, hl, hp⟩ := exists_outline hr ht m.expanded
  rw [reaches_isBare_iff hl hp]
  by_cases hbare : t.IsBare
  · exact iff_of_true ⟨_, by rw [synthesize_of_isBare hbare]⟩ (.inl hbare)
  · obtain ⟨w, hw, hrun⟩ := synthesize_follows hbare hl hp
    rw [hrun]
    cases hw with
    | done hall =>
      refine iff_of_false ?_ ?_
      · rintro ⟨e, he⟩
        cases he
      · rintro (h | ⟨e, he, h⟩)
        · exact hbare h
        · exact hall e he h
    | stuck hes hbefore hb => exact iff_of_true ⟨_, rfl⟩ (.inr ⟨_, by simp [hes], hb⟩)

theorem Reaches.eq_or_object (h : r.Reaches m t x) : x = t ∨ x ∈ r.types ∧ r.classify x = .object := by
  rcases h.cases_tail with rfl | ⟨y, -, f, ⟨ref, -, hx, hc⟩, -⟩
  · exact .inl rfl
  · exact .inr ⟨mem_types_of_resolve hx, hc⟩

theorem exists_defaultSelections_iff (hr : ofTypes queryType mutationType subscriptionType types = .ok r) :
    (∃ l, r.defaultSelections = .ok l) ↔ ∀ t ∈ r.types, r.classify t = .object → ¬t.IsBare := by
  have hone : ∀ t ∈ r.types, (∃ l, (r.selectionOf t).map (fun s => (t.name, s)) = .ok l) ↔
      ¬∃ x, r.Reaches .empty t x ∧ x.IsBare := by
    intro t ht
    rw [← exists_synthesize_error_iff hr ht, selectionOf]
    cases (r.synthesize t .empty).result <;> simp [Except.map]
  rw [defaultSelections, exists_mapM_eq_ok_iff]
  constructor
  · intro h t ht hc hbare
    have hmade := h t (List.mem_filter.2 ⟨ht, by simp [isObjectLike, hc]⟩)
    exact (hone t ht).1 hmade ⟨t, .refl, hbare⟩
  · intro h t ht
    obtain ⟨ht, hc⟩ := List.mem_filter.1 ht
    refine (hone t ht).2 ?_
    rintro ⟨x, hx, hbare⟩
    rcases hx.eq_or_object with rfl | ⟨hmem, hobject⟩
    · exact h x ht (by simpa [isObjectLike] using hc) hbare
    · exact h x hmem hobject hbare

/-- **When a selection fails, and what it leaves**: it fails exactly if a chain
of new edges from its type comes to a type with neither fields nor input
fields. It names the first such type that it meets, and has then recorded the
pairs up to that one, each once. All selections of a registry can be made
exactly if none of the types that need one is without members. -/
theorem synthesize_fails_iff_reaches (hr : ofTypes queryType mutationType subscriptionType types = .ok r) :
    (∀ t ∈ r.types, ∀ m,
      ((∃ e, (r.synthesize t m).result = .error e) ↔ ∃ x, r.Reaches m t x ∧ x.IsBare) ∧
      (t.IsBare → r.synthesize t m = ⟨.error (.notComposite t.name), m⟩) ∧
      ∃ o, (Outline.Lists r t.members o ∧ o.Prunes m.expanded ∧
          ∀ o', Outline.Lists r t.members o' → o'.Prunes m.expanded → o' = o) ∧
        ∀ e, ¬t.IsBare → (r.synthesize t m).result = .error e →
          ∃ before f x b after, o.expansions = before ++ (f, x, b) :: after ∧
            (∀ p ∈ before, ¬p.2.1.IsBare) ∧ x.IsBare ∧ e = .notComposite x.name ∧
            (r.synthesize t m).memo.expanded = m.expanded ++ (Outline.pairs before ++ [(f, x.name)]) ∧
            ∀ g n, (r.synthesize t m).memo.visits g n =
              if (g, n) ∈ Outline.pairs before ++ [(f, x.name)] then 1 else m.visits g n) ∧
    ((∃ l, r.defaultSelections = .ok l) ↔ ∀ t ∈ r.types, r.classify t = .object → ¬t.IsBare) := by
  refine ⟨fun t ht m => ⟨exists_synthesize_error_iff hr ht, synthesize_of_isBare, ?_⟩,
    exists_defaultSelections_iff hr⟩
  obtain ⟨o, hl, hp⟩ := exists_outline hr ht m.expanded
  refine ⟨o, ⟨hl, hp, fun o' hl' hp' => hl.unique hp hl' hp'⟩, fun e hbare he => ?_⟩
  obtain ⟨w, hw, hrun⟩ := synthesize_follows hbare hl hp
  rw [hrun] at he ⊢
  cases hw with
  | done => cases he
  | @stuck before p after hes hbefore hb =>
    obtain ⟨f, x, b⟩ := p
    cases he
    have hpairs : o.recorded = (Outline.pairs before ++ [(f, x.name)]) ++ Outline.pairs after := by
      simp [Outline.recorded_eq_pairs, hes, Outline.pairs]
    have hnodup := hp.nodup_recorded
    have hnew : ∀ e ∈ Outline.pairs before ++ [(f, x.name)], e ∉ m.expanded :=
      fun e h => hp.not_mem (hpairs ▸ List.mem_append_left _ h)
    rw [hpairs] at hnodup
    refine ⟨before, f, x, b, after, hes, hbefore, hb, rfl, by simp [Outline.pairs], fun g n => ?_⟩
    rw [← Memo.visits_append hnodup.of_append_left hnew]
    simp [Outline.pairs]

end Registry

/-! ## An example -/

namespace Roster

def ghost : TypeDef := ⟨.object, "Ghost", none, none, none, none⟩

/-- A team whose lead has no members. -/
def crew : TypeDef := object "Team" [field "lead" (.named .object "Ghost"), field "title" (.named .scalar "String")]

def haunted : Registry := ⟨[query, user, crew, ghost, text], "Query", none, none⟩

end Roster

/-- The ghost is met behind the team, unless the team is on record. -/
theorem Registry.synthesize_fails_iff_reaches_ghost :
    ofTypes "Query" none none Roster.haunted.types = .ok Roster.haunted ∧ Roster.user ∈ Roster.haunted.types ∧
      ¬Roster.user.IsBare ∧
      (Roster.haunted.synthesize Roster.user .empty).result = .error (.notComposite "Ghost") ∧
      (Roster.haunted.synthesize Roster.user .empty).memo =
        ⟨[("friends", "User"), ("team", "Team"), ("lead", "Ghost")]⟩ ∧
      (∃ x, Roster.haunted.Reaches .empty Roster.user x ∧ x.IsBare) ∧
      ¬(∃ x, Roster.haunted.Reaches ⟨[("team", "Team")]⟩ Roster.user x ∧ x.IsBare) ∧
      ¬∃ l, Roster.haunted.defaultSelections = .ok l := by
  have hr : ofTypes "Query" none none Roster.haunted.types = .ok Roster.haunted := by decide
  have hu : Roster.user ∈ Roster.haunted.types := by decide
  have hfails : (Roster.haunted.synthesize Roster.user .empty).result = .error (.notComposite "Ghost") := by decide
  have hmade : (Roster.haunted.synthesize Roster.user ⟨[("team", "Team")]⟩).result =
      .ok "name friends \x7b name \x7d" := by decide
  obtain ⟨hall, hdefault⟩ := synthesize_fails_iff_reaches hr
  refine ⟨hr, hu, by decide, hfails, by decide, (hall _ hu .empty).1.1 ⟨_, hfails⟩, fun hx => ?_, fun h => ?_⟩
  · obtain ⟨e, he⟩ := (hall _ hu ⟨[("team", "Team")]⟩).1.2 hx
    rw [hmade] at he
    cases he
  · exact hdefault.1 h Roster.ghost (by decide) (by decide) (by decide)

end GraphCalls
