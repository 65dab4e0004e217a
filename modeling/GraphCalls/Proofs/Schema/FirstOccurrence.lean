/-
Which members a walk emits: every leaf, and of the object-like members exactly
those that stand first, in document order, for a pair that was not on record
(`opens_first_occurrences`).

A walk decides by the memo alone, which at any point holds what was recorded
before the walk and what the members before that point have recorded. Those
are the same pairs as occur before it (`Outline.Prunes.mem_of_occurs`), so the
memo can be forgotten.
-/
import GraphCalls.Proofs.Schema.Depth
import Mathlib.Data.List.Nodup

namespace GraphCalls

namespace Outline

/-- Of the occurrences in a list, those are expanded that are the first of
their pair, unless it was recorded before. -/
def OpensFirst (seen : List Expansion) (occ : List (Expansion × Bool)) : Prop :=
  ∀ before e opened after, occ = before ++ (e, opened) :: after →
    (opened = true ↔ e ∉ seen ∧ e ∉ before.map Prod.fst)

variable {seen seen' : List Expansion} {occ occ' : List (Expansion × Bool)} {o : Outline}

theorem opensFirst_nil : OpensFirst seen [] := by
  intro before e opened after h
  simp at h

theorem opensFirst_cons {e opened} (h : opened = true ↔ e ∉ seen) (hocc : OpensFirst (e :: seen) occ) :
    OpensFirst seen ((e, opened) :: occ) := by
  intro before e' opened' after hs
  rcases List.cons_eq_append_iff.1 hs with ⟨rfl, hcons⟩ | ⟨before', rfl, hrest⟩
  · simp only [List.cons.injEq, Prod.mk.injEq] at hcons
    obtain ⟨⟨rfl, rfl⟩, -⟩ := hcons
    simpa using h
  · rw [hocc before' e' opened' after hrest]
    simp only [List.mem_cons, List.map_cons, not_or]
    exact ⟨fun ⟨⟨h1, h2⟩, h3⟩ => ⟨h2, h1, h3⟩, fun ⟨h2, h1, h3⟩ => ⟨⟨h1, h2⟩, h3⟩⟩

theorem opensFirst_append (h : OpensFirst seen occ) (h' : OpensFirst (seen ++ occ.map Prod.fst) occ') :
    OpensFirst seen (occ ++ occ') := by
  intro before e opened after hs
  rcases List.append_eq_append_iff.1 hs with ⟨before', rfl, hlater⟩ | ⟨rest, rfl, hhere⟩
  · rw [h' before' e opened after hlater]
    simp only [List.mem_append, List.map_append, not_or]
    exact and_assoc
  · rcases List.cons_eq_append_iff.1 hhere with ⟨rfl, hcons⟩ | ⟨after', rfl, rfl⟩
    · have := h' [] e opened after hcons
      simpa [not_or] using this
    · exact h before e opened after' rfl

theorem OpensFirst.congr (h : OpensFirst seen occ) (hm : ∀ e, e ∈ seen ↔ e ∈ seen') :
    OpensFirst seen' occ := by
  intro before e opened after hs
  rw [h before e opened after hs, hm]

theorem mem_occurrences_of_mem_recorded {e : Expansion} : ∀ {o : Outline}, e ∈ o.recorded →
    e ∈ o.occurrences.map Prod.fst
  | done, he => by simp at he
  | leaf _ rest, he => mem_occurrences_of_mem_recorded (o := rest) he
  | dropped _ _ rest, he => List.mem_cons_of_mem _ (mem_occurrences_of_mem_recorded (o := rest) he)
  | opened _ _ body rest, he => by
    simp only [recorded_opened, List.mem_cons, List.mem_append] at he
    simp only [occurrences, List.map_cons, List.map_append, List.mem_cons, List.mem_append]
    rcases he with rfl | he | he
    · exact .inl rfl
    · exact .inr (.inl (mem_occurrences_of_mem_recorded he))
    · exact .inr (.inr (mem_occurrences_of_mem_recorded he))

/-- What occurs up to the end of an outline is what is on record there. -/
theorem Prunes.mem_seen_iff (h : o.Prunes seen) {e : Expansion} :
    e ∈ seen ++ o.occurrences.map Prod.fst ↔ e ∈ seen ++ o.recorded := by
  simp only [List.mem_append]
  constructor
  · rintro (he | he)
    · exact .inl he
    · exact List.mem_append.1 (h.mem_of_occurs he)
  · exact Or.imp_right mem_occurrences_of_mem_recorded

/-- To follow the memo is to expand first occurrences. -/
theorem Prunes.opensFirst : ∀ {seen o}, Prunes seen o → OpensFirst seen o.occurrences
  | _, done, _ => opensFirst_nil
  | _, leaf _ rest, h => Prunes.opensFirst (o := rest) h
  | seen, dropped f t rest, h => by
    refine opensFirst_cons (by simp [h.1]) ((Prunes.opensFirst (o := rest) h.2).congr fun e => ?_)
    simp only [List.mem_cons]
    exact ⟨.inr, fun he => he.elim (fun he => he ▸ h.1) id⟩
  | seen, opened f t body rest, h => by
    obtain ⟨hn, hb, hr⟩ := h
    refine opensFirst_cons (by simp [hn]) (opensFirst_append ?_ ?_)
    · refine (Prunes.opensFirst hb).congr fun e => ?_
      simp [or_comm]
    · refine (Prunes.opensFirst hr).congr fun e => ?_
      rw [← List.singleton_append, ← List.append_assoc, ← hb.mem_seen_iff]
      simp only [List.mem_append, List.mem_cons, List.not_mem_nil, or_false]
      rw [or_comm (a := e ∈ seen)]

theorem Prunes.nodup_recorded : ∀ {seen o}, Prunes seen o → o.recorded.Nodup
  | _, done, _ => by simp
  | _, leaf _ rest, h => Prunes.nodup_recorded (o := rest) h
  | _, dropped _ _ rest, h => Prunes.nodup_recorded (o := rest) h.2
  | seen, opened f t body rest, h => by
    obtain ⟨-, hb, hr⟩ := h
    rw [recorded_opened, List.nodup_cons, List.nodup_append]
    refine ⟨fun he => ?_, hb.nodup_recorded, hr.nodup_recorded, fun e he e' he' heq => ?_⟩
    · rcases List.mem_append.1 he with he | he
      · exact hb.not_mem he (by simp)
      · exact hr.not_mem he (by simp)
    · exact hr.not_mem he' (by simp [← heq, he])

end Outline

namespace SelectionNode

theorem text_nested_ne_empty (f : String) (body : List SelectionNode) : text (.nested f body) ≠ "" := by
  intro h
  have := congrArg String.length h
  simp [text, String.length_append] at this

/-- Where no leaf is without a name, every node of a body shows. -/
theorem tokens_eq_map {ns : List SelectionNode} (h : ∀ f ∈ leafNames ns, f ≠ "") :
    tokens ns = ns.map text := by
  rw [tokens, texts_eq_map, List.filter_eq_self]
  induction ns with
  | nil => simp
  | cons n ns ih =>
    cases n with
    | leaf f =>
      simp only [leafNames, List.mem_cons, forall_eq_or_imp] at h
      simp only [List.map_cons, List.mem_cons, forall_eq_or_imp]
      exact ⟨by simpa [text] using h.1, ih h.2⟩
    | nested f body =>
      simp only [List.map_cons, List.mem_cons, forall_eq_or_imp]
      exact ⟨by simpa using text_nested_ne_empty f body, ih h⟩

end SelectionNode

namespace Registry

variable {r : Registry} {t x : TypeDef} {m : Memo}

theorem exists_of_mem_leafMembers {ms : List (String × TypeRef)} {f : String} (h : f ∈ r.leafMembers ms) :
    ∃ ref, (f, ref) ∈ ms := by
  simp only [leafMembers, List.mem_filterMap, Prod.exists] at h
  obtain ⟨g, ref, hm, hg⟩ := h
  split at hg
  · obtain ⟨-, rfl⟩ : _ ∧ g = f := by simpa using hg
    exact ⟨ref, hm⟩
  · simp at hg

/-- Object-like types are neither introspection's own nor roots. -/
theorem not_excluded_of_object (h : r.classify t = .object) :
    ¬ "__".toList <+: t.name.toList ∧ t.name ≠ r.queryType ∧ r.mutationType ≠ some t.name := by
  have hx : r.isExcluded t.name = false := by
    by_contra hx
    rw [classify, if_pos (by simpa using hx)] at h
    simp at h
  simp only [isExcluded, isRootName, Bool.or_eq_false_iff, beq_eq_false_iff_ne] at hx
  obtain ⟨hp, hq, hm⟩ := hx
  refine ⟨fun hp' => ?_, hq, hm⟩
  have := List.isPrefixOf_iff_prefix.2 (show metaStart <+: t.name.toList from hp')
  simp [hp] at this

/-- **What a walk emits**, for types whose members all have names: no pair is
expanded twice or anew, the expanded pairs are those that the memo gains and
each is counted once, a body shows all of its leaves in order and of its
object-like members the first occurrences, and no introspection or root type
is expanded. -/
theorem opens_first_occurrences {s : String}
    (hnames : ∀ x ∈ t :: r.types, ∀ p ∈ x.members, p.1 ≠ "")
    (h : (r.synthesize t m).result = .ok s) :
    ∃ o, Outlines r t.members m (r.selectionTree t m) o ∧ s = SelectionNode.bodyText o.nodes ∧
      (o.recorded.Nodup ∧ ∀ e ∈ o.recorded, e ∉ m.expanded) ∧
      (∀ f n, ((f, n) ∈ o.recorded ↔ m.visits f n = 0 ∧ (r.synthesize t m).memo.visits f n ≠ 0) ∧
        (r.synthesize t m).memo.visits f n = if (f, n) ∈ o.recorded then 1 else m.visits f n) ∧
      (∀ x b, (x, b) ∈ o.bodies t → SelectionNode.leafNames b.nodes = r.leafMembers x.members ∧
        SelectionNode.tokens b.nodes = b.nodes.map SelectionNode.text) ∧
      Outline.OpensFirst m.expanded o.occurrences ∧
      ∀ f x b, (f, x, b) ∈ o.expansions →
        ¬ "__".toList <+: x.name.toList ∧ x.name ≠ r.queryType ∧ r.mutationType ≠ some x.name := by
  obtain ⟨o, ho, hs⟩ := synthesize_outline h
  refine ⟨o, ho, hs, ⟨ho.prunes.nodup_recorded, fun e => ho.prunes.not_mem⟩, fun f n => ?_,
    fun x b hb => ?_, ho.prunes.opensFirst, fun f x b he => not_excluded_of_object (ho.lists.expansion he).2.1⟩
  · have hm : (r.synthesize t m).memo.expanded = m.expanded ++ o.recorded := ho.memo
    have hv : (r.synthesize t m).memo.visits f n = m.visits f n + o.recorded.count (f, n) := by
      rw [Memo.visits, hm, List.count_append]; rfl
    by_cases hrec : (f, n) ∈ o.recorded
    · have h0 : m.visits f n = 0 := by
        have := ho.prunes.not_mem hrec
        rwa [Memo.mem_expanded_iff, not_not] at this
      have h1 := List.count_eq_one_of_mem ho.prunes.nodup_recorded hrec
      rw [hv, h0, h1]
      simp [hrec]
    · have h0 := List.count_eq_zero_of_not_mem hrec
      rw [hv, h0]
      simp [hrec]
  · have hleaf := (ho.lists.body hb).leafNames_nodes
    refine ⟨hleaf, SelectionNode.tokens_eq_map fun f hf => ?_⟩
    rw [hleaf] at hf
    obtain ⟨ref, hf⟩ := exists_of_mem_leafMembers hf
    refine hnames x ?_ _ hf
    rcases Outline.mem_bodies.1 hb with ⟨rfl, -⟩ | ⟨g, he⟩
    · exact List.mem_cons_self ..
    · exact List.mem_cons_of_mem _ (List.mem_of_find?_eq_some (ho.lists.expansion he).1)

/-- With the friends of users on record, the walk goes through the team. -/
theorem opens_first_occurrences_roster :
    (∀ x ∈ Roster.user :: Roster.registry.types, ∀ p ∈ x.members, p.1 ≠ "") ∧
      (Roster.registry.synthesize Roster.user ⟨[("friends", "User")]⟩).result =
        .ok "name team \x7b lead \x7b name \x7d title \x7d" ∧
      ∃ o, Outlines Roster.registry Roster.user.members ⟨[("friends", "User")]⟩
          (Roster.registry.selectionTree Roster.user ⟨[("friends", "User")]⟩) o ∧
        Outline.OpensFirst [("friends", "User")] o.occurrences := by
  have hnames : ∀ x ∈ Roster.user :: Roster.registry.types, ∀ p ∈ x.members, p.1 ≠ "" := by decide
  have hrun : (Roster.registry.synthesize Roster.user ⟨[("friends", "User")]⟩).result =
      .ok "name team \x7b lead \x7b name \x7d title \x7d" := by decide
  obtain ⟨o, ho, -, -, -, -, hfirst, -⟩ := opens_first_occurrences hnames hrun
  exact ⟨hnames, hrun, o, ho, hfirst⟩

end Registry
end GraphCalls
