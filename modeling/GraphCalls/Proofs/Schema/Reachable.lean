/-
What the memo holds after a walk: what it held before, and every pair that a
chain of new pairs leads to (`memo_holds_reachable`).

A walk drops a member whose pair is on record, also while that pair's own body
is still being made. The closure that carries the proof is read off the
finished outline: each object-like member of an emitted body was on record
before the walk, or is expanded somewhere in the outline
(`Outline.Prunes.mem_of_occurs`), so a chain of new pairs can be followed from
one emitted body to the next.
-/
import GraphCalls.Proofs.Schema.Depth
import Mathlib.Logic.Relation

namespace GraphCalls
namespace Registry

variable {r : Registry} {t x y : TypeDef} {m : Memo} {f : String}

/-- A member of `x` that comes down to the object-like type `y`. -/
def IsEdge (r : Registry) (x : TypeDef) (f : String) (y : TypeDef) : Prop :=
  ∃ ref, (f, ref) ∈ x.members ∧ r.resolve ref = .ok y ∧ r.classify y = .object

/-- An edge whose pair is not in the memo. -/
def IsNewEdge (r : Registry) (m : Memo) (x : TypeDef) (f : String) (y : TypeDef) : Prop :=
  r.IsEdge x f y ∧ m.visits f y.name = 0

/-- Chains of new edges lead from a type to another, or to itself. -/
def Reaches (r : Registry) (m : Memo) : TypeDef → TypeDef → Prop :=
  Relation.ReflTransGen fun x y => ∃ f, r.IsNewEdge m x f y

theorem isNewEdge_iff : r.IsNewEdge m x f y ↔ r.IsEdge x f y ∧ (f, y.name) ∉ m.expanded := by
  simp [IsNewEdge, Memo.mem_expanded_iff]

/-- What an outline expands is reached from the type whose members it lists. -/
theorem reaches_of_expansion {ms o} (h : Outline.Lists r ms o) :
    ∀ {t}, (∀ p ∈ ms, p ∈ t.members) → (∀ e ∈ o.recorded, e ∉ m.expanded) →
      ∀ {f x b}, (f, x, b) ∈ o.expansions → ∃ z, r.Reaches m t z ∧ r.IsNewEdge m z f x := by
  induction h with
  | done => intro t _ _ f x b he; simp [Outline.expansions] at he
  | leaf _ _ _ ih =>
    intro t hms hm f x b he
    exact ih (fun p hp => hms p (List.mem_cons_of_mem _ hp)) hm he
  | dropped _ _ _ ih =>
    intro t hms hm f x b he
    exact ih (fun p hp => hms p (List.mem_cons_of_mem _ hp)) hm he
  | @opened g ref u ms body rest hr hc hb _ ihb ih =>
    intro t hms hm f x b he
    simp only [Outline.recorded_opened, List.mem_cons, List.mem_append] at hm
    have hnew : r.IsNewEdge m t g u :=
      isNewEdge_iff.2 ⟨⟨ref, hms _ (by simp), hr, hc⟩, hm _ (.inl rfl)⟩
    simp only [Outline.expansions, List.mem_cons, List.mem_append] at he
    rcases he with he | he | he
    · cases he
      exact ⟨t, .refl, hnew⟩
    · obtain ⟨z, hz, hx⟩ := ihb (fun p hp => hp) (fun e he => hm e (.inr (.inl he))) he
      exact ⟨z, hz.head ⟨g, hnew⟩, hx⟩
    · exact ih (fun p hp => hms p (List.mem_cons_of_mem _ hp)) (fun e he => hm e (.inr (.inr he))) he

variable {w : Walk (List SelectionNode)} {o : Outline}

theorem mem_recorded_iff {n : String} :
    (f, n) ∈ o.recorded ↔ ∃ x b, (f, x, b) ∈ o.expansions ∧ x.name = n := by
  simp only [Outline.recorded, List.mem_map, Prod.exists, Prod.mk.injEq]
  constructor
  · rintro ⟨g, x, b, he, rfl, rfl⟩
    exact ⟨x, b, he, rfl⟩
  · rintro ⟨x, b, he, rfl⟩
    exact ⟨f, x, b, he, rfl, rfl⟩

/-- A new edge out of an emitted body is expanded somewhere. -/
theorem expansion_of_isNewEdge (ho : Outlines r t.members m w o) {b} (hb : (x, b) ∈ o.bodies t)
    (he : r.IsNewEdge m x f y) : ∃ c, (f, y, c) ∈ o.expansions := by
  obtain ⟨⟨ref, hm, hr, hc⟩, hn⟩ := isNewEdge_iff.1 he
  have hocc : (f, y.name) ∈ o.occurrences.map Prod.fst := by
    refine List.map_subset _ ?_ ((ho.lists.body hb).occurrence_mem hm hr hc)
    rcases Outline.mem_bodies.1 hb with ⟨-, rfl⟩ | ⟨g, hexp⟩
    · exact List.Subset.refl _
    · exact Outline.occurrences_subset_of_expansion hexp
  have hrec : (f, y.name) ∈ o.recorded :=
    (List.mem_append.1 (ho.prunes.mem_of_occurs hocc)).resolve_left hn
  obtain ⟨y', c, hexp, hname⟩ := mem_recorded_iff.1 hrec
  -- A name stands for one type, so the expanded type is the one of the edge.
  have hy : r.find? y'.name = some y' := (ho.lists.expansion hexp).1
  rw [hname, find?_name_of_resolve hr] at hy
  cases hy
  exact ⟨c, hexp⟩

/-- Every type that is reached has a body of its own in the outline. -/
theorem body_of_reaches (ho : Outlines r t.members m w o) (h : r.Reaches m t x) :
    ∃ b, (x, b) ∈ o.bodies t := by
  induction h with
  | refl => exact ⟨o, Outline.mem_bodies.2 (.inl ⟨rfl, rfl⟩)⟩
  | tail _ he ih =>
    obtain ⟨b, hb⟩ := ih
    obtain ⟨f, he⟩ := he
    obtain ⟨c, hc⟩ := expansion_of_isNewEdge ho hb he
    exact ⟨c, Outline.mem_bodies.2 (.inr ⟨f, hc⟩)⟩

/-- What a walk records is what chains of new edges lead to. -/
theorem mem_recorded_iff_reaches (ho : Outlines r t.members m w o) {n : String} :
    (f, n) ∈ o.recorded ↔ ∃ x y, r.Reaches m t x ∧ r.IsNewEdge m x f y ∧ y.name = n := by
  rw [mem_recorded_iff]
  constructor
  · rintro ⟨y, b, he, hn⟩
    obtain ⟨x, hx, hy⟩ := reaches_of_expansion ho.lists (fun p hp => hp) (fun e => ho.prunes.not_mem) he
    exact ⟨x, y, hx, hy, hn⟩
  · rintro ⟨x, y, hx, hy, hn⟩
    obtain ⟨b, hb⟩ := body_of_reaches ho hx
    obtain ⟨c, hc⟩ := expansion_of_isNewEdge ho hb hy
    exact ⟨y, c, hc, hn⟩

/-- **The memo after a walk from `t`** holds what it held before and the pairs
that chains of new edges from `t` lead to, and nothing else. Each leaf with a
name of each type that such chains reach stands bare in a body that was
emitted for that type; all edges are new to an empty memo. -/
theorem memo_holds_reachable {s : String} (h : (r.synthesize t m).result = .ok s) :
    (∀ f n, 1 ≤ (r.synthesize t m).memo.visits f n ↔
      1 ≤ m.visits f n ∨ ∃ x y, r.Reaches m t x ∧ r.IsNewEdge m x f y ∧ y.name = n) ∧
    ∃ o, Outlines r t.members m (r.selectionTree t m) o ∧ s = SelectionNode.bodyText o.nodes ∧
      ∀ x, r.Reaches m t x → ∀ f ∈ r.leafMembers x.members, f ≠ "" → ∃ b, (x, b) ∈ o.bodies t ∧
        f ∈ SelectionNode.leafNames b.nodes ∧ f ∈ SelectionNode.tokens b.nodes := by
  obtain ⟨o, ho, hs⟩ := synthesize_outline h
  refine ⟨fun f n => ?_, o, ho, hs, fun x hx f hf hne => ?_⟩
  · have hm : (r.synthesize t m).memo.expanded = m.expanded ++ o.recorded := ho.memo
    simp only [Nat.one_le_iff_ne_zero, ← Memo.mem_expanded_iff, hm, List.mem_append,
      mem_recorded_iff_reaches ho]
  · obtain ⟨b, hb⟩ := body_of_reaches ho hx
    have hleaf : f ∈ SelectionNode.leafNames b.nodes := by
      rw [(ho.lists.body hb).leafNames_nodes]; exact hf
    exact ⟨b, hb, hleaf,
      SelectionNode.text_mem_tokens (SelectionNode.leaf_mem_of_mem_leafNames hleaf) hne⟩

/-- A user's team is met inside the body of the user's friends, and its lead
is recorded while that body is still open. -/
theorem memo_holds_reachable_roster :
    (Roster.registry.synthesize Roster.user .empty).result =
        .ok "name friends \x7b name team \x7b lead \x7b name \x7d title \x7d \x7d" ∧
      1 ≤ (Roster.registry.synthesize Roster.user .empty).memo.visits "lead" "User" := by
  have hteam : Roster.registry.IsNewEdge .empty Roster.user "team" Roster.team :=
    ⟨⟨.named .object "Team", by decide, rfl, rfl⟩, rfl⟩
  have hlead : Roster.registry.IsNewEdge .empty Roster.team "lead" Roster.user :=
    ⟨⟨.named .object "User", by decide, rfl, rfl⟩, rfl⟩
  have hrun : (Roster.registry.synthesize Roster.user .empty).result =
      .ok "name friends \x7b name team \x7b lead \x7b name \x7d title \x7d \x7d" := by decide
  exact ⟨hrun, ((memo_holds_reachable hrun).1 "lead" "User").2
    (.inr ⟨Roster.team, Roster.user, .single ⟨"team", hteam⟩, hlead, rfl⟩)⟩

end Registry
end GraphCalls
