/-
Outlines: what a walk met, members that it dropped included.

The tree that a walk makes shows neither the members that were dropped nor
the types that the bodies were made for. Its outline shows both, and since the
memo only ever grows by what was expanded, the outline also gives the memo
after the walk: `expand_outline` says so of every walk that succeeds.
-/
import GraphCalls.Schema.Synthesis

namespace GraphCalls

/-- The members that a selection draws from; none if there is no list. -/
def TypeDef.members (t : TypeDef) : List (String × TypeRef) := t.members?.getD []

namespace SelectionNode

/-- The fields that stand in a body without bodies of their own. -/
def leafNames : List SelectionNode → List String
  | [] => []
  | .leaf f :: ns => f :: leafNames ns
  | .nested _ _ :: ns => leafNames ns

/-- The texts that a body puts between blanks. -/
def tokens (ns : List SelectionNode) : List String := (text.texts ns).filter (!·.isEmpty)

theorem texts_eq_map : ∀ ns : List SelectionNode, text.texts ns = ns.map text
  | [] => rfl
  | n :: ns => by rw [text.texts, texts_eq_map ns, List.map_cons]

theorem leaf_mem_of_mem_leafNames {f : String} : ∀ {ns : List SelectionNode}, f ∈ leafNames ns → .leaf f ∈ ns
  | .leaf g :: ns, h => by
    rcases List.mem_cons.1 h with rfl | h
    · exact List.mem_cons_self ..
    · exact List.mem_cons_of_mem _ (leaf_mem_of_mem_leafNames h)
  | .nested _ _ :: ns, h => by
    rw [leafNames] at h
    exact List.mem_cons_of_mem _ (leaf_mem_of_mem_leafNames h)

/-- A node with a text shows it. -/
theorem text_mem_tokens {n : SelectionNode} {ns : List SelectionNode} (hn : n ∈ ns) (ht : n.text ≠ "") :
    n.text ∈ tokens ns := by
  simp only [tokens, texts_eq_map, List.mem_filter, List.mem_map]
  exact ⟨⟨n, hn, rfl⟩, by simpa using ht⟩

end SelectionNode

namespace Registry

variable {r : Registry} {ref : TypeRef} {t : TypeDef}

theorem resolve_ok_iff : r.resolve ref = .ok t ↔ r.find? ref.name = some t := by
  unfold resolve get
  split <;> simp_all

/-- The members that come down to leaves, in order. -/
def leafMembers (r : Registry) (ms : List (String × TypeRef)) : List String :=
  ms.filterMap fun (f, ref) =>
    match r.resolve ref with
    | .ok t => if r.classify t = .object then none else some f
    | .error _ => none

theorem mem_types_of_resolve (h : r.resolve ref = .ok t) : t ∈ r.types :=
  List.mem_of_find?_eq_some (resolve_ok_iff.1 h)

/-- A type that is come down to is the one of its name. -/
theorem find?_name_of_resolve (h : r.resolve ref = .ok t) : r.find? t.name = some t := by
  have hf := resolve_ok_iff.1 h
  have hn : t.name = ref.name := by simpa using List.find?_some hf
  rw [hn]; exact hf

end Registry

/-- The members of a body, in order, with what became of each. -/
inductive Outline where
  | done
  | leaf (name : String) (rest : Outline)
  | dropped (name : String) (type : TypeDef) (rest : Outline)
  | opened (name : String) (type : TypeDef) (body rest : Outline)

namespace Outline

/-- The tree that is emitted: all but the dropped members. -/
def nodes : Outline → List SelectionNode
  | done => []
  | leaf f rest => .leaf f :: rest.nodes
  | dropped _ _ rest => rest.nodes
  | opened f _ body rest => .nested f body.nodes :: rest.nodes

/-- The expanded members of the whole outline, in document order, with the
types they come down to and their bodies. -/
def expansions : Outline → List (String × TypeDef × Outline)
  | done => []
  | leaf _ rest => rest.expansions
  | dropped _ _ rest => rest.expansions
  | opened f t body rest => (f, t, body) :: (body.expansions ++ rest.expansions)

/-- The pairs that were expanded, in document order. -/
def recorded (o : Outline) : List Expansion := o.expansions.map fun e => (e.1, e.2.1.name)

/-- The object-like members of all emitted bodies, in document order, each
with whether it was expanded. -/
def occurrences : Outline → List (Expansion × Bool)
  | done => []
  | leaf _ rest => rest.occurrences
  | dropped f t rest => ((f, t.name), false) :: rest.occurrences
  | opened f t body rest => ((f, t.name), true) :: (body.occurrences ++ rest.occurrences)

/-- The emitted bodies with the types they were made for, the outermost one
first. -/
def bodies (t : TypeDef) (o : Outline) : List (TypeDef × Outline) :=
  (t, o) :: o.expansions.map Prod.snd

@[simp] theorem recorded_done : done.recorded = [] := rfl

@[simp] theorem recorded_leaf (f rest) : (leaf f rest).recorded = rest.recorded := rfl

@[simp] theorem recorded_dropped (f t rest) : (dropped f t rest).recorded = rest.recorded := rfl

@[simp] theorem recorded_opened (f t body rest) :
    (opened f t body rest).recorded = (f, t.name) :: (body.recorded ++ rest.recorded) := by
  simp [recorded, expansions]

/-- The outline has one entry for each member, in order, and says of each
what it comes down to; an expanded member's body does so for its type. -/
inductive Lists (r : Registry) : List (String × TypeRef) → Outline → Prop
  | done : Lists r [] done
  | leaf {f ref t ms o} (hr : r.resolve ref = .ok t) (hc : r.classify t ≠ .object)
      (h : Lists r ms o) : Lists r ((f, ref) :: ms) (leaf f o)
  | dropped {f ref t ms o} (hr : r.resolve ref = .ok t) (hc : r.classify t = .object)
      (h : Lists r ms o) : Lists r ((f, ref) :: ms) (dropped f t o)
  | opened {f ref t ms b o} (hr : r.resolve ref = .ok t) (hc : r.classify t = .object)
      (hb : Lists r t.members b) (h : Lists r ms o) : Lists r ((f, ref) :: ms) (opened f t b o)

/-- Members are dropped exactly if their pair was recorded before: in `seen`,
or on the way to them. -/
def Prunes : (seen : List Expansion) → Outline → Prop
  | _, done => True
  | seen, leaf _ rest => rest.Prunes seen
  | seen, dropped f t rest => (f, t.name) ∈ seen ∧ rest.Prunes seen
  | seen, opened f t body rest =>
    (f, t.name) ∉ seen ∧ body.Prunes (seen ++ [(f, t.name)]) ∧
      rest.Prunes (seen ++ (f, t.name) :: body.recorded)

/-- The leaves of a body are the members that come down to leaves, in order. -/
theorem Lists.leafNames_nodes {r : Registry} {ms o} (h : Lists r ms o) :
    SelectionNode.leafNames o.nodes = r.leafMembers ms := by
  induction h with
  | done => rfl
  | leaf hr hc _ ih => simpa [nodes, SelectionNode.leafNames, Registry.leafMembers, hr, hc] using ih
  | dropped hr hc _ ih => simpa [nodes, Registry.leafMembers, hr, hc] using ih
  | opened hr hc _ _ _ ih =>
    simpa [nodes, SelectionNode.leafNames, Registry.leafMembers, hr, hc] using ih

/-- Every object-like member occurs, whatever became of it. -/
theorem Lists.occurrence_mem {r : Registry} {ms o f ref t} (h : Lists r ms o) (hm : (f, ref) ∈ ms)
    (hr : r.resolve ref = .ok t) (hc : r.classify t = .object) :
    (f, t.name) ∈ o.occurrences.map Prod.fst := by
  induction h with
  | done => simp at hm
  | leaf hr' hc' _ ih =>
    simp only [List.mem_cons, Prod.mk.injEq] at hm
    rcases hm with ⟨rfl, rfl⟩ | hm
    · cases hr.symm.trans hr'
      exact absurd hc hc'
    · exact ih hm
  | dropped hr' _ _ ih =>
    simp only [List.mem_cons, Prod.mk.injEq] at hm
    rcases hm with ⟨rfl, rfl⟩ | hm
    · cases hr.symm.trans hr'
      simp [occurrences]
    · exact List.mem_cons_of_mem _ (ih hm)
  | opened hr' _ _ _ _ ih =>
    simp only [List.mem_cons, Prod.mk.injEq] at hm
    rcases hm with ⟨rfl, rfl⟩ | hm
    · cases hr.symm.trans hr'
      simp [occurrences]
    · simp only [occurrences, List.map_cons, List.map_append, List.mem_cons, List.mem_append]
      exact .inr (.inr (ih hm))

/-- What an expanded member comes down to, and what its body lists. -/
theorem Lists.expansion {r : Registry} {ms o f t b} (h : Lists r ms o) (he : (f, t, b) ∈ o.expansions) :
    r.find? t.name = some t ∧ r.classify t = .object ∧ Lists r t.members b := by
  induction h with
  | done => simp [expansions] at he
  | leaf _ _ _ ih => exact ih he
  | dropped _ _ _ ih => exact ih he
  | opened hr hc hb _ ihb ih =>
    simp only [expansions, List.mem_cons, List.mem_append] at he
    rcases he with he | he | he
    · cases he
      exact ⟨Registry.find?_name_of_resolve hr, hc, hb⟩
    · exact ihb he
    · exact ih he

theorem mem_bodies {t x : TypeDef} {o b : Outline} :
    (x, b) ∈ o.bodies t ↔ (x = t ∧ b = o) ∨ ∃ f, (f, x, b) ∈ o.expansions := by
  simp [bodies]

/-- Every emitted body lists the members of its type. -/
theorem Lists.body {r : Registry} {t x : TypeDef} {o b : Outline} (h : Lists r t.members o)
    (hb : (x, b) ∈ o.bodies t) : Lists r x.members b := by
  rcases mem_bodies.1 hb with ⟨rfl, rfl⟩ | ⟨f, he⟩
  · exact h
  · exact (h.expansion he).2.2

theorem occurrences_subset_of_expansion {f t b} : ∀ {o : Outline}, (f, t, b) ∈ o.expansions →
    b.occurrences ⊆ o.occurrences
  | done, he => by simp [expansions] at he
  | leaf _ rest, he => occurrences_subset_of_expansion (o := rest) he
  | dropped _ _ rest, he =>
    List.Subset.trans (occurrences_subset_of_expansion (o := rest) he) (List.subset_cons_self _ _)
  | opened _ _ body rest, he => by
    intro x hx
    simp only [expansions, List.mem_cons, List.mem_append] at he
    simp only [occurrences, List.mem_cons, List.mem_append]
    rcases he with he | he | he
    · cases he
      exact .inr (.inl hx)
    · exact .inr (.inl (occurrences_subset_of_expansion he hx))
    · exact .inr (.inr (occurrences_subset_of_expansion he hx))

/-- Nothing is recorded twice. -/
theorem Prunes.not_mem {e : Expansion} : ∀ {seen o}, Prunes seen o → e ∈ o.recorded → e ∉ seen
  | _, done, _, he => by simp at he
  | _, leaf _ rest, h, he => Prunes.not_mem (o := rest) h he
  | _, dropped _ _ rest, h, he => Prunes.not_mem (o := rest) h.2 he
  | seen, opened f t body rest, h, he => by
    obtain ⟨hn, hb, hr⟩ := h
    simp only [recorded_opened, List.mem_cons, List.mem_append] at he
    rcases he with rfl | he | he
    · exact hn
    · exact fun hs => Prunes.not_mem hb he (List.mem_append_left _ hs)
    · exact fun hs => Prunes.not_mem hr he (List.mem_append_left _ hs)

/-- A pair that occurs was recorded before or is recorded on the way: nothing
that is dropped is lost. -/
theorem Prunes.mem_of_occurs {e : Expansion} : ∀ {seen o}, Prunes seen o →
    e ∈ o.occurrences.map Prod.fst → e ∈ seen ++ o.recorded
  | _, done, _, he => by simp [occurrences] at he
  | _, leaf _ rest, h, he => Prunes.mem_of_occurs (o := rest) h he
  | seen, dropped f t rest, h, he => by
    simp only [occurrences, List.map_cons, List.mem_cons] at he
    rcases he with rfl | he
    · exact List.mem_append_left _ h.1
    · exact Prunes.mem_of_occurs (o := rest) h.2 he
  | seen, opened f t body rest, h, he => by
    obtain ⟨_, hb, hr⟩ := h
    simp only [occurrences, List.map_cons, List.map_append, List.mem_cons, List.mem_append] at he
    simp only [recorded_opened, List.mem_append, List.mem_cons]
    rcases he with rfl | he | he
    · exact .inr (.inl rfl)
    · have := Prunes.mem_of_occurs hb he
      simp only [List.mem_append, List.mem_singleton] at this
      rcases this with (h | h) | h
      · exact .inl h
      · exact .inr (.inl h)
      · exact .inr (.inr (.inl h))
    · have := Prunes.mem_of_occurs hr he
      simp only [List.mem_append, List.mem_cons] at this
      rcases this with (h | h | h) | h
      · exact .inl h
      · exact .inr (.inl h)
      · exact .inr (.inr (.inl h))
      · exact .inr (.inr (.inr h))

end Outline

/-- An outline of a walk over members: it accounts for every node that the
walk made and for every pair that it recorded. -/
structure Outlines (r : Registry) (ms : List (String × TypeRef)) (m : Memo)
    (w : Walk (List SelectionNode)) (o : Outline) : Prop where
  lists : o.Lists r ms
  prunes : o.Prunes m.expanded
  result : w.result = .ok o.nodes
  memo : w.memo.expanded = m.expanded ++ o.recorded

theorem Memo.mem_expanded_iff (m : Memo) (f n : String) :
    (f, n) ∈ m.expanded ↔ m.visits f n ≠ 0 := by
  rw [Memo.visits, ← Nat.pos_iff_ne_zero, List.count_pos_iff]

namespace Registry

variable {r : Registry} {deeper : TypeDef → Memo → Option (Walk (List SelectionNode))}

/-- A walk over a member and more succeeds in three ways: the member is a
leaf, it is dropped, or it is expanded. -/
theorem expandMembers_cons_ok {f ref ms m ns m'}
    (h : r.expandMembers deeper ((f, ref) :: ms) m = some ⟨.ok ns, m'⟩) :
    ∃ t, r.resolve ref = .ok t ∧
      ((r.classify t ≠ .object ∧ ∃ ns', r.expandMembers deeper ms m = some ⟨.ok ns', m'⟩ ∧
          ns = .leaf f :: ns') ∨
        (r.classify t = .object ∧ (f, t.name) ∈ m.expanded ∧
          r.expandMembers deeper ms m = some ⟨.ok ns, m'⟩) ∨
        (r.classify t = .object ∧ (f, t.name) ∉ m.expanded ∧ ∃ body m₁ ns',
          deeper t (m.record (f, t.name)) = some ⟨.ok body, m₁⟩ ∧
          r.expandMembers deeper ms m₁ = some ⟨.ok ns', m'⟩ ∧ ns = .nested f body :: ns')) := by
  -- A success of the rest with one more node is a success of the rest.
  have more : ∀ {m n}, (r.expandMembers deeper ms m).map
        (fun w => { w with result := w.result.map (n :: ·) }) = some ⟨.ok ns, m'⟩ →
      ∃ ns', r.expandMembers deeper ms m = some ⟨.ok ns', m'⟩ ∧ ns = n :: ns' := by
    intro m n h
    obtain ⟨⟨res, m₂⟩, hw, he⟩ := Option.map_eq_some_iff.1 h
    cases res with
    | error e => simp [Except.map] at he
    | ok ns' =>
      simp only [Except.map, Walk.mk.injEq, Except.ok.injEq] at he
      obtain ⟨rfl, rfl⟩ := he
      exact ⟨ns', hw, rfl⟩
  simp only [expandMembers] at h
  split at h
  · simp at h
  next t ht =>
  refine ⟨t, ht, ?_⟩
  split at h
  next hc =>
    split at h
    next hv =>
      have hn : (f, t.name) ∉ m.expanded := by simp [Memo.mem_expanded_iff, hv]
      split at h
      · simp at h
      · simp at h
      next body m₁ hd =>
        obtain ⟨ns', hrest, hns⟩ := more h
        exact .inr (.inr ⟨hc, hn, body, m₁, ns', hd, hrest, hns⟩)
    next hv => exact .inr (.inl ⟨hc, (m.mem_expanded_iff f t.name).2 hv, h⟩)
  next hc => exact .inl ⟨hc, more h⟩

theorem expandMembers_outline
    (hd : ∀ {t m ns m'}, deeper t m = some ⟨.ok ns, m'⟩ → ∃ o, Outlines r t.members m ⟨.ok ns, m'⟩ o) :
    ∀ {ms m ns m'}, r.expandMembers deeper ms m = some ⟨.ok ns, m'⟩ →
      ∃ o, Outlines r ms m ⟨.ok ns, m'⟩ o := by
  intro ms
  induction ms with
  | nil =>
    intro m ns m' h
    simp only [expandMembers, Option.some.injEq, Walk.mk.injEq, Except.ok.injEq] at h
    obtain ⟨rfl, rfl⟩ := h
    exact ⟨.done, .done, trivial, rfl, by simp⟩
  | cons member ms ih =>
    intro m ns m' h
    obtain ⟨f, ref⟩ := member
    obtain ⟨t, hr, ⟨hc, ns', hrest, rfl⟩ | ⟨hc, hm, hrest⟩ | ⟨hc, hm, body, m₁, ns', hbody, hrest, rfl⟩⟩ :=
      expandMembers_cons_ok h
    · obtain ⟨o, ho⟩ := ih hrest
      obtain rfl := Except.ok.inj ho.result
      exact ⟨.leaf f o, .leaf hr hc ho.lists, ho.prunes, rfl, ho.memo⟩
    · obtain ⟨o, ho⟩ := ih hrest
      exact ⟨.dropped f t o, .dropped hr hc ho.lists, ⟨hm, ho.prunes⟩, ho.result, ho.memo⟩
    · obtain ⟨b, hb⟩ := hd hbody
      obtain rfl := Except.ok.inj hb.result
      obtain ⟨o, ho⟩ := ih hrest
      obtain rfl := Except.ok.inj ho.result
      have hbody : m₁.expanded = (m.expanded ++ [(f, t.name)]) ++ b.recorded := hb.memo
      have hrest : m'.expanded = m₁.expanded ++ o.recorded := ho.memo
      rw [List.append_assoc, List.singleton_append] at hbody
      refine ⟨.opened f t b o, .opened hr hc hb.lists ho.lists, ⟨hm, hb.prunes, ?_⟩, rfl, ?_⟩
      · rw [← hbody]; exact ho.prunes
      · simp [hrest, hbody]

/-- Every walk that succeeds has an outline. -/
theorem expand_outline : ∀ {depth t m ns m'}, r.expand depth t m = some ⟨.ok ns, m'⟩ →
    ∃ o, Outlines r t.members m ⟨.ok ns, m'⟩ o
  | 0, t, m, ns, m', h => by simp [expand] at h
  | depth + 1, t, m, ns, m', h => by
    simp only [expand] at h
    split at h
    · simp at h
    next ms hms =>
    have ht : t.members = ms := by simp [TypeDef.members, hms]
    rw [ht]
    exact expandMembers_outline expand_outline h

end Registry

/-! ## An example -/

namespace Roster

def field (name : String) (type : TypeRef) : FieldDef := ⟨name, none, [], type, false, none⟩

def object (name : String) (fields : List FieldDef) : TypeDef :=
  ⟨.object, name, none, some fields, none, none⟩

def text : TypeDef := ⟨.scalar, "String", none, none, none, none⟩

/-- Users lead to users directly and through their teams. -/
def user : TypeDef := object "User"
  [field "name" (.named .scalar "String"), field "friends" (.list (.named .object "User")),
    field "team" (.named .object "Team")]

def team : TypeDef := object "Team"
  [field "lead" (.named .object "User"), field "title" (.named .scalar "String")]

def query : TypeDef := object "Query" [field "me" (.named .object "User")]

def registry : Registry := ⟨[query, user, team, text], "Query", none, none⟩

end Roster
end GraphCalls
