/-
Walks that share a memo.

Types are walked one after another, each from the memo that the one before it
left. While a walk is under way its memo has pairs whose bodies are not made
yet, but between walks it is at rest: the members of every type that was
walked or expanded are on record (`Rests`). So what is on record at the end is
what can be reached from the types that were walked, in whatever order they
came, and a type that was met before has nothing left to expand.
-/
import GraphCalls.Proofs.Schema.Failure

namespace GraphCalls

/-! ## Words of a text -/

/-- A word stands in a text if it has blanks or the ends of the text around it. -/
def StandsIn (word s : String) : Prop :=
  ∃ before after, s = before ++ word ++ after ∧ (before = "" ∨ ∃ lead, before = lead ++ " ") ∧
    (after = "" ∨ ∃ rest, after = " " ++ rest)

section
variable {word s s' : String}

theorem standsIn_self (word : String) : StandsIn word word := ⟨"", "", by simp, .inl rfl, .inl rfl⟩

theorem StandsIn.trans (h : StandsIn word s) (h' : StandsIn s s') : StandsIn word s' := by
  obtain ⟨before, after, rfl, hb, ha⟩ := h
  obtain ⟨before', after', rfl, hb', ha'⟩ := h'
  refine ⟨before' ++ before, after ++ after', by simp only [String.append_assoc], ?_, ?_⟩
  · rcases hb with rfl | ⟨lead, rfl⟩
    · simpa using hb'
    · exact .inr ⟨before' ++ lead, by simp only [String.append_assoc]⟩
  · rcases ha with rfl | ⟨rest, rfl⟩
    · simpa using ha'
    · exact .inr ⟨rest ++ after', by simp only [String.append_assoc]⟩

theorem standsIn_intercalate : ∀ {ts : List String}, word ∈ ts → StandsIn word (String.intercalate " " ts)
  | [t], h => by
    rw [List.mem_singleton] at h
    rw [String.intercalate_singleton, h]
    exact standsIn_self t
  | t :: u :: ts, h => by
    rw [String.intercalate_cons_cons]
    rcases List.mem_cons.1 h with rfl | h
    · exact ⟨"", " " ++ String.intercalate " " (u :: ts), by simp [String.append_assoc], .inl rfl, .inr ⟨_, rfl⟩⟩
    · exact (standsIn_intercalate h).trans ⟨t ++ " ", "", by simp, .inr ⟨t, rfl⟩, .inl rfl⟩

end

namespace SelectionNode

/-- A body shows a leaf if it is one of its nodes, or if a body inside does. -/
inductive Shows (f : String) : List SelectionNode → Prop
  | leaf {ns} (h : .leaf f ∈ ns) : Shows f ns
  | nested {g body ns} (h : .nested g body ∈ ns) (hbody : Shows f body) : Shows f ns

theorem Shows.mono {f : String} {ns ns' : List SelectionNode} (h : Shows f ns) (hsub : ns ⊆ ns') : Shows f ns' := by
  cases h with
  | leaf h => exact .leaf (hsub h)
  | nested h hbody => exact .nested (hsub h) hbody

/-- A leaf with a name that is shown stands in the text. -/
theorem Shows.standsIn {f : String} (hf : f ≠ "") {ns : List SelectionNode} (h : Shows f ns) :
    StandsIn f (bodyText ns) := by
  induction h with
  | leaf h => exact standsIn_intercalate (text_mem_tokens h hf)
  | @nested g body ns h _ ih =>
    have hbody : StandsIn (bodyText body) (text (.nested g body)) :=
      ⟨g ++ " \x7b ", " \x7d", rfl, .inr ⟨g ++ " \x7b", by rw [String.append_assoc]; rfl⟩, .inr ⟨"\x7d", rfl⟩⟩
    exact (ih.trans hbody).trans (standsIn_intercalate (text_mem_tokens h (text_nested_ne_empty g body)))

end SelectionNode

namespace Outline

variable {f : String} {t x : TypeDef} {o b : Outline}

theorem shows_of_expansion (h : SelectionNode.Shows f b.nodes) : ∀ {o : Outline} {g}, (g, x, b) ∈ o.expansions →
    SelectionNode.Shows f o.nodes
  | leaf _ rest, g, he => (shows_of_expansion (o := rest) h he).mono (List.subset_cons_self _ _)
  | dropped _ _ rest, g, he => shows_of_expansion (o := rest) h he
  | opened _ _ body rest, g, he => by
    simp only [expansions, List.mem_cons, List.mem_append] at he
    rcases he with he | he | he
    · cases he
      exact .nested (List.mem_cons_self ..) h
    · exact .nested (List.mem_cons_self ..) (shows_of_expansion h he)
    · exact (shows_of_expansion h he).mono (List.subset_cons_self _ _)

/-- The leaves of all emitted bodies are shown. -/
theorem shows_of_body (hb : (x, b) ∈ o.bodies t) (hf : f ∈ SelectionNode.leafNames b.nodes) :
    SelectionNode.Shows f o.nodes := by
  have hshows : SelectionNode.Shows f b.nodes := .leaf (SelectionNode.leaf_mem_of_mem_leafNames hf)
  rcases mem_bodies.1 hb with ⟨-, rfl⟩ | ⟨g, he⟩
  · exact hshows
  · exact shows_of_expansion hshows he

/-- Where all that needs a body was on record, an outline has the leaves and
nothing else. -/
theorem Lists.leaves {r : Registry} {ms o} (h : Lists r ms o) : ∀ {seen}, Prunes seen o →
    (∀ f ref y, (f, ref) ∈ ms → r.resolve ref = .ok y → r.classify y = .object → (f, y.name) ∈ seen) →
    o.expansions = [] ∧ o.nodes = (r.leafMembers ms).map .leaf := by
  induction h with
  | done => exact fun _ _ => ⟨rfl, rfl⟩
  | leaf hr hc _ ih =>
    intro seen hp hseen
    obtain ⟨he, hn⟩ := ih hp fun f ref y hm => hseen f ref y (List.mem_cons_of_mem _ hm)
    exact ⟨he, by simpa [nodes, Registry.leafMembers, hr, hc] using hn⟩
  | dropped hr hc _ ih =>
    intro seen hp hseen
    obtain ⟨he, hn⟩ := ih hp.2 fun f ref y hm => hseen f ref y (List.mem_cons_of_mem _ hm)
    exact ⟨he, by simpa [nodes, Registry.leafMembers, hr, hc] using hn⟩
  | opened hr hc _ _ _ _ =>
    intro seen hp hseen
    exact absurd (hseen _ _ _ (List.mem_cons_self ..) hr hc) hp.1

end Outline

namespace Registry

variable {r : Registry} {t x y : TypeDef} {ts : List TypeDef} {ss : List String} {m m' : Memo} {f : String}
  {w : Walk (List SelectionNode)} {o : Outline}
  {queryType : String} {mutationType subscriptionType : Option String} {types : List TypeDef}

theorem IsEdge.find? (h : r.IsEdge x f y) : r.find? y.name = some y := by
  obtain ⟨ref, -, hr, -⟩ := h
  exact find?_name_of_resolve hr

theorem find?_name_of_mem (hr : ofTypes queryType mutationType subscriptionType types = .ok r) (hx : x ∈ r.types) :
    r.find? x.name = some x := by
  obtain ⟨rfl, hnodup, -⟩ := ofTypes_eq_ok_iff.1 hr
  exact (find?_eq_some_iff_mem hnodup).2 ⟨hx, rfl⟩

/-- All edges are new to an empty memo. -/
theorem Reaches.of_empty (h : r.Reaches m t x) : r.Reaches .empty t x :=
  Relation.ReflTransGen.mono (fun _ _ ⟨f, he, _⟩ => ⟨f, he, rfl⟩) _ _ h

/-! ## A memo between walks -/

/-- Types are walked one after another with one memo, and every walk makes a
text. -/
inductive Walks (r : Registry) : Memo → List TypeDef → List String → Memo → Prop
  | nil (m : Memo) : Walks r m [] [] m
  | cons {m t ts s ss m'} (hs : (r.synthesize t m).result = .ok s) (h : Walks r (r.synthesize t m).memo ts ss m') :
      Walks r m (t :: ts) (s :: ss) m'

/-- All members of a type that need a body are on record. -/
def Settled (r : Registry) (m : Memo) (x : TypeDef) : Prop := ∀ f y, r.IsEdge x f y → (f, y.name) ∈ m.expanded

theorem Settled.mono (h : r.Settled m x) (hm : m.expanded ⊆ m'.expanded) : r.Settled m' x :=
  fun f y he => hm (h f y he)

/-- A memo is at rest after some types have been walked: they are settled, and
so is every type that was expanded, and no pair is on record but those that
can be reached, each once. -/
structure Rests (r : Registry) (ts : List TypeDef) (m : Memo) : Prop where
  walked : ∀ t ∈ ts, r.Settled m t
  expanded : ∀ f y, r.find? y.name = some y → (f, y.name) ∈ m.expanded → r.Settled m y
  reached : ∀ f n, (f, n) ∈ m.expanded → ∃ t ∈ ts, ∃ x y, r.Reaches .empty t x ∧ r.IsEdge x f y ∧ y.name = n
  nodup : m.expanded.Nodup

theorem rests_empty : r.Rests [] .empty where
  walked _ h := absurd h (List.not_mem_nil)
  expanded _ _ _ h := absurd h (List.not_mem_nil)
  reached _ _ h := absurd h (List.not_mem_nil)
  nodup := List.nodup_nil

/-- The type of a pair that an outline recorded has a body in it. -/
theorem exists_expansion_of_mem_recorded {ms} (hl : Outline.Lists r ms o) (hy : r.find? y.name = some y)
    (h : (f, y.name) ∈ o.recorded) : ∃ b, (f, y, b) ∈ o.expansions := by
  obtain ⟨x, b, he, hname⟩ := mem_recorded_iff.1 h
  have hx : r.find? x.name = some x := (hl.expansion he).1
  rw [hname, hy] at hx
  cases hx
  exact ⟨b, he⟩

/-- A walk that ends leaves its memo at rest again. -/
theorem Rests.walk (h : r.Rests ts m) (ho : Outlines r t.members m w o) : r.Rests (ts ++ [t]) w.memo := by
  have hold : m.expanded ⊆ w.memo.expanded := by
    rw [ho.memo]
    exact List.subset_append_left _ _
  have hbody : ∀ {x b}, (x, b) ∈ o.bodies t → r.Settled w.memo x := by
    intro x b hb f y he
    by_cases hm : (f, y.name) ∈ m.expanded
    · exact hold hm
    · obtain ⟨c, hc⟩ := expansion_of_isNewEdge ho hb (isNewEdge_iff.2 ⟨he, hm⟩)
      rw [ho.memo]
      exact List.mem_append_right _ (mem_recorded_iff.2 ⟨y, c, hc, rfl⟩)
  refine ⟨fun u hu => ?_, fun f y hy he => ?_, fun f n he => ?_, ?_⟩
  · rcases List.mem_append.1 hu with hu | hu
    · exact (h.walked u hu).mono hold
    · obtain rfl := List.mem_singleton.1 hu
      exact hbody (Outline.mem_bodies.2 (.inl ⟨rfl, rfl⟩))
  · rw [ho.memo, List.mem_append] at he
    rcases he with he | he
    · exact (h.expanded f y hy he).mono hold
    · obtain ⟨b, he⟩ := exists_expansion_of_mem_recorded ho.lists hy he
      exact hbody (Outline.mem_bodies.2 (.inr ⟨f, he⟩))
  · rw [ho.memo, List.mem_append] at he
    rcases he with he | he
    · obtain ⟨u, hu, hreached⟩ := h.reached f n he
      exact ⟨u, List.mem_append_left _ hu, hreached⟩
    · obtain ⟨x, y, hx, hy, hn⟩ := (mem_recorded_iff_reaches ho).1 he
      exact ⟨t, List.mem_append_right _ (List.mem_singleton_self t), x, y, hx.of_empty, hy.1, hn⟩
  · rw [ho.memo, List.nodup_append]
    exact ⟨h.nodup, ho.prunes.nodup_recorded, fun e he e' he' heq => ho.prunes.not_mem he' (heq ▸ he)⟩

theorem Walks.rests (h : r.Walks m ts ss m') : ∀ {before}, r.Rests before m → r.Rests (before ++ ts) m' := by
  induction h with
  | nil => exact fun hrest => by rwa [List.append_nil]
  | @cons m t ts s ss m' hs _ ih =>
    intro before hrest
    obtain ⟨o, ho, -⟩ := synthesize_outline hs
    have hmore := ih (hrest.walk ho)
    rwa [List.append_assoc, List.singleton_append] at hmore

/-- What can be reached from the types that were walked is settled. -/
theorem Rests.settled_of_reaches (h : r.Rests ts m) (ht : t ∈ ts) (hx : r.Reaches .empty t x) : r.Settled m x := by
  induction hx with
  | refl => exact h.walked t ht
  | tail _ he ih =>
    obtain ⟨f, he, -⟩ := he
    exact h.expanded f _ he.find? (ih f _ he)

/-- What is on record at rest is what can be reached. -/
theorem Rests.mem_iff (h : r.Rests ts m) {n : String} : (f, n) ∈ m.expanded ↔
    ∃ t ∈ ts, ∃ x y, r.Reaches .empty t x ∧ r.IsEdge x f y ∧ y.name = n := by
  refine ⟨h.reached f n, ?_⟩
  rintro ⟨t, ht, x, y, hx, he, rfl⟩
  exact h.settled_of_reaches ht hx f y he

theorem Rests.visits_le_one (h : r.Rests ts m) (f n : String) : m.visits f n ≤ 1 :=
  List.nodup_iff_count_le_one.1 h.nodup (f, n)

/-! ## The texts -/

/-- A walk of a type that is settled makes its leaves. -/
theorem synthesize_of_settled (hr : ofTypes queryType mutationType subscriptionType types = .ok r) (hx : x ∈ r.types)
    (hbare : ¬x.IsBare) (hnames : ∀ p ∈ x.members, p.1 ≠ "") (hsettled : r.Settled m x) :
    r.synthesize x m = ⟨.ok (String.intercalate " " (r.leafMembers x.members)), m⟩ := by
  obtain ⟨o, hl, hp⟩ := exists_outline hr hx m.expanded
  obtain ⟨w, hw, hrun⟩ := synthesize_follows hbare hl hp
  obtain ⟨hes, hnodes⟩ := hl.leaves hp fun f ref y hm hy hc => hsettled f y ⟨ref, hm, hy, hc⟩
  have htokens : SelectionNode.tokens o.nodes = o.nodes.map SelectionNode.text := by
    refine SelectionNode.tokens_eq_map fun f hf => ?_
    obtain ⟨ref, hm⟩ := exists_of_mem_leafMembers (hl.leafNames_nodes ▸ hf)
    exact hnames _ hm
  have htext : SelectionNode.bodyText o.nodes = String.intercalate " " (r.leafMembers x.members) := by
    change String.intercalate " " (SelectionNode.tokens o.nodes) = _
    rw [htokens, hnodes, List.map_map]
    exact congrArg _ (List.map_id _)
  rw [hrun]
  cases hw with
  | done _ => simp [Outline.recorded, hes, Except.map, htext]
  | stuck he => simp [hes] at he

/-- Texts are those of outlines, one for each walk, and the memo has what they
recorded. No body of theirs is for a type without members. -/
theorem Walks.exists_outlines (hr : ofTypes queryType mutationType subscriptionType types = .ok r)
    (h : r.Walks m ts ss m') : (∀ t ∈ ts, t ∈ r.types) →
    ∃ os : List Outline, List.Forall₂ (fun o t => Outline.Lists r t.members o ∧ ∀ x b, (x, b) ∈ o.bodies t → ¬x.IsBare)
        os ts ∧ ss = os.map (fun o => SelectionNode.bodyText o.nodes) ∧
      m'.expanded = m.expanded ++ os.flatMap Outline.recorded := by
  induction h with
  | nil m => exact fun _ => ⟨[], .nil, rfl, by simp⟩
  | @cons m t ts s ss m' hs _ ih =>
    intro hts
    obtain ⟨ht, hts⟩ := List.forall_mem_cons.1 hts
    obtain ⟨o, ho, rfl⟩ := synthesize_outline hs
    obtain ⟨os, hos, rfl, hm⟩ := ih hts
    have hbare : ∀ x b, (x, b) ∈ o.bodies t → ¬x.IsBare := by
      intro x b hb hbare
      obtain ⟨e, he⟩ := (exists_synthesize_error_iff hr ht).2
        ⟨x, (exists_body_iff_reaches ho.lists ho.prunes).1 ⟨b, hb⟩, hbare⟩
      cases hs.symm.trans he
    have hrecorded : (r.synthesize t m).memo.expanded = m.expanded ++ o.recorded := ho.memo
    exact ⟨o :: os, .cons ⟨ho.lists, hbare⟩ hos, rfl, by simp [hm, hrecorded]⟩

/-- Each type that can be reached has a body in one of the texts, and members. -/
theorem Walks.exists_body (hr : ofTypes queryType mutationType subscriptionType types = .ok r)
    (hts : ∀ t ∈ ts, t ∈ r.types) (h : r.Walks .empty ts ss m) (ht : t ∈ ts) (hx : r.Reaches .empty t x) :
    ¬x.IsBare ∧ ∃ u ∈ ts, ∃ o, SelectionNode.bodyText o.nodes ∈ ss ∧ Outline.Lists r u.members o ∧
      ∃ b, (x, b) ∈ o.bodies u := by
  obtain ⟨os, hos, rfl, hm⟩ := h.exists_outlines hr hts
  -- A type that was walked has the outermost body; any other is the type of a pair on record.
  have hfound : ∃ o ∈ os, ∃ u ∈ ts, (Outline.Lists r u.members o ∧ ∀ x b, (x, b) ∈ o.bodies u → ¬x.IsBare) ∧
      ∃ b, (x, b) ∈ o.bodies u := by
    rcases hx.cases_tail with rfl | ⟨y, hy, f, he, -⟩
    · obtain ⟨o, hmem, ho⟩ := exists_mem_of_forall₂ hos.flip ht
      exact ⟨o, hmem, x, ht, ho, o, Outline.mem_bodies.2 (.inl ⟨rfl, rfl⟩)⟩
    · have hrests : r.Rests ts m := h.rests rests_empty
      have hrecorded := hrests.settled_of_reaches ht hy f x he
      rw [hm, Memo.empty, List.nil_append] at hrecorded
      obtain ⟨o, hmem, hrecorded⟩ := List.mem_flatMap.1 hrecorded
      obtain ⟨u, hu, ho⟩ := exists_mem_of_forall₂ hos hmem
      obtain ⟨b, he⟩ := exists_expansion_of_mem_recorded ho.1 he.find? hrecorded
      exact ⟨o, hmem, u, hu, ho, b, Outline.mem_bodies.2 (.inr ⟨f, he⟩)⟩
  obtain ⟨o, hmem, u, hu, ⟨hl, hbare⟩, b, hb⟩ := hfound
  exact ⟨hbare x b hb, u, hu, o, List.mem_map_of_mem hmem, hl, b, hb⟩

/-- If nothing without members can be reached, types can be walked in turn. -/
theorem exists_walks (hr : ofTypes queryType mutationType subscriptionType types = .ok r) :
    ∀ {ts}, (∀ t ∈ ts, t ∈ r.types) → (∀ t ∈ ts, ∀ x, r.Reaches .empty t x → ¬x.IsBare) →
      ∀ m, ∃ ss m', r.Walks m ts ss m'
  | [], _, _, m => ⟨[], m, .nil m⟩
  | t :: ts, hts, hbare, m => by
    obtain ⟨ht, hts⟩ := List.forall_mem_cons.1 hts
    obtain ⟨hbare, hrest⟩ := List.forall_mem_cons.1 hbare
    have hok : ∃ s, (r.synthesize t m).result = .ok s := by
      cases hs : (r.synthesize t m).result with
      | ok s => exact ⟨s, rfl⟩
      | error e =>
        obtain ⟨x, hx, hx'⟩ := (exists_synthesize_error_iff hr ht).1 ⟨e, hs⟩
        exact absurd hx' (hbare x hx.of_empty)
    obtain ⟨s, hs⟩ := hok
    obtain ⟨ss, m', h⟩ := exists_walks hr hts hrest (r.synthesize t m).memo
    exact ⟨s :: ss, m', .cons hs h⟩

/-- **Walks that share a memo**, empty at first: at the end the pairs on record
are those that can be reached from one of the types, once each, and so they
are when the types come in another order, which succeeds as well. Every leaf
of every type that can be reached stands in one of the texts, where that type
has a body. Any type that was walked or expanded now makes its own leaves, in
order, and leaves the memo as it is. -/
theorem walks_record_union (hr : ofTypes queryType mutationType subscriptionType types = .ok r)
    (hnames : ∀ x ∈ r.types, ∀ p ∈ x.members, p.1 ≠ "") (hts : ∀ t ∈ ts, t ∈ r.types)
    (h : r.Walks .empty ts ss m) :
    (∀ f n, m.visits f n ≤ 1 ∧ (m.visits f n = 1 ↔
      ∃ t ∈ ts, ∃ x y, r.Reaches .empty t x ∧ r.IsEdge x f y ∧ y.name = n)) ∧
    (∀ ts', ts'.Perm ts → ∃ ss' m', r.Walks .empty ts' ss' m' ∧ ∀ f n, m'.visits f n = m.visits f n) ∧
    (∀ t ∈ ts, ∀ x, r.Reaches .empty t x → ∀ f ∈ r.leafMembers x.members,
      ∃ u ∈ ts, ∃ o, SelectionNode.bodyText o.nodes ∈ ss ∧ Outline.Lists r u.members o ∧
        (∃ b, (x, b) ∈ o.bodies u ∧ f ∈ SelectionNode.leafNames b.nodes) ∧
        StandsIn f (SelectionNode.bodyText o.nodes)) ∧
    ∀ x ∈ r.types, (x ∈ ts ∨ ∃ f, m.visits f x.name ≠ 0) →
      r.synthesize x m = ⟨.ok (String.intercalate " " (r.leafMembers x.members)), m⟩ := by
  have hrests : r.Rests ts m := h.rests rests_empty
  have hpairs : ∀ f n, m.visits f n = 1 ↔
      ∃ t ∈ ts, ∃ x y, r.Reaches .empty t x ∧ r.IsEdge x f y ∧ y.name = n := by
    intro f n
    rw [← hrests.mem_iff, Memo.mem_expanded_iff]
    have := hrests.visits_le_one f n
    omega
  refine ⟨fun f n => ⟨hrests.visits_le_one f n, hpairs f n⟩, fun ts' hperm => ?_, fun t ht x hx f hf => ?_,
    fun x hx hmet => ?_⟩
  · obtain ⟨ss', m', h'⟩ := exists_walks hr (fun t ht => hts t (hperm.subset ht))
      (fun t ht x hx => (h.exists_body hr hts (hperm.subset ht) hx).1) .empty
    have hrests' : r.Rests ts' m' := h'.rests rests_empty
    refine ⟨ss', m', h', fun f n => ?_⟩
    have hsame : (f, n) ∈ m'.expanded ↔ (f, n) ∈ m.expanded := by
      simp only [hrests.mem_iff, hrests'.mem_iff, hperm.mem_iff]
    rw [Memo.mem_expanded_iff, Memo.mem_expanded_iff] at hsame
    have := hrests.visits_le_one f n
    have := hrests'.visits_le_one f n
    omega
  · obtain ⟨-, u, hu, o, hs, hl, b, hb⟩ := h.exists_body hr hts ht hx
    have hleaf : f ∈ SelectionNode.leafNames b.nodes := by rwa [(hl.body hb).leafNames_nodes]
    have hname : f ≠ "" := by
      obtain ⟨ref, hm⟩ := exists_of_mem_leafMembers hf
      rcases hx.eq_or_object with rfl | ⟨hmem, -⟩
      · exact hnames x (hts x ht) _ hm
      · exact hnames x hmem _ hm
    exact ⟨u, hu, o, hs, hl, ⟨b, hb, hleaf⟩, (Outline.shows_of_body hb hleaf).standsIn hname⟩
  · rcases hmet with hmem | ⟨f, hv⟩
    · have hbare := (h.exists_body hr hts hmem .refl).1
      exact synthesize_of_settled hr hx hbare (hnames x hx) (hrests.walked x hmem)
    · have hrecorded : (f, x.name) ∈ m.expanded := (m.mem_expanded_iff f x.name).2 hv
      obtain ⟨t, ht, z, y, hz, he, hname⟩ := hrests.reached f x.name hrecorded
      -- A name stands for one type, so what was expanded is this type.
      have hxy : r.find? x.name = some y := hname ▸ he.find?
      obtain rfl := Option.some.inj ((find?_name_of_mem hr hx).symm.trans hxy)
      have hbare := (h.exists_body hr hts ht (hz.tail ⟨f, he, rfl⟩)).1
      exact synthesize_of_settled hr hx hbare (hnames x hx) (hrests.expanded f x he.find? hrecorded)

/-- Teams lead to users, who lead back. Users are never walked by themselves. -/
theorem walks_record_union_roster :
    ofTypes "Query" none none Roster.registry.types = .ok Roster.registry ∧
      (∀ x ∈ Roster.registry.types, ∀ p ∈ x.members, p.1 ≠ "") ∧
      (∀ t ∈ [Roster.team, Roster.query], t ∈ Roster.registry.types) ∧
      ∃ m, Roster.registry.Walks .empty [Roster.team, Roster.query]
          ["lead \x7b name friends \x7b name team \x7b title \x7d \x7d \x7d title", "me \x7b name \x7d"] m ∧
        m.expanded = [("lead", "User"), ("friends", "User"), ("team", "Team"), ("me", "User")] ∧
        (∃ ss m', Roster.registry.Walks .empty [Roster.query, Roster.team] ss m' ∧
          ∀ f n, m'.visits f n = m.visits f n) ∧
        Roster.registry.synthesize Roster.user m = ⟨.ok "name", m⟩ := by
  have hr : ofTypes "Query" none none Roster.registry.types = .ok Roster.registry := by decide
  have hnames : ∀ x ∈ Roster.registry.types, ∀ p ∈ x.members, p.1 ≠ "" := by decide
  have hts : ∀ t ∈ [Roster.team, Roster.query], t ∈ Roster.registry.types := by decide
  have hwalks : Roster.registry.Walks .empty [Roster.team, Roster.query]
      ["lead \x7b name friends \x7b name team \x7b title \x7d \x7d \x7d title", "me \x7b name \x7d"] _ :=
    .cons (by decide) (.cons (by decide) (.nil _))
  obtain ⟨-, horder, -, hagain⟩ := walks_record_union hr hnames hts hwalks
  exact ⟨hr, hnames, hts, _, hwalks, by decide, horder _ (.swap ..),
    hagain Roster.user (by decide) (.inr ⟨"lead", by decide⟩)⟩

end Registry
end GraphCalls
