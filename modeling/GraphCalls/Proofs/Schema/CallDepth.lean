/-
How deep the calls of a walk nest.

A walk calls itself for the body of each member that it expands. `Runs` says
what such calls come to and how deep they nest, with nothing to bound them:
its derivations are finite, so a walk that has one ends. Each walk has exactly
one, and since every call but the outermost was made for a pair that had not
been recorded, those pairs bound its depth (`synthesize_ends`).
-/
import GraphCalls.Proofs.Schema.Reachable
import Mathlib.Data.Set.Card

namespace GraphCalls

/-- What a walk made with one more node in front. -/
def Walk.push (n : SelectionNode) (w : Walk (List SelectionNode)) : Walk (List SelectionNode) :=
  { w with result := w.result.map (n :: ·) }

namespace Registry

/-- What a walk has before it: a type, or some of its members. -/
inductive Task where
  | type (t : TypeDef)
  | members (ms : List (String × TypeRef))

/-- From a memo, a task comes to a walk by calls that nest so deep. A type is
walked by a call, its members inside of that call. -/
inductive Runs (r : Registry) : Task → Memo → Walk (List SelectionNode) → (depth : Nat) → Prop
  | notComposite {t m} (h : t.members? = none) : Runs r (.type t) m ⟨.error (.notComposite t.name), m⟩ 1
  | type {t ms m w n} (h : t.members? = some ms) (hms : Runs r (.members ms) m w n) : Runs r (.type t) m w (n + 1)
  | done {m} : Runs r (.members []) m ⟨.ok [], m⟩ 0
  | unresolved {f ref ms m e} (hr : r.resolve ref = .error e) : Runs r (.members ((f, ref) :: ms)) m ⟨.error e, m⟩ 0
  | leaf {f ref t ms m w n} (hr : r.resolve ref = .ok t) (hc : r.classify t ≠ .object)
      (hrest : Runs r (.members ms) m w n) : Runs r (.members ((f, ref) :: ms)) m (w.push (.leaf f)) n
  | dropped {f ref t ms m w n} (hr : r.resolve ref = .ok t) (hc : r.classify t = .object)
      (hv : m.visits f t.name ≠ 0) (hrest : Runs r (.members ms) m w n) : Runs r (.members ((f, ref) :: ms)) m w n
  | failed {f ref t ms m m' e n} (hr : r.resolve ref = .ok t) (hc : r.classify t = .object)
      (hv : m.visits f t.name = 0) (hbody : Runs r (.type t) (m.record (f, t.name)) ⟨.error e, m'⟩ n) :
      Runs r (.members ((f, ref) :: ms)) m ⟨.error e, m'⟩ n
  | opened {f ref t ms m m' body w k n} (hr : r.resolve ref = .ok t) (hc : r.classify t = .object)
      (hv : m.visits f t.name = 0) (hbody : Runs r (.type t) (m.record (f, t.name)) ⟨.ok body, m'⟩ k)
      (hrest : Runs r (.members ms) m' w n) :
      Runs r (.members ((f, ref) :: ms)) m (w.push (.nested f body)) (max k n)

variable {r : Registry} {task : Task} {t : TypeDef} {m : Memo} {w w' : Walk (List SelectionNode)} {n n' : Nat}

/-- A task comes to one walk only, in one way. -/
theorem Runs.unique (h : Runs r task m w n) : ∀ {w' n'}, Runs r task m w' n' → w' = w ∧ n' = n := by
  induction h with
  | notComposite h =>
    intro w' n' h'
    cases h' with
    | notComposite => exact ⟨rfl, rfl⟩
    | type hms => simp [h] at hms
  | type h _ ih =>
    intro w' n' h'
    cases h' with
    | notComposite hn => simp [h] at hn
    | type h' hms =>
      obtain rfl := Option.some.inj (h.symm.trans h')
      obtain ⟨rfl, rfl⟩ := ih hms
      exact ⟨rfl, rfl⟩
  | done =>
    intro w' n' h'
    cases h'
    exact ⟨rfl, rfl⟩
  | unresolved hr =>
    intro w' n' h'
    cases h' with
    | unresolved hr' =>
      cases hr.symm.trans hr'
      exact ⟨rfl, rfl⟩
    | leaf hr' | dropped hr' | failed hr' | opened hr' => cases hr.symm.trans hr'
  | leaf hr hc _ ih =>
    intro w' n' h'
    cases h' with
    | unresolved hr' => cases hr.symm.trans hr'
    | leaf hr' _ hrest =>
      obtain ⟨rfl, rfl⟩ := ih hrest
      exact ⟨rfl, rfl⟩
    | dropped hr' hc' | failed hr' hc' | opened hr' hc' =>
      cases hr.symm.trans hr'
      exact absurd hc' hc
  | dropped hr hc hv _ ih =>
    intro w' n' h'
    cases h' with
    | unresolved hr' => cases hr.symm.trans hr'
    | leaf hr' hc' =>
      cases hr.symm.trans hr'
      exact absurd hc hc'
    | dropped _ _ _ hrest => exact ih hrest
    | failed hr' _ hv' | opened hr' _ hv' =>
      cases hr.symm.trans hr'
      exact absurd hv' hv
  | failed hr hc hv _ ih =>
    intro w' n' h'
    cases h' with
    | unresolved hr' => cases hr.symm.trans hr'
    | leaf hr' hc' =>
      cases hr.symm.trans hr'
      exact absurd hc hc'
    | dropped hr' _ hv' =>
      cases hr.symm.trans hr'
      exact absurd hv hv'
    | failed hr' _ _ hbody =>
      cases hr.symm.trans hr'
      exact ih hbody
    | opened hr' _ _ hbody =>
      cases hr.symm.trans hr'
      cases (ih hbody).1
  | opened hr hc hv _ _ ihbody ih =>
    intro w' n' h'
    cases h' with
    | unresolved hr' => cases hr.symm.trans hr'
    | leaf hr' hc' =>
      cases hr.symm.trans hr'
      exact absurd hc hc'
    | dropped hr' _ hv' =>
      cases hr.symm.trans hr'
      exact absurd hv hv'
    | failed hr' _ _ hbody =>
      cases hr.symm.trans hr'
      cases (ihbody hbody).1
    | opened hr' _ _ hbody hrest =>
      cases hr.symm.trans hr'
      obtain ⟨hw, rfl⟩ := ihbody hbody
      cases hw
      obtain ⟨rfl, rfl⟩ := ih hrest
      exact ⟨rfl, rfl⟩

/-! ## The run of a walk -/

/-- Members run as they are expanded, if the types do that are walked for
their bodies. -/
theorem runs_of_expandMembers {deeper : TypeDef → Memo → Option (Walk (List SelectionNode))} {depth : Nat}
    (hd : ∀ {t m w}, deeper t m = some w → ∃ n ≤ depth, Runs r (.type t) m w n) :
    ∀ {ms m w}, r.expandMembers deeper ms m = some w → ∃ n ≤ depth, Runs r (.members ms) m w n := by
  intro ms
  induction ms with
  | nil =>
    intro m w h
    simp only [expandMembers, Option.some.injEq] at h
    subst h
    exact ⟨0, Nat.zero_le _, .done⟩
  | cons member ms ih =>
    intro m w h
    obtain ⟨f, ref⟩ := member
    simp only [expandMembers] at h
    split at h
    next e hr =>
      rw [Option.some.injEq] at h
      subst h
      exact ⟨0, Nat.zero_le _, .unresolved hr⟩
    next t hr =>
    split at h
    next hc =>
      split at h
      next hv =>
        split at h
        · cases h
        next e m' hbody =>
          rw [Option.some.injEq] at h
          subst h
          obtain ⟨n, hn, hrun⟩ := hd hbody
          exact ⟨n, hn, .failed hr hc hv hrun⟩
        next body m' hbody =>
          obtain ⟨w', hw', rfl⟩ := Option.map_eq_some_iff.1 h
          obtain ⟨k, hk, hrun⟩ := hd hbody
          obtain ⟨n, hn, hrest⟩ := ih hw'
          exact ⟨max k n, Nat.max_le.2 ⟨hk, hn⟩, .opened hr hc hv hrun hrest⟩
      next hv =>
        obtain ⟨n, hn, hrest⟩ := ih h
        exact ⟨n, hn, .dropped hr hc hv hrest⟩
    next hc =>
      obtain ⟨w', hw', rfl⟩ := Option.map_eq_some_iff.1 h
      obtain ⟨n, hn, hrest⟩ := ih hw'
      exact ⟨n, hn, .leaf hr hc hrest⟩

/-- A walk within a depth runs, and its calls nest no deeper. -/
theorem runs_of_expand : ∀ {depth t m w}, r.expand depth t m = some w → ∃ n ≤ depth, Runs r (.type t) m w n
  | 0, t, m, w, h => by cases h
  | depth + 1, t, m, w, h => by
    simp only [expand] at h
    split at h
    next hms =>
      rw [Option.some.injEq] at h
      subst h
      exact ⟨1, Nat.le_add_left 1 depth, .notComposite hms⟩
    next ms hms =>
      obtain ⟨n, hn, hrun⟩ := runs_of_expandMembers runs_of_expand h
      exact ⟨n + 1, Nat.succ_le_succ hn, .type hms hrun⟩

/-! ## The pairs that are left -/

/-- The pairs of a member and an object-like type that a type and the
registry's types have, as far as they are not in the memo. -/
def freshPairs (r : Registry) (t : TypeDef) (m : Memo) : Set Expansion :=
  {e | ∃ x ∈ t :: r.types, ∃ y, r.IsEdge x e.1 y ∧ y.name = e.2 ∧ m.visits e.1 e.2 = 0}

theorem mem_freshPairs_iff {e : Expansion} : e ∈ r.freshPairs t m ↔ e ∈ r.unrecorded t m := by
  have hvisits : m.visits e.1 e.2 = 0 ↔ e ∉ m.expanded := by
    rw [← not_iff_not, not_not]
    exact (m.mem_expanded_iff e.1 e.2).symm
  simp only [freshPairs, Set.mem_ofPred_eq, mem_unrecorded, mem_expansionsOf, IsEdge, hvisits]
  constructor
  · rintro ⟨x, hx, y, ⟨ref, hf, hr, hc⟩, hn, hm⟩
    exact ⟨⟨x, hx, e.1, ref, y, hf, hr, hc, by rw [hn]⟩, hm⟩
  · rintro ⟨⟨x, hx, f, ref, y, hf, hr, hc, rfl⟩, hm⟩
    exact ⟨x, hx, y, ⟨ref, hf, hr, hc⟩, rfl, hm⟩

theorem ncard_freshPairs (r : Registry) (t : TypeDef) (m : Memo) :
    (r.freshPairs t m).ncard = (r.unrecorded t m).length := by
  classical
  have hset : r.freshPairs t m = ((r.unrecorded t m).toFinset : Set Expansion) := by
    ext e
    rw [mem_freshPairs_iff, Finset.mem_coe, List.mem_toFinset]
  rw [hset, Set.ncard_coe_finset, List.toFinset_card_of_nodup nodup_unrecorded]

/-- **Every walk ends**, on every schema, from every type and memo: there is
one run of it, which makes the selection and the memo that are returned, and
its calls nest at most one deeper than there are pairs left to expand. -/
theorem synthesize_ends (r : Registry) (t : TypeDef) (m : Memo) : ∃ w depth,
    Runs r (.type t) m w depth ∧ (∀ w' depth', Runs r (.type t) m w' depth' → w' = w ∧ depth' = depth) ∧
      r.synthesize t m = ⟨w.result.map SelectionNode.bodyText, w.memo⟩ ∧
      depth ≤ 1 + (r.freshPairs t m).ncard := by
  obtain ⟨depth, hdepth, hrun⟩ := runs_of_expand (r.expand_depthBound t m)
  refine ⟨r.selectionTree t m, depth, hrun, fun w' depth' h => hrun.unique h, rfl, ?_⟩
  rw [depthBound] at hdepth
  rw [ncard_freshPairs]
  omega

end Registry
end GraphCalls
