/-
Every walk ends: the depth that a walk is given is enough.

Each body but the outermost is made for a pair that is recorded just before,
and a pair once recorded stays so. The pairs that are not in the memo yet bound
how deep bodies can nest, whatever the types refer to: `expand_isSome`. So
`selectionTree` never falls back on an empty selection, and what it returns is
what the walk made.
-/
import GraphCalls.Proofs.Entries
import GraphCalls.Proofs.Schema.Outline
import Mathlib.Data.List.Perm.Subperm

namespace GraphCalls

namespace Registry

variable {r : Registry} {t : TypeDef} {m m' : Memo}

theorem mem_expansionsOf {x : TypeDef} {e : Expansion} :
    e ∈ r.expansionsOf x ↔ ∃ f ref u, (f, ref) ∈ x.members ∧ r.resolve ref = .ok u ∧
      r.classify u = .object ∧ e = (f, u.name) := by
  simp only [expansionsOf, List.mem_filterMap, resolve_ok_iff, TypeDef.members]
  constructor
  · rintro ⟨⟨f, ref⟩, hm, he⟩
    split at he
    next u hu =>
      split at he
      next hc => exact ⟨f, ref, u, hm, hu, hc, by simpa using he.symm⟩
      · simp at he
    · simp at he
  · rintro ⟨f, ref, u, hm, hu, hc, rfl⟩
    exact ⟨(f, ref), hm, by simp [hu, hc]⟩

theorem mem_unrecorded {e : Expansion} :
    e ∈ r.unrecorded t m ↔ (∃ u ∈ t :: r.types, e ∈ r.expansionsOf u) ∧ e ∉ m.expanded := by
  simp only [unrecorded, List.mem_eraseDups, List.mem_filter, List.mem_flatMap, decide_eq_true_eq]

theorem nodup_unrecorded : (r.unrecorded t m).Nodup := nodup_eraseDups _

theorem length_unrecorded_le (h : m.expanded ⊆ m'.expanded) :
    (r.unrecorded t m').length ≤ (r.unrecorded t m).length := by
  refine (List.subperm_of_subset nodup_unrecorded fun e he => ?_).length_le
  rw [mem_unrecorded] at he ⊢
  exact ⟨he.1, fun hm => he.2 (h hm)⟩

theorem length_unrecorded_record_lt {e : Expansion} (he : e ∈ r.unrecorded t m) :
    (r.unrecorded t (m.record e)).length < (r.unrecorded t m).length := by
  have hnot : e ∉ r.unrecorded t (m.record e) := by simp [mem_unrecorded, Memo.record]
  have hsub : e :: r.unrecorded t (m.record e) ⊆ r.unrecorded t m := by
    intro x hx
    rcases List.mem_cons.1 hx with rfl | hx
    · exact he
    · rw [mem_unrecorded] at hx ⊢
      exact ⟨hx.1, fun hm => hx.2 (List.mem_append_left _ hm)⟩
  exact (List.subperm_of_subset (List.nodup_cons.2 ⟨hnot, nodup_unrecorded⟩) hsub).length_le

/-- With depth for the pairs that are left, a walk over members of one of the
types comes to its end, if deeper walks do. -/
theorem expandMembers_isSome {depth : Nat}
    (hd : ∀ {u m}, u ∈ r.types → (r.unrecorded t m).length < depth → (r.expand depth u m).isSome) :
    ∀ {ms m}, (∀ f ref u, (f, ref) ∈ ms → r.resolve ref = .ok u → r.classify u = .object →
        ∃ x ∈ t :: r.types, (f, u.name) ∈ r.expansionsOf x) →
      (r.unrecorded t m).length < depth + 1 → (r.expandMembers (r.expand depth) ms m).isSome := by
  intro ms
  induction ms with
  | nil => intro m _ _; simp [expandMembers]
  | cons member ms ih =>
    intro m hms hm
    obtain ⟨f, ref⟩ := member
    have hrest : ∀ f ref u, (f, ref) ∈ ms → r.resolve ref = .ok u → r.classify u = .object →
        ∃ x ∈ t :: r.types, (f, u.name) ∈ r.expansionsOf x :=
      fun f ref u h => hms f ref u (List.mem_cons_of_mem _ h)
    simp only [expandMembers]
    split
    · simp
    next u hu =>
    split
    next hc =>
      split
      next hv =>
        have hnew : (f, u.name) ∉ m.expanded := by simp [Memo.mem_expanded_iff, hv]
        have hlt := length_unrecorded_record_lt (t := t)
          (mem_unrecorded.2 ⟨hms f ref u (by simp) hu hc, hnew⟩)
        have hbody := hd (mem_types_of_resolve hu) (m := m.record (f, u.name)) (by omega)
        split
        next hn => simp [hn] at hbody
        · simp
        next body m₁ hb =>
          obtain ⟨o, ho⟩ := expand_outline hb
          have hle : (r.unrecorded t m₁).length ≤ (r.unrecorded t (m.record (f, u.name))).length :=
            length_unrecorded_le (by rw [ho.memo]; exact List.subset_append_left _ _)
          simpa using ih hrest (by omega)
      · exact ih hrest hm
    · simpa using ih hrest hm

theorem expand_isSome_of_lt : ∀ {depth u m}, u ∈ t :: r.types →
    (r.unrecorded t m).length < depth → (r.expand depth u m).isSome
  | 0, u, m, _, h => by omega
  | depth + 1, u, m, hu, h => by
    simp only [expand]
    split
    · simp
    next ms hms =>
    refine expandMembers_isSome (fun hx => expand_isSome_of_lt (List.mem_cons_of_mem _ hx)) ?_ h
    intro f ref x hf hx hc
    exact ⟨u, hu, mem_expansionsOf.2 ⟨f, ref, x, by simpa [TypeDef.members, hms] using hf, hx, hc, rfl⟩⟩

/-- The bound on the depth is enough. -/
theorem expand_isSome (r : Registry) (t : TypeDef) (m : Memo) :
    (r.expand (r.depthBound t m) t m).isSome :=
  expand_isSome_of_lt (List.mem_cons_self ..) (Nat.lt_succ_self _)

theorem expand_depthBound (r : Registry) (t : TypeDef) (m : Memo) :
    r.expand (r.depthBound t m) t m = some (r.selectionTree t m) := by
  obtain ⟨w, hw⟩ := Option.isSome_iff_exists.1 (r.expand_isSome t m)
  simp [selectionTree, hw]

/-- A default selection is the text of an outline of its type. -/
theorem synthesize_outline {s : String} (h : (r.synthesize t m).result = .ok s) :
    ∃ o, Outlines r t.members m (r.selectionTree t m) o ∧ s = SelectionNode.bodyText o.nodes := by
  simp only [synthesize] at h
  rcases hw : r.selectionTree t m with ⟨res, m'⟩
  simp only [hw] at h
  cases res with
  | error e => simp [Except.map] at h
  | ok ns =>
    obtain ⟨o, ho⟩ := expand_outline ((r.expand_depthBound t m).trans (congrArg some hw))
    obtain rfl := Except.ok.inj ho.result
    simp only [Except.map, Except.ok.injEq] at h
    exact ⟨o, ho, h.symm⟩

end Registry
end GraphCalls
