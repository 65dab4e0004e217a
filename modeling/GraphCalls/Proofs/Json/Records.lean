/-
What is read of objects and records.

Entries are the members of an object, read one by one
(`entries_ofSource_eq_ok_iff`). A record is made of the draft that its fields
leave, and the draft has what the empty one has and every field keeps
(`exists_draft_of_ofSource`).
-/
import GraphCalls.Json.Reader
import GraphCalls.Proofs.Entries
import GraphCalls.Proofs.Json.Order

namespace GraphCalls

namespace Json

theorem storedString_eq_ok_iff {l : StringLiteral} {s : String} : storedString l = .ok s ↔ l.value? = some s := by
  rw [storedString]
  cases l.value? <;> simp

theorem unlessBroken_eq_ok_iff {α : Type} {fault : Option Fault} {a b : α} :
    unlessBroken fault a = .ok b ↔ fault = none ∧ a = b := by
  cases fault <;> simp [unlessBroken]

end Json

/-! ## Members of objects -/

namespace Reader

variable {α : Type} {r : Reader α} {depth : Nat}

/-- Reads a member of an object as an entry. -/
def member (r : Reader α) (depth : Nat) (m : StringLiteral × Source) : Except ReadError (String × α) := do
  let k ← Json.storedString m.1
  let a ← r.ofSource depth m.2
  return (k, a)

/-- A member of an object has a name and a value that read as those of an entry. -/
def Reads (r : Reader α) (depth : Nat) (m : StringLiteral × Source) (e : String × α) : Prop :=
  m.1.value? = some e.1 ∧ r.ofSource depth m.2 = .ok e.2

theorem member_eq_ok_iff {m : StringLiteral × Source} {e : String × α} :
    r.member depth m = .ok e ↔ r.Reads depth m e := by
  simp only [member, Reads, bind_eq_ok_iff, Json.storedString_eq_ok_iff]
  constructor
  · rintro ⟨k, hk, a, ha, he⟩
    cases he
    exact ⟨hk, ha⟩
  · rintro ⟨hk, ha⟩
    exact ⟨_, hk, _, ha, rfl⟩

theorem set_member (es : Entries α) (m : StringLiteral × Source) : (do
    let k ← Json.storedString m.1
    let a ← r.ofSource depth m.2
    return Entries.set k a es) = (r.member depth m).map fun e => Entries.set e.1 e.2 es := by
  rw [member]
  cases Json.storedString m.1 with
  | error _ => rfl
  | ok k => cases r.ofSource depth m.2 <;> rfl

theorem ofText_eq_ok_iff {text : String} {a : α} : r.ofText text = .ok a ↔
    r.ofSource Json.maxDepth (Source.parse text).root = .ok a ∧ (Source.parse text).trailing = false :=
  Source.Document.read_eq_ok_iff

/-- Every member of an object is read, and then the entries are set one after
the other. -/
theorem entries_ofSource_eq_ok_iff {s : Source} {es : Entries α} :
    (entries r).ofSource (depth + 1) s = .ok es ↔
      ∃ ms members, s = .object ms none ∧ List.Forall₂ (r.Reads depth) ms members ∧ es = Entries.setAll [] members := by
  cases s with
  | object ms fault =>
    have hfold := fun acc => foldlM_eq_mapM (@set_member α r depth) ms acc
    rw [entries]
    simp only [hfold, bind_eq_ok_iff, map_eq_ok_iff, mapM_eq_ok_iff, Json.unlessBroken_eq_ok_iff, member_eq_ok_iff]
    constructor
    · rintro ⟨_, ⟨members, hmembers, rfl⟩, rfl, rfl⟩
      exact ⟨ms, members, rfl, hmembers, rfl⟩
    · rintro ⟨_, members, hs, hmembers, rfl⟩
      cases hs
      exact ⟨_, ⟨members, hmembers, rfl⟩, rfl, rfl⟩
  | _ => simp [entries]

theorem mem_of_entries_ofSource : ∀ {depth : Nat} {s : Source} {es : Entries α},
    (entries r).ofSource depth s = .ok es → ∀ e ∈ es, ∃ n x, n < depth ∧ r.ofSource n x = .ok e.2
  | 0, s, es, h => by cases s <;> cases h
  | depth + 1, s, es, h => by
    obtain ⟨ms, members, rfl, hmembers, rfl⟩ := entries_ofSource_eq_ok_iff.1 h
    intro e he
    obtain ⟨m, -, hm⟩ := exists_mem_of_forall₂ hmembers.flip (Entries.mem_of_mem_setAll_nil he)
    exact ⟨depth, m.2, Nat.lt_succ_self depth, hm.2⟩

/-- Entries have names of their own. -/
theorem nodup_of_entries_ofSource : ∀ {depth : Nat} {s : Source} {es : Entries α},
    (entries r).ofSource depth s = .ok es → (es.map Prod.fst).Nodup
  | 0, s, es, h => by cases s <;> cases h
  | depth + 1, s, es, h => by
    obtain ⟨_, members, -, -, rfl⟩ := entries_ofSource_eq_ok_iff.1 h
    exact Entries.nodup_setAll_nil members

end Reader

/-! ## Drafts of records -/

namespace Record

variable {δ α : Type} {r : Record δ α} {depth : Nat} {s : Source}

/-- Something about drafts that is kept by whatever field is read inside a
record, and by other members where these are kept. -/
structure Keeps (r : Record δ α) (depth : Nat) (p : δ → Prop) : Prop where
  field : ∀ f ∈ r.fields, ∀ {n s d d'}, n < depth → p d → f.ofSource n s d = .ok d' → p d'
  keep : ∀ keep ∈ r.keep, ∀ name v {d}, p d → p (keep name v d)

variable {p : δ → Prop}

theorem of_memberOfSource {n : Nat} {d d' : δ} {m : StringLiteral × Source} (h : r.memberOfSource n d m = .ok d')
    (hd : p d) (hfield : ∀ f ∈ r.fields, f.ofSource n m.2 d = .ok d' → p d')
    (hkeep : ∀ keep ∈ r.keep, ∀ name v, p (keep name v d)) : p d' := by
  rw [memberOfSource, bind_eq_ok_iff] at h
  obtain ⟨name, -, h⟩ := h
  split at h
  next f hf =>
    split at h
    · cases h
    · exact hfield f (List.mem_of_find?_eq_some hf) h
  · split at h
    next keep hk =>
      obtain ⟨v, -, h⟩ := bind_eq_ok_iff.1 h
      cases h
      exact hkeep keep hk name v
    · split at h
      · cases h
      · cases h
        exact hd

theorem of_itemsOfSource {n : Nat} {fault : Option Fault} : ∀ {fs : List (Field δ)} {xs : List Source} {d d' : δ},
    (∀ f ∈ fs, ∀ {s d d'}, p d → f.ofSource n s d = .ok d' → p d') → p d →
      itemsOfSource n fault fs xs d = .ok d' → p d'
  | [], [], d, d', _, hd, h => by
    obtain ⟨-, rfl⟩ := Json.unlessBroken_eq_ok_iff.1 h
    exact hd
  | [], _ :: _, d, d', _, _, h => by cases h
  | f :: fs, [], d, d', hstep, hd, h => by
    cases fault with
    | some fault => cases h
    | none =>
      rw [itemsOfSource] at h
      split at h
      · exact of_itemsOfSource (List.forall_mem_cons.1 hstep).2 hd h
      · cases h
  | f :: fs, x :: xs, d, d', hstep, hd, h => by
    rw [itemsOfSource, bind_eq_ok_iff] at h
    obtain ⟨d₁, hd₁, h⟩ := h
    rw [List.forall_mem_cons] at hstep
    exact of_itemsOfSource hstep.2 (hstep.1 hd hd₁) h

/-- What holds of the empty draft, and is kept from there, holds of the draft
that a record is made of. -/
theorem exists_draft_of_ofSource {a : α} (hkeeps : r.Keeps depth p) (hempty : p r.empty)
    (h : r.ofSource depth s = .ok a) : ∃ d, p d ∧ r.finish d = some a := by
  have hfinish : ∀ {d}, p d → r.finished d = .ok a → ∃ d, p d ∧ r.finish d = some a := by
    intro d hd h
    rw [finished] at h
    split at h
    next b hb =>
      cases h
      exact ⟨d, hd, hb⟩
    · cases h
  rw [ofSource.eq_def] at h
  split at h
  · cases h
  next ms fault n =>
    obtain ⟨d, hd, h⟩ := bind_eq_ok_iff.1 h
    obtain ⟨d', hd', h⟩ := bind_eq_ok_iff.1 h
    obtain ⟨-, rfl⟩ := Json.unlessBroken_eq_ok_iff.1 hd'
    refine hfinish (of_foldlM_eq_ok (fun m _ d d' hd hm => ?_) hempty hd) h
    exact of_memberOfSource hm hd
      (fun f hf => hkeeps.field f hf (Nat.lt_succ_self n) hd)
      (fun keep hk name v => hkeeps.keep keep hk name v hd)
  next xs fault n =>
    split at h
    · cases h
    · cases h
    next n =>
      obtain ⟨d, hd, h⟩ := bind_eq_ok_iff.1 h
      exact hfinish (of_itemsOfSource (fun f hf _ _ _ hd => hkeeps.field f hf (Nat.lt_succ_self _) hd) hempty hd) h
  · cases h

end Record
end GraphCalls
