/-
What a record takes from the members of an object.

Of members whose names are all different, a record reads its fields by their
names, wherever they stand, and then the others in their order
(`Record.Orderly.foldlM_eq`). An array of items is read like the object that has them
under the names of the fields (`Record.foldlM_zip_of_items`).
-/
import GraphCalls.Proofs.Json.StoredReading

namespace GraphCalls

namespace Entries

variable {α : Type}

/-- The entry of a name, if there is one. -/
def named (es : Entries α) (k : String) : List (String × α) := (es.get? k).toList.map (Prod.mk k)

theorem filter_eq_named {k : String} : ∀ {es : Entries α}, (es.map Prod.fst).Nodup →
    es.filter (·.1 = k) = named es k
  | [], _ => rfl
  | e :: es, h => by
    rw [List.map_cons, List.nodup_cons] at h
    rw [named, get?_cons]
    by_cases hk : e.1 = k
    · have hrest : es.filter (·.1 = k) = [] := by
        rw [filter_eq_named h.2, named, get?_of_not_mem (hk ▸ h.1)]
        rfl
      rw [List.filter_cons_of_pos (by simpa using hk), hrest, if_pos hk, ← hk]
      rfl
    · rw [List.filter_cons_of_neg (by simpa using hk), filter_eq_named h.2, if_neg hk, named]

theorem get?_filter {p : String → Bool} {k : String} (hk : p k = true) (es : Entries α) :
    get? (es.filter fun e => p e.1) k = get? es k := by
  induction es with
  | nil => rfl
  | cons e es ih =>
    rw [List.filter_cons]
    split
    · rw [get?_cons, get?_cons, ih]
    next he =>
      have hne : e.1 ≠ k := fun h => he (h ▸ hk)
      rw [get?_cons, if_neg hne, ih]

/-- Entries are those of some names, and the others. -/
theorem perm_named : ∀ {ks : List String} {es : Entries α}, ks.Nodup → (es.map Prod.fst).Nodup →
    es.Perm (ks.flatMap (named es) ++ es.filter (·.1 ∉ ks))
  | [], es, _, _ => by simp
  | k :: ks, es, hks, hes => by
    rw [List.nodup_cons] at hks
    have hrest : ((es.filter fun e => !decide (e.1 = k)).map Prod.fst).Nodup :=
      hes.sublist (List.filter_sublist.map Prod.fst)
    have hnamed : ∀ l ∈ ks, named (es.filter fun e => !decide (e.1 = k)) l = named es l := by
      intro l hl
      have hne : l ≠ k := fun he => hks.1 (he ▸ hl)
      rw [named, get?_filter (p := fun l => !decide (l = k)) (by simpa using hne), named]
    have hothers : (es.filter fun e => !decide (e.1 = k)).filter (·.1 ∉ ks) = es.filter (·.1 ∉ k :: ks) := by
      rw [List.filter_filter]
      refine List.filter_congr fun e _ => ?_
      simp [Bool.and_comm]
    have hsplit : (named es k ++ es.filter fun e => !decide (e.1 = k)).Perm es := by
      rw [← filter_eq_named hes]
      exact List.filter_append_perm _ _
    have ih := perm_named hks.2 hrest
    rw [hothers, List.flatMap_congr hnamed] at ih
    rw [List.flatMap_cons, List.append_assoc]
    exact hsplit.symm.trans (ih.append_left _)

/-- Entries of different names may be looked up in any order. -/
theorem get?_perm {es es' : Entries α} (h : (es.map Prod.fst).Nodup) (hp : es.Perm es') (k : String) :
    get? es k = get? es' k := by
  have h' : (es'.map Prod.fst).Nodup := (hp.map Prod.fst).nodup_iff.1 h
  ext a
  exact ⟨fun ha => get?_of_mem h' (hp.mem_iff.1 (mem_of_get? ha)),
    fun ha => get?_of_mem h (hp.mem_iff.2 (mem_of_get? ha))⟩

end Entries

/-- The members that a record with these fields is read from: those of an
object, or the items of an array, which come in the order of the fields. -/
def Json.membersAs (fields : List String) : Json → List (String × Json)
  | .object ms => ms
  | .array vs => fields.zip vs
  | _ => []

namespace Record

variable {δ α β : Type} {r : Record δ α}

/-- The names of the fields. -/
def names (r : Record δ α) : List String := r.fields.map (·.name)

theorem field?_name {f : Field δ} (hr : r.names.Nodup) (hf : f ∈ r.fields) : r.field? f.name = some f := by
  obtain ⟨before, after, hsplit⟩ := List.append_of_mem hf
  have hbefore : ∀ g ∈ before, ¬ (g.name == f.name) = true := by
    intro g hg
    rw [names, hsplit, List.map_append, List.map_cons, List.nodup_append] at hr
    simpa using hr.2.2 _ (List.mem_map_of_mem hg) _ (List.mem_cons_self ..)
  rw [field?, hsplit, List.find?_append, List.find?_eq_none.2 hbefore]
  simp

theorem field?_eq_none_iff {name : String} : r.field? name = none ↔ name ∉ r.names := by
  simp [field?, names]

/-- Members that are no fields are kept, or skipped. -/
theorem foldlM_others : ∀ {ms : List (String × Json)} (a : δ), (∀ m ∈ ms, m.1 ∉ r.names) →
    ms.foldlM r.memberOfJson a = some (ms.foldl (fun a m => r.keep.elim a fun keep => keep m.1 m.2 a) a)
  | [], a, _ => rfl
  | m :: ms, a, h => by
    rw [List.forall_mem_cons] at h
    have hm : r.memberOfJson a m = some (r.keep.elim a fun keep => keep m.1 m.2 a) := by
      rw [memberOfJson, field?_eq_none_iff.2 h.1]
      cases r.keep <;> rfl
    rw [List.foldlM_cons, hm, List.foldl_cons]
    exact foldlM_others _ h.2

/-- The fields are looked up by their names; the others follow in order. -/
theorem Orderly.foldlM_eq (h : r.Orderly) (hr : r.names.Nodup) {ms : Entries Json}
    (hn : (ms.map Prod.fst).Nodup) (a : δ) :
    ms.foldlM r.memberOfJson a = ((r.names.flatMap (Entries.named ms)).foldlM r.memberOfJson a).map fun a =>
      (ms.filter (·.1 ∉ r.names)).foldl (fun a m => r.keep.elim a fun keep => keep m.1 m.2 a) a := by
  rw [h.foldlM_perm hn (Entries.perm_named hr hn), List.foldlM_append, Option.map_eq_bind]
  refine congrArg _ (funext fun a => foldlM_others a fun m hm => ?_)
  simpa using (List.mem_filter.1 hm).2

/-- Without other members to keep, only the fields count. -/
theorem Orderly.foldlM_fields (h : r.Orderly) (hr : r.names.Nodup) (hkeep : r.keep = none) {ms : Entries Json}
    (hn : (ms.map Prod.fst).Nodup) (a : δ) :
    ms.foldlM r.memberOfJson a = (r.names.flatMap (Entries.named ms)).foldlM r.memberOfJson a := by
  have hskip : ∀ (ms : List (String × Json)) (a : δ), ms.foldl (fun a _ => a) a = a := fun ms a => by
    induction ms with
    | nil => rfl
    | cons m ms ih => exact ih
  simp only [h.foldlM_eq hr hn, hkeep, Option.elim_none, hskip, Option.map_id']

/-- A field that is not there yet is read, if there is a member of its name, and
then the rest. -/
theorem foldlM_named_append {name : String} {b : Bool} {rd : Reader β} {get : δ → Option β} {set : β → δ → δ} {a : δ}
    (hf : r.field? name = some (.of name b rd get set)) (ha : get a = none) (ms rest : Entries Json) :
    (Entries.named ms name ++ rest).foldlM r.memberOfJson a =
      ((Entries.get? ms name).mapM rd.ofJson).bind fun x => rest.foldlM r.memberOfJson (x.elim a (set · a)) := by
  rw [Entries.named]
  cases Entries.get? ms name with
  | none => rfl
  | some v =>
    have hread : r.memberOfJson a (name, v) = (rd.ofJson v).map (set · a) := by
      rw [memberOfJson, hf]
      simp [Field.of, ha]
    have hmap : (some v).mapM rd.ofJson = (rd.ofJson v).map some := rfl
    change (r.memberOfJson a (name, v)).bind (rest.foldlM r.memberOfJson) = _
    rw [hread, hmap, Option.bind_map, Option.bind_map]
    rfl

/-- The array form is read like the object that lists its items under the names
of the fields. -/
theorem foldlM_zip_of_items : ∀ {fs : List (Field δ)} {vs : List Json} {a b : δ},
    fs.Pairwise Field.Apart → (∀ f ∈ fs, r.field? f.name = some f ∧ f.present a = false) →
      itemsOfJson fs vs a = some b → ((fs.map (·.name)).zip vs).foldlM r.memberOfJson a = some b
  | [], [], a, b, _, _, hb => hb
  | [], _ :: _, a, b, _, _, hb => by cases hb
  | f :: fs, [], a, b, hapart, hfs, hb => by
    rw [itemsOfJson] at hb
    split at hb
    · have hrest : ((fs.map (·.name)).zip []).foldlM r.memberOfJson a = some b :=
        foldlM_zip_of_items (List.pairwise_cons.1 hapart).2 (List.forall_mem_cons.1 hfs).2 hb
      rwa [List.zip_nil_right] at hrest ⊢
    · cases hb
  | f :: fs, v :: vs, a, b, hapart, hfs, hb => by
    rw [List.pairwise_cons] at hapart
    rw [List.forall_mem_cons] at hfs
    obtain ⟨a', ha', hb⟩ := Option.bind_eq_some_iff.1 hb
    have hread : r.memberOfJson a (f.name, v) = some a' := by
      rw [memberOfJson, hfs.1.1]
      simpa [hfs.1.2] using ha'
    have hfresh : ∀ g ∈ fs, r.field? g.name = some g ∧ g.present a' = false := fun g hg =>
      ⟨(hfs.2 g hg).1, ((hapart.1 g hg).right (.ofJson ha')).trans (hfs.2 g hg).2⟩
    rw [List.map_cons, List.zip_cons_cons, List.foldlM_cons, hread]
    exact foldlM_zip_of_items hapart.2 hfresh hb

theorem sublist_map_fst_zip : ∀ (ks : List String) (vs : List Json), ((ks.zip vs).map Prod.fst).Sublist ks
  | [], _ => by simp
  | k :: ks, [] => by simp
  | k :: ks, v :: vs => by
    rw [List.zip_cons_cons, List.map_cons]
    exact (sublist_map_fst_zip ks vs).cons_cons k

theorem nodup_membersAs {v : Json} (hv : v.Sorted) (hr : r.names.Nodup) :
    ((v.membersAs r.names).map Prod.fst).Nodup := by
  cases v with
  | object ms => exact hv.1.imp ne_of_lt
  | array vs => exact hr.sublist (sublist_map_fst_zip r.names vs)
  | _ => exact List.nodup_nil

theorem sorted_of_mem_membersAs (fields : List String) {v : Json} (hv : v.Sorted) :
    ∀ m ∈ v.membersAs fields, m.2.Sorted := by
  cases v with
  | object ms => exact Json.sorted_members_iff.1 hv.2
  | array vs => exact fun m hm => Json.sorted_items_iff.1 hv m.2 (List.of_mem_zip hm).2
  | _ => exact fun m hm => absurd hm List.not_mem_nil

/-- A record without other members is read as from the object of its members. -/
theorem ofJson_membersAs (h : r.Orderly) (hr : r.names.Nodup) (hfresh : ∀ f ∈ r.fields, f.present r.empty = false)
    {v : Json} {a : α} (ha : r.ofJson v = some a) : r.ofJson (.object (v.membersAs r.names)) = some a := by
  cases v with
  | object ms => exact ha
  | array vs =>
    simp only [ofJson] at ha
    split at ha
    · cases ha
    obtain ⟨d, hd, ha⟩ := Option.bind_eq_some_iff.1 ha
    have hread := foldlM_zip_of_items h.fields (fun f hf => ⟨field?_name hr hf, hfresh f hf⟩) hd
    exact Option.bind_eq_some_iff.2 ⟨d, hread, ha⟩
  | _ => cases ha

end Record
end GraphCalls
