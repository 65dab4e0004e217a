/-
One reader after another: reading data, and decoding it later.

A reader decodes what another one keeps if it gives of every tree what the
other gives, decoded. Records keep to that: if the fields of one are read like
those of the other, decoded, and neither is read twice, then so is the record,
wherever in it the data is that cannot be decoded (`Record.Decodes.reader`).
-/
import GraphCalls.Proofs.Json.StoredReading

namespace GraphCalls

variable {α β : Type}

/-! ## Readers -/

namespace Reader

/-- A reader gives of every tree what another one gives, decoded. -/
def Decodes (f : α → Option β) (r : Reader α) (t : Reader β) : Prop :=
  ∀ ⦃d s⦄, s.Distinct → (t.ofSource d s).toOption = (r.ofSource d s).toOption.bind f

theorem Decodes.option {f : α → Option β} {r : Reader α} {t : Reader β} (h : r.Decodes f t) :
    (option r).Decodes (Option.mapM f) (option t) := by
  intro d s hs
  have hread : ((t.ofSource d s).map some).toOption = ((r.ofSource d s).map some).toOption.bind (Option.mapM f) := by
    rw [toOption_map, toOption_map, h hs]
    cases (r.ofSource d s).toOption <;> rfl
  cases s with
  | null => rfl
  | _ => exact hread

/-- Reads with a change of what is read. -/
def map (g : α → β) (r : Reader α) : Reader β := ⟨fun d s => (r.ofSource d s).map g, fun v => (r.ofJson v).map g⟩

theorem decodes_map (g : α → β) (r : Reader α) : r.Decodes (fun a => some (g a)) (r.map g) := by
  intro d s _
  rw [map, toOption_map, Option.map_eq_bind]
  rfl

/-! ## Reading only what can be stored -/

/-- A reader that only reads what can be stored. -/
def Strict (r : Reader α) : Prop := ∀ ⦃d s a⦄, r.ofSource d s = .ok a → ∃ v, Json.ofSource d s = .ok v

variable {r : Reader α}

/-- What is read only of what is stored is decoded from it. -/
theorem Strict.decodes {f : Json → Option α} (hr : r.Strict)
    (h : ∀ {d s v}, s.Distinct → Json.ofSource d s = .ok v → (r.ofSource d s).toOption = f v) : json.Decodes f r := by
  intro d s hs
  change (r.ofSource d s).toOption = (Json.ofSource d s).toOption.bind f
  cases hv : Json.ofSource d s with
  | ok v => exact h hs hv
  | error e =>
    cases hread : r.ofSource d s with
    | ok a =>
      obtain ⟨v, hv'⟩ := hr hread
      cases hv.symm.trans hv'
    | error e' => rfl

theorem strict_string : string.Strict := by
  intro d s a h
  cases s with
  | string l => exact ⟨.string a, congrArg (Except.map Json.string) h⟩
  | _ => cases h

theorem strict_integer (lo hi : Int) : (integer lo hi).Strict := by
  intro d s a h
  cases s with
  | number l =>
    simp only [integer] at h
    cases hl : l.value? with
    | none =>
      rw [hl] at h
      cases h
    | some n => exact ⟨.number n, by rw [Json.ofSource, hl]⟩
  | _ => cases h

theorem Strict.list (hr : r.Strict) : (list r).Strict := by
  intro d s as h
  cases s with
  | array xs fault =>
    cases d with
    | zero => cases h
    | succ d =>
      obtain ⟨bs, hbs, h⟩ := bind_eq_ok_iff.1 h
      obtain ⟨rfl, rfl⟩ := Json.unlessBroken_eq_ok_iff.1 h
      have hall := exists_mapM_eq_ok_iff.1 ⟨bs, hbs⟩
      obtain ⟨vs, hvs⟩ := exists_mapM_eq_ok_iff.2 fun x hx => (hall x hx).elim fun _ hx => hr hx
      refine ⟨.array vs, ?_⟩
      rw [Json.ofSource, Json.items_eq_mapM, hvs]
      rfl
  | _ => cases h

theorem Strict.entries (hr : r.Strict) : (entries r).Strict := by
  intro d s es h
  cases d with
  | zero => cases s <;> cases h
  | succ d =>
    obtain ⟨ms, members, rfl, hmembers, rfl⟩ := entries_ofSource_eq_ok_iff.1 h
    have hall : ∀ m ∈ ms, ∃ n, json.member d m = .ok n := by
      intro m hm
      obtain ⟨n, -, hn⟩ := exists_mem_of_forall₂ hmembers hm
      obtain ⟨v, hv⟩ := hr hn.2
      exact ⟨(n.1, v), member_eq_ok_iff.2 ⟨hn.1, hv⟩⟩
    obtain ⟨vs, hvs⟩ := exists_mapM_eq_ok_iff.2 hall
    refine ⟨.ofMembers vs, ?_⟩
    rw [Json.ofSource, Json.members_eq_mapM, hvs]
    rfl

theorem Strict.map (g : α → β) (hr : r.Strict) : (r.map g).Strict := by
  intro d s b h
  obtain ⟨a, ha, -⟩ := map_eq_ok_iff.1 h
  exact hr ha

/-! ## Maps -/

theorem sortMembers_set {k : String} {es : Entries α} (h : k ∉ es.map Prod.fst) (a : α) :
    Json.sortMembers (Entries.set k a es) = Json.insertMember k a (Json.sortMembers es) := by
  rw [Entries.set_of_not_mem h, Json.sortMembers, List.foldl_append]
  rfl

/-- Entries that are set in some order are in the end those that are added in
the order of their names. -/
theorem map_sortMembers_foldlM_set : ∀ (ms : List (String × Json)) (es : Entries α),
    ((es.map Prod.fst) ++ ms.map Prod.fst).Nodup →
      (ms.foldlM (fun es m => (r.ofJson m.2).map (Entries.set m.1 · es)) es).map Json.sortMembers =
        ms.foldlM (fun es m => (r.ofJson m.2).map (Json.insertMember m.1 · es)) (Json.sortMembers es)
  | [], es, _ => rfl
  | m :: ms, es, h => by
    have hnew : m.1 ∉ es.map Prod.fst := fun hmem => List.disjoint_of_nodup_append h hmem (List.mem_cons_self ..)
    rw [List.foldlM_cons, List.foldlM_cons]
    cases r.ofJson m.2 with
    | none => rfl
    | some a =>
      have hrest : ((Entries.set m.1 a es).map Prod.fst ++ ms.map Prod.fst).Nodup := by
        rw [Entries.set_of_not_mem hnew, List.map_append, List.append_assoc]
        exact h
      have htail := map_sortMembers_foldlM_set ms _ hrest
      rw [sortMembers_set hnew] at htail
      exact htail

/-- A map is the same map from a tree and from what is stored of it; only the
order of its entries is that of the tree, or of their names. -/
theorem Agrees.sortMembers_entries (hr : r.Agrees) {d : Nat} {s : Source} {v : Json} (hs : s.Distinct)
    (h : Json.ofSource d s = .ok v) :
    ((entries r).ofSource d s).toOption.map Json.sortMembers = ((entries r).ofJson v).map Json.sortMembers := by
  cases Json.stores_of_ofSource h with
  | @object d ms vs hvs =>
    have hnodup : (vs.map Prod.fst).Nodup := Json.map_fst_of_reads hvs ▸ hs.1
    have hsorted : ((Json.sortMembers vs).map Prod.fst).Nodup :=
      ((Json.perm_sortMembers hnodup).map Prod.fst).nodup_iff.2 hnodup
    have hread : List.Forall₂ (fun m n => ∀ es, (do
        let k ← Json.storedString m.1
        let a ← r.ofSource d m.2
        return Entries.set k a es : Except ReadError (Entries α)).toOption =
          (r.ofJson n.2).map (Entries.set n.1 · es)) ms vs := by
      refine ((List.forall₂_and_left _ _).2 ⟨Source.distinct_members_iff.1 hs.2, hvs⟩).imp fun m n hm es => ?_
      rw [Json.storedString_eq_ok_iff.2 hm.2.1, ← hr hm.1 hm.2.2]
      cases r.ofSource d m.2 <;> rfl
    have htree : ((entries r).ofSource (d + 1) (.object ms none)).toOption =
        vs.foldlM (fun es n => (r.ofJson n.2).map (Entries.set n.1 · es)) [] := by
      rw [← toOption_foldlM hread, Reader.entries]
      simp only [toOption_bind, Json.unlessBroken]
      exact Option.bind_fun_some _
    have hstored : (entries r).ofJson (.ofMembers vs) =
        (Json.sortMembers vs).foldlM (fun es n => (r.ofJson n.2).map (Entries.set n.1 · es)) [] := rfl
    rw [htree, hstored, map_sortMembers_foldlM_set vs [] hnodup, map_sortMembers_foldlM_set _ [] hsorted]
    refine foldlM_perm (Json.perm_sortMembers hnodup).symm (fun m hm n hn es => ?_) _
    by_cases hne : m.1 = n.1
    · rw [List.inj_on_of_nodup_map hnodup hm hn hne]
    · cases r.ofJson m.2 <;> cases r.ofJson n.2 <;> simp [Json.insertMember_comm hne]
  | _ => rfl

end Reader

/-! ## Fields -/

namespace Field

variable {δ δ' : Type}

/-- A field reads into a draft what another one reads, decoded, if it is not
there yet. -/
structure Decodes (decode : δ → Option δ') (f : Field δ) (g : Field δ') : Prop where
  name : g.name = f.name
  mayBeLeftOut : g.mayBeLeftOut = f.mayBeLeftOut
  present : ∀ {a b}, decode a = some b → g.present b = f.present a
  read : ∀ {d s a}, s.Distinct → f.present a = false →
    (f.ofSource d s a).toOption.bind decode = (decode a).bind fun b => (g.ofSource d s b).toOption

/-- A field that is read alike into both drafts. -/
theorem decodes_of {decode : δ → Option δ'} {name : String} {mayBeLeftOut : Bool} {r : Reader α} {get : δ → Option α}
    {get' : δ' → Option α} {set : α → δ → δ} {set' : α → δ' → δ'}
    (hget : ∀ {a b}, decode a = some b → get' b = get a) (hset : ∀ x a, decode (set x a) = (decode a).map (set' x)) :
    (Field.of name mayBeLeftOut r get set).Decodes decode (Field.of name mayBeLeftOut r get' set') where
  name := rfl
  mayBeLeftOut := rfl
  present h := congrArg Option.isSome (hget h)
  read {d s a} _ _ := by
    simp only [Field.of]
    cases r.ofSource d s with
    | error e => cases decode a <;> rfl
    | ok x => exact (hset x a).trans (Option.map_eq_bind ..)

/-- Fields by name: neither record has one, or both do. -/
theorem find?_decodes {decode : δ → Option δ'} {fs : List (Field δ)} {gs : List (Field δ')}
    (h : List.Forall₂ (Decodes decode) fs gs) (name : String) :
    fs.find? (·.name == name) = none ∧ gs.find? (·.name == name) = none ∨
      ∃ f g, fs.find? (·.name == name) = some f ∧ gs.find? (·.name == name) = some g ∧ f.Decodes decode g := by
  induction h with
  | nil => exact .inl ⟨rfl, rfl⟩
  | @cons f g fs gs hfg _ ih =>
    rw [List.find?_cons, List.find?_cons, hfg.name]
    cases f.name == name with
    | true => exact .inr ⟨f, g, rfl, rfl, hfg⟩
    | false => exact ih

end Field

/-! ## Records -/

namespace Record

variable {δ δ' : Type} {r : Record δ α} {t : Record δ' β} {decode : δ → Option δ'} {f : α → Option β}

/-- The drafts and results of one record are those of another, decoded. -/
structure Decodes (decode : δ → Option δ') (f : α → Option β) (r : Record δ α) (t : Record δ' β) : Prop where
  fields : List.Forall₂ (Field.Decodes decode) r.fields t.fields
  apart : r.fields.Pairwise Field.Apart
  fresh : ∀ f ∈ r.fields, f.present r.empty = false
  keep : r.keep = none
  keep' : t.keep = none
  empty : decode r.empty = some t.empty
  finish : ∀ a, (r.finish a).bind f = (decode a).bind t.finish

theorem Decodes.member (h : Decodes decode f r t) {d : Nat} {m : StringLiteral × Source} (hm : m.2.Distinct) (a : δ) :
    (r.memberOfSource d a m).toOption.bind decode = (decode a).bind fun b => (t.memberOfSource d b m).toOption := by
  have hnone : ∀ x : Option δ', none = x.bind fun _ => (none : Option δ') := fun x => by cases x <;> rfl
  simp only [memberOfSource, Bind.bind, Except.bind, h.keep, h.keep', field?]
  cases Json.storedString m.1 with
  | error e => exact hnone _
  | ok name =>
    rcases Field.find?_decodes h.fields name with ⟨hf, hg⟩ | ⟨f, g, hf, hg, hfg⟩
    · simp only [hf, hg]
      cases m.2.fault? with
      | some fault => exact hnone _
      | none => exact (Option.bind_fun_some _).symm
    · simp only [hf, hg]
      -- A field that is there is refused in both, whether or not the draft decodes.
      cases hp : f.present a with
      | true =>
        cases hb : decode a with
        | none => rfl
        | some b => simp only [Option.bind_some, hfg.present hb, hp]; rfl
      | false =>
        refine (hfg.read hm hp).trans ?_
        cases hb : decode a with
        | none => rfl
        | some b => simp only [Option.bind_some, hfg.present hb, hp]; rfl

theorem Decodes.members (h : Decodes decode f r t) {d : Nat} : ∀ {ms : List (StringLiteral × Source)} (a : δ),
    (∀ m ∈ ms, m.2.Distinct) → (ms.foldlM (r.memberOfSource d) a).toOption.bind decode =
      (decode a).bind fun b => (ms.foldlM (t.memberOfSource d) b).toOption
  | [], a, _ => (Option.bind_fun_some _).symm
  | m :: ms, a, hms => by
    rw [List.forall_mem_cons] at hms
    have hnext : (fun a => (ms.foldlM (r.memberOfSource d) a).toOption.bind decode) =
        fun a => (decode a).bind fun b => (ms.foldlM (t.memberOfSource d) b).toOption :=
      funext fun a => h.members a hms.2
    simp only [List.foldlM_cons, toOption_bind]
    rw [Option.bind_assoc, hnext, ← Option.bind_assoc, h.member hms.1, Option.bind_assoc]

/-- The fields of the array form are read one after the other, each of them
before it is there. -/
theorem items_decode {d : Nat} {fault : Option Fault} : ∀ {fs : List (Field δ)} {gs : List (Field δ')}
    {xs : List Source} {a : δ}, List.Forall₂ (Field.Decodes decode) fs gs → fs.Pairwise Field.Apart →
      (∀ f ∈ fs, f.present a = false) → (∀ x ∈ xs, x.Distinct) →
      (itemsOfSource d fault fs xs a).toOption.bind decode =
        (decode a).bind fun b => (itemsOfSource d fault gs xs b).toOption
  | [], _, [], a, .nil, _, _, _ => by
    cases fault with
    | some fault => cases decode a <;> rfl
    | none => exact (Option.bind_fun_some _).symm
  | [], _, x :: xs, a, .nil, _, _, _ => by
    cases decode a <;> rfl
  | f :: fs, g :: gs, [], a, .cons hfg hrest, hapart, hfresh, hxs => by
    cases fault with
    | some fault => cases decode a <;> rfl
    | none =>
      simp only [itemsOfSource, hfg.mayBeLeftOut]
      cases f.mayBeLeftOut with
      | true => exact items_decode hrest (List.pairwise_cons.1 hapart).2 (List.forall_mem_cons.1 hfresh).2 hxs
      | false => cases decode a <;> rfl
  | f :: fs, g :: gs, x :: xs, a, .cons hfg hrest, hapart, hfresh, hxs => by
    rw [List.forall_mem_cons] at hfresh hxs
    rw [List.pairwise_cons] at hapart
    -- No item is read over another, so what did not decode stays in the draft.
    have hnext : (f.ofSource d x a).toOption.bind (fun a => (itemsOfSource d fault fs xs a).toOption.bind decode) =
        (f.ofSource d x a).toOption.bind fun a =>
          (decode a).bind fun b => (itemsOfSource d fault gs xs b).toOption := by
      cases ha : f.ofSource d x a with
      | error e => rfl
      | ok a' =>
        have hfresh' : ∀ g ∈ fs, g.present a' = false := fun g hg =>
          ((hapart.1 g hg).right (.ofSource ha)).trans (hfresh.2 g hg)
        exact items_decode hrest hapart.2 hfresh' hxs.2
    simp only [itemsOfSource, toOption_bind, Option.bind_assoc, hnext]
    rw [← Option.bind_assoc, hfg.read hxs.1 hfresh.1, Option.bind_assoc]
termination_by structural fs => fs

/-- A record whose fields are read like those of another, decoded, is read like
the other, decoded. -/
theorem Decodes.reader (h : Decodes decode f r t) : r.reader.Decodes f t.reader := by
  have hfinish : ∀ {x : Except ReadError δ} {y : Except ReadError δ'}, x.toOption.bind decode = y.toOption →
      (y >>= t.finished).toOption = (x >>= r.finished).toOption.bind f := by
    intro x y hxy
    simp only [toOption_bind, toOption_finished, ← hxy, Option.bind_assoc, h.finish]
  have hfault : ∀ {x : Except ReadError δ} {y : Except ReadError δ'} (fault : Option Fault),
      x.toOption.bind decode = y.toOption →
        (x >>= Json.unlessBroken fault).toOption.bind decode = (y >>= Json.unlessBroken fault).toOption := by
    rintro x y (_ | fault) hxy
    · cases x <;> cases y <;> exact hxy
    · cases x <;> cases y <;> rfl
  intro d s hs
  change (t.ofSource d s).toOption = (r.ofSource d s).toOption.bind f
  cases s with
  | object ms fault =>
    cases d with
    | zero => rfl
    | succ d =>
      have hmembers := h.members (d := d) r.empty (Source.distinct_members_iff.1 hs.2)
      rw [h.empty] at hmembers
      have hread := hfinish (hfault fault hmembers)
      simp only [bind_assoc] at hread
      exact hread
  | array xs fault =>
    cases d with
    | zero => simp only [ofSource, h.keep, h.keep']; rfl
    | succ d =>
      have hitems : (itemsOfSource d fault r.fields xs r.empty).toOption.bind decode =
          (decode r.empty).bind fun b => (itemsOfSource d fault t.fields xs b).toOption :=
        items_decode h.fields h.apart h.fresh (Source.distinct_items_iff.1 hs)
      rw [h.empty] at hitems
      simp only [ofSource, h.keep, h.keep']
      exact hfinish hitems
  | _ => rfl

end Record
end GraphCalls
