/-
Reading a text at once, and reading the value that is stored of it.

Read at once, the members of an object come in the order of the text; the
stored value has them sorted. Where no object repeats a name that makes no
difference to a record whose fields are kept apart in its draft, and so both
ways come to the same (`Record.agrees`).
-/
import GraphCalls.Proofs.Json.Records
import Mathlib.Data.List.Pairwise

namespace GraphCalls

/-! ## Trees without repeated names -/

namespace Source

/-- No object repeats a name. A name that has no string is like no other. -/
def Distinct : Source → Prop
  | .array xs _ => items xs
  | .object ms _ => (ms.filterMap (·.1.value?)).Nodup ∧ members ms
  | _ => True
where
  items : List Source → Prop
    | [] => True
    | x :: xs => Distinct x ∧ items xs
  members : List (StringLiteral × Source) → Prop
    | [] => True
    | (_, x) :: ms => Distinct x ∧ members ms

instance decidableDistinct : (s : Source) → Decidable s.Distinct
  | .null | .bool _ | .number _ | .string _ | .broken _ => isTrue trivial
  | .array xs _ => items xs
  | .object ms _ => @instDecidableAnd _ _ inferInstance (members ms)
where
  items : (xs : List Source) → Decidable (Distinct.items xs)
    | [] => isTrue trivial
    | x :: xs => @instDecidableAnd _ _ (decidableDistinct x) (items xs)
  members : (ms : List (StringLiteral × Source)) → Decidable (Distinct.members ms)
    | [] => isTrue trivial
    | (_, x) :: ms => @instDecidableAnd _ _ (decidableDistinct x) (members ms)

theorem distinct_items_iff : ∀ {xs : List Source}, Distinct.items xs ↔ ∀ x ∈ xs, x.Distinct
  | [] => by simp [Distinct.items]
  | x :: xs => by rw [Distinct.items, distinct_items_iff, List.forall_mem_cons]

theorem distinct_members_iff : ∀ {ms : List (StringLiteral × Source)},
    Distinct.members ms ↔ ∀ m ∈ ms, m.2.Distinct
  | [] => by simp [Distinct.members]
  | m :: ms => by rw [Distinct.members, distinct_members_iff, List.forall_mem_cons]

end Source

/-! ## What is stored -/

namespace Json

/-- A tree and the value that is stored of it, by their outermost level. -/
inductive Stores : Nat → Source → Json → Prop
  | null (d : Nat) : Stores d .null .null
  | bool (d : Nat) (b : Bool) : Stores d (.bool b) (.bool b)
  | number (d : Nat) {l : NumberLiteral} {n : Number} (h : l.value? = some n) : Stores d (.number l) (.number n)
  | string (d : Nat) {l : StringLiteral} {s : String} (h : l.value? = some s) : Stores d (.string l) (.string s)
  | array {d : Nat} {xs : List Source} {vs : List Json} (h : List.Forall₂ (fun x v => ofSource d x = .ok v) xs vs) :
    Stores (d + 1) (.array xs none) (.array vs)
  | object {d : Nat} {ms : List (StringLiteral × Source)} {vs : List (String × Json)}
    (h : List.Forall₂ (Reader.json.Reads d) ms vs) : Stores (d + 1) (.object ms none) (.ofMembers vs)

theorem items_eq_mapM (d : Nat) : ∀ xs : List Source, ofSource.items d xs = xs.mapM (ofSource d)
  | [] => rfl
  | x :: xs => by rw [ofSource.items, List.mapM_cons, items_eq_mapM]

theorem members_eq_mapM (d : Nat) : ∀ ms : List (StringLiteral × Source),
    ofSource.members d ms = ms.mapM (Reader.json.member d)
  | [] => rfl
  | (k, x) :: ms => by
    have hjson : Reader.json.ofSource d x = ofSource d x := rfl
    rw [ofSource.members, List.mapM_cons, members_eq_mapM, Reader.member, hjson]
    cases storedString k with
    | error e => rfl
    | ok name => cases ofSource d x <;> rfl

theorem stores_of_ofSource : {d : Nat} → {s : Source} → {v : Json} → ofSource d s = .ok v → Stores d s v
  | d, .null, v, h => by
    cases h
    exact .null d
  | d, .bool b, v, h => by
    cases h
    exact .bool d b
  | d, .number l, v, h => by
    rw [ofSource] at h
    split at h
    next n hn =>
      cases h
      exact .number d hn
    · cases h
  | d, .string l, v, h => by
    obtain ⟨s, hs, rfl⟩ := map_eq_ok_iff.1 h
    exact .string d (storedString_eq_ok_iff.1 hs)
  | 0, .array xs fault, v, h | 0, .object ms fault, v, h => by cases h
  | d + 1, .array xs fault, v, h => by
    rw [ofSource, items_eq_mapM, bind_eq_ok_iff] at h
    obtain ⟨vs, hvs, h⟩ := h
    obtain ⟨rfl, rfl⟩ := unlessBroken_eq_ok_iff.1 h
    exact .array (mapM_eq_ok_iff.1 hvs)
  | d + 1, .object ms fault, v, h => by
    rw [ofSource, members_eq_mapM, bind_eq_ok_iff] at h
    obtain ⟨vs, hvs, h⟩ := h
    obtain ⟨rfl, rfl⟩ := unlessBroken_eq_ok_iff.1 h
    exact .object ((mapM_eq_ok_iff.1 hvs).imp fun _ _ => Reader.member_eq_ok_iff.1)
  | d, .broken fault, v, h => by cases h

/-- What is stored is not broken. -/
theorem Stores.fault?_eq_none {d : Nat} {s : Source} {v : Json} (h : Stores d s v) : s.fault? = none := by
  cases h <;> rfl

/-- The names of an object that is stored. -/
theorem map_fst_of_reads {α : Type} {r : Reader α} {d : Nat} {ms : List (StringLiteral × Source)}
    {es : List (String × α)} (h : List.Forall₂ (r.Reads d) ms es) : es.map Prod.fst = ms.filterMap (·.1.value?) := by
  induction h with
  | nil => rfl
  | cons hm _ ih => rw [List.map_cons, List.filterMap_cons, hm.1, ih]

end Json

/-! ## Readers -/

namespace Reader

variable {α : Type} {r : Reader α}

/-- A reader makes the same of a tree and of the value that is stored of it. -/
def Agrees (r : Reader α) : Prop :=
  ∀ ⦃d s v⦄, s.Distinct → Json.ofSource d s = .ok v → (r.ofSource d s).toOption = r.ofJson v

theorem agrees_json : json.Agrees := fun _ _ _ _ h => congrArg Except.toOption h

theorem agrees_string : string.Agrees := by
  intro d s v _ h
  cases Json.stores_of_ofSource h with
  | string d hs => exact congrArg Except.toOption (Json.storedString_eq_ok_iff.2 hs)
  | _ => rfl

theorem agrees_integer (lo hi : Int) : (integer lo hi).Agrees := by
  intro d s v _ h
  cases Json.stores_of_ofSource h with
  | @number d l n hn =>
    simp only [integer, hn]
    cases n with
    | int i => by_cases hi : lo ≤ i ∧ i ≤ hi <;> simp [hi, Except.toOption]
    | float x => rfl
  | _ => rfl

theorem Agrees.option (hr : r.Agrees) : (option r).Agrees := by
  intro d s v hs h
  have hread : ((r.ofSource d s).map some).toOption = (r.ofJson v).map some := by rw [toOption_map, hr hs h]
  cases Json.stores_of_ofSource h with
  | null d => rfl
  | _ => exact hread

theorem Agrees.list (hr : r.Agrees) : (list r).Agrees := by
  intro d s v hs h
  cases Json.stores_of_ofSource h with
  | @array d xs vs hvs =>
    have hread : List.Forall₂ (fun x v => (r.ofSource d x).toOption = r.ofJson v) xs vs :=
      ((List.forall₂_and_left _ _).2 ⟨Source.distinct_items_iff.1 hs, hvs⟩).imp fun _ _ hx => hr hx.1 hx.2
    change (xs.mapM (r.ofSource d) >>= Json.unlessBroken none).toOption = vs.mapM r.ofJson
    rw [← toOption_mapM hread]
    cases xs.mapM (r.ofSource d) <;> rfl
  | _ => rfl

end Reader

/-! ## Fields and records -/

namespace Field

variable {α β δ : Type} {f g : Field δ}

/-- A field reads the same from a tree and from what is stored of it. -/
def Agrees (f : Field δ) : Prop :=
  ∀ ⦃d s v a⦄, s.Distinct → Json.ofSource d s = .ok v → (f.ofSource d s a).toOption = f.ofJson v a

theorem agrees_of {name : String} {mayBeLeftOut : Bool} {r : Reader α} {get : δ → Option α} {set : α → δ → δ}
    (hr : r.Agrees) : (Field.of name mayBeLeftOut r get set).Agrees := by
  intro d s v a hs h
  rw [Field.of, toOption_map, hr hs h]

/-- A field that is read, from a tree or a value, makes one draft of another. -/
inductive Sets (f : Field δ) (a b : δ) : Prop
  | ofSource {d : Nat} {s : Source} (h : f.ofSource d s a = .ok b)
  | ofJson {v : Json} (h : f.ofJson v a = some b)

/-- Two fields have places of their own in a draft: neither changes whether the
other is there, and they may be read in either order. -/
structure Apart (f g : Field δ) : Prop where
  right : ∀ {a b}, f.Sets a b → g.present b = g.present a
  left : ∀ {a b}, g.Sets a b → f.present b = f.present a
  comm : ∀ v w a, (f.ofJson v a).bind (g.ofJson w) = (g.ofJson w a).bind (f.ofJson v)

instance : Std.Symm (@Apart δ) := ⟨fun _ _ h => ⟨h.left, h.right, fun v w a => (h.comm w v a).symm⟩⟩

/-- Fields that are apart may be read in either order, each if it is not there
yet. -/
theorem Apart.exchange (h : f.Apart g) (v w : Json) (a : δ) :
    (if f.present a then none else f.ofJson v a).bind (fun b => if g.present b then none else g.ofJson w b) =
      (if g.present a then none else g.ofJson w a).bind fun b => if f.present b then none else f.ofJson v b := by
  have hf : (f.ofJson v a).bind (fun b => if g.present b then none else g.ofJson w b) =
      if g.present a then none else (f.ofJson v a).bind (g.ofJson w) := by
    cases hb : f.ofJson v a with
    | none => cases g.present a <;> rfl
    | some b => simp only [Option.bind_some, h.right (.ofJson hb)]
  have hg : (g.ofJson w a).bind (fun b => if f.present b then none else f.ofJson v b) =
      if f.present a then none else (g.ofJson w a).bind (f.ofJson v) := by
    cases hb : g.ofJson w a with
    | none => cases f.present a <;> rfl
    | some b => simp only [Option.bind_some, h.left (.ofJson hb)]
  cases hfa : f.present a <;> cases hga : g.present a <;> simp [hf, hg, hfa, hga, h.comm]

theorem exists_of_sets_of {name : String} {mayBeLeftOut : Bool} {r : Reader α} {get : δ → Option α} {set : α → δ → δ}
    {a b : δ} (h : (Field.of name mayBeLeftOut r get set).Sets a b) : ∃ x, set x a = b := by
  cases h with
  | ofSource h =>
    obtain ⟨x, -, hx⟩ := map_eq_ok_iff.1 h
    exact ⟨x, hx⟩
  | ofJson h =>
    obtain ⟨x, -, hx⟩ := Option.map_eq_some_iff.1 h
    exact ⟨x, hx⟩

theorem apart_of {name name' : String} {b b' : Bool} {r : Reader α} {r' : Reader β} {get : δ → Option α}
    {get' : δ → Option β} {set : α → δ → δ} {set' : β → δ → δ} (hright : ∀ x a, get' (set x a) = get' a)
    (hleft : ∀ y a, get (set' y a) = get a) (hset : ∀ x y a, set' y (set x a) = set x (set' y a)) :
    (Field.of name b r get set).Apart (Field.of name' b' r' get' set') where
  right {a b} h := by
    obtain ⟨x, rfl⟩ := exists_of_sets_of h
    exact congrArg Option.isSome (hright x a)
  left {a b} h := by
    obtain ⟨y, rfl⟩ := exists_of_sets_of h
    exact congrArg Option.isSome (hleft y a)
  comm v w a := by
    simp only [Field.of]
    cases r.ofJson v with
    | none => cases r'.ofJson w <;> rfl
    | some x =>
      cases r'.ofJson w with
      | none => rfl
      | some y => exact congrArg some (hset x y a)

end Field

namespace Record

variable {δ α : Type} {r : Record δ α}

/-- The parts of a draft are apart: those of the fields from each other and
from other members where these are kept. -/
structure Orderly (r : Record δ α) : Prop where
  fields : r.fields.Pairwise Field.Apart
  keepField : ∀ keep ∈ r.keep, ∀ f ∈ r.fields, ∀ name v a,
    f.present (keep name v a) = f.present a ∧ ∀ w, f.ofJson w (keep name v a) = (f.ofJson w a).map (keep name v)
  keepKeep : ∀ keep ∈ r.keep, ∀ k l v w a, k ≠ l → keep k v (keep l w a) = keep l w (keep k v a)

theorem orderly_of_keep_eq_none (h : r.keep = none) (hfields : r.fields.Pairwise Field.Apart) : r.Orderly where
  fields := hfields
  keepField keep hk := absurd (h ▸ hk) (Option.not_mem_none keep)
  keepKeep keep hk := absurd (h ▸ hk) (Option.not_mem_none keep)

theorem Orderly.apart (h : r.Orderly) {f g : Field δ} (hf : f ∈ r.fields) (hg : g ∈ r.fields) (hne : f ≠ g) :
    f.Apart g := h.fields.forall hf hg hne

/-- A field and another member may be read in either order. -/
theorem Orderly.field_keep (h : r.Orderly) {f : Field δ} (hf : f ∈ r.fields) {keep : String → Json → δ → δ}
    (hkeep : r.keep = some keep) (v w : Json) (name : String) (a : δ) :
    (if f.present a then none else f.ofJson v a).bind (fun b => some (keep name w b)) =
      if f.present (keep name w a) then none else f.ofJson v (keep name w a) := by
  obtain ⟨hpresent, hread⟩ := h.keepField keep hkeep f hf name w a
  rw [hpresent, hread]
  split
  · rfl
  · rw [Option.map_eq_bind]
    rfl

/-- Members of different names may be read in either order. -/
theorem Orderly.comm (h : r.Orderly) {m n : String × Json} (hne : m.1 ≠ n.1) (a : δ) :
    (r.memberOfJson a m).bind (r.memberOfJson · n) = (r.memberOfJson a n).bind (r.memberOfJson · m) := by
  have hname : ∀ {name f}, r.field? name = some f → f ∈ r.fields ∧ f.name = name := fun hf =>
    ⟨List.mem_of_find?_eq_some hf, by simpa using List.find?_some hf⟩
  simp only [memberOfJson]
  cases hf : r.field? m.1 with
  | some f =>
    obtain ⟨hfmem, hfname⟩ := hname hf
    cases hg : r.field? n.1 with
    | some g =>
      obtain ⟨hgmem, hgname⟩ := hname hg
      have hapart := h.apart hfmem hgmem fun he => hne (by rw [← hfname, ← hgname, he])
      exact hapart.exchange m.2 n.2 a
    | none =>
      cases hkeep : r.keep with
      | none => exact Option.bind_fun_some _
      | some keep => exact h.field_keep hfmem hkeep m.2 n.2 n.1 a
  | none =>
    cases hg : r.field? n.1 with
    | some g =>
      obtain ⟨hgmem, hgname⟩ := hname hg
      cases hkeep : r.keep with
      | none => exact (Option.bind_fun_some _).symm
      | some keep => exact (h.field_keep hgmem hkeep n.2 m.2 m.1 a).symm
    | none =>
      cases hkeep : r.keep with
      | none => rfl
      | some keep => exact congrArg some (h.keepKeep keep hkeep n.1 m.1 n.2 m.2 a (Ne.symm hne))

/-- Members of different names may be read in any order. -/
theorem Orderly.foldlM_perm (h : r.Orderly) {ms ms' : List (String × Json)} (hn : (ms.map Prod.fst).Nodup)
    (hp : ms.Perm ms') (a : δ) : ms.foldlM r.memberOfJson a = ms'.foldlM r.memberOfJson a := by
  refine GraphCalls.foldlM_perm hp (fun m hm n hn' a => ?_) a
  by_cases hne : m.1 = n.1
  · rw [List.inj_on_of_nodup_map hn hm hn' hne]
  · exact h.comm hne a

theorem member_agrees (hfields : ∀ f ∈ r.fields, f.Agrees) {d : Nat} {m : StringLiteral × Source} {n : String × Json}
    (hm : m.2.Distinct) (h : Reader.json.Reads d m n) (a : δ) :
    (r.memberOfSource d a m).toOption = r.memberOfJson a n := by
  have hvalue : Json.ofSource d m.2 = .ok n.2 := h.2
  rw [memberOfSource, memberOfJson, Json.storedString_eq_ok_iff.2 h.1]
  simp only [Bind.bind, Except.bind]
  cases hf : r.field? n.1 with
  | some f =>
    dsimp only
    split
    · rfl
    · exact hfields f (List.mem_of_find?_eq_some hf) hm hvalue
  | none =>
    cases r.keep with
    | some keep =>
      simp only [hvalue]
      rfl
    | none =>
      simp only [(Json.stores_of_ofSource hvalue).fault?_eq_none]
      rfl

theorem items_agree {d : Nat} : ∀ {fs : List (Field δ)} {xs : List Source} {vs : List Json} {a : δ},
    (∀ f ∈ fs, f.Agrees) → (∀ x ∈ xs, x.Distinct) → List.Forall₂ (fun x v => Json.ofSource d x = .ok v) xs vs →
      (itemsOfSource d none fs xs a).toOption = itemsOfJson fs vs a
  | [], _, _, a, _, _, .nil => rfl
  | [], _, _, a, _, _, .cons _ _ => rfl
  | f :: fs, _, _, a, hfields, hdistinct, .nil => by
    rw [itemsOfSource, itemsOfJson]
    split
    · exact items_agree (List.forall_mem_cons.1 hfields).2 hdistinct .nil
    · rfl
  | f :: fs, x :: xs, v :: vs, a, hfields, hdistinct, .cons hv hvs => by
    rw [List.forall_mem_cons] at hfields hdistinct
    rw [itemsOfSource, itemsOfJson, toOption_bind, hfields.1 hdistinct.1 hv]
    exact congrArg _ (funext fun b => items_agree hfields.2 hdistinct.2 hvs)

theorem toOption_finished (a : δ) : (r.finished a).toOption = r.finish a := by
  rw [finished]
  cases r.finish a <;> rfl

/-- A record comes to the same from a tree without repeated names and from the
value that is stored of it, if its fields do. -/
theorem agrees (hfields : ∀ f ∈ r.fields, f.Agrees) (horderly : r.Orderly) : r.reader.Agrees := by
  intro d s v hs h
  cases Json.stores_of_ofSource h with
  | @array d xs vs hvs =>
    have hitems : ∀ a, (itemsOfSource d none r.fields xs a).toOption = itemsOfJson r.fields vs a :=
      fun a => items_agree hfields (Source.distinct_items_iff.1 hs) hvs
    change (r.ofSource (d + 1) (.array xs none)).toOption = r.ofJson (.array vs)
    cases hkeep : r.keep with
    | some keep =>
      simp only [ofSource, ofJson, hkeep]
      rfl
    | none =>
      simp only [ofSource, ofJson, hkeep, toOption_bind, hitems, toOption_finished]
      rfl
  | @object d ms vs hvs =>
    have hnodup : (vs.map Prod.fst).Nodup := Json.map_fst_of_reads hvs ▸ hs.1
    have hread : List.Forall₂ (fun m n => ∀ a, (r.memberOfSource d a m).toOption = r.memberOfJson a n) ms vs :=
      ((List.forall₂_and_left _ _).2 ⟨Source.distinct_members_iff.1 hs.2, hvs⟩).imp
        fun _ _ hm => member_agrees hfields hm.1 hm.2
    have hsort := horderly.foldlM_perm hnodup (Json.perm_sortMembers hnodup).symm r.empty
    change (r.ofSource (d + 1) (.object ms none)).toOption = r.ofJson (.ofMembers vs)
    rw [Json.ofMembers, ofJson, ← hsort, ← toOption_foldlM hread, ofSource]
    simp only [toOption_bind, Json.unlessBroken, toOption_finished]
    rfl
  | _ => rfl

end Record
end GraphCalls
