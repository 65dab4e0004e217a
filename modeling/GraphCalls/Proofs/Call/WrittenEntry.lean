/-
An error entry written again.

What was read of an entry, or of one of its locations, is written in normal
form: parts that are null or empty are left out, a message that is missing is
written as an empty one, locations come down to line and column, and every
other member stays as it is (`ErrorEntry.of_ofJson`). What is written is read
as the same entry again (`ErrorEntry.Written.ofJson`).

Both rest on one equation for each record, which says what it reads from the
members of an object by their names. Stored values list members by their names
and texts by their fields, so what is written is known up to its order only.
-/
import GraphCalls.Proofs.Call.ResponseText
import GraphCalls.Proofs.Json.RecordMembers

namespace GraphCalls

/-! ## Normal forms -/

/-- A member that is there and not null. -/
def Json.given? (ms : List (String × Json)) (name : String) : Option Json :=
  (Entries.get? ms name).filter (· ≠ .null)

/-- A location in normal form: its line and its column. -/
inductive Location.Normal (v : Json) : Json → Prop
  | mk {line column ns} (hline : Entries.get? (v.membersAs ["line", "column"]) "line" = some line)
    (hcolumn : Entries.get? (v.membersAs ["line", "column"]) "column" = some column)
    (h : ns.Perm [("line", line), ("column", column)]) : Normal v (.object ns)

namespace ErrorEntry

/-- The locations of an entry in normal form; none are not written. -/
inductive NormalLocations : Option Json → List (String × Json) → Prop
  | absent : NormalLocations none []
  | empty : NormalLocations (some (.array [])) []
  | present {vs ws} (hne : vs ≠ []) (h : List.Forall₂ Location.Normal vs ws) :
    NormalLocations (some (.array vs)) [("locations", .array ws)]

/-- An entry in normal form: its message, its locations, its path and its
extensions if they are given, and each other member as it is. -/
inductive Normal : Json → Json → Prop
  | mk {ms ns locations} (hlocations : NormalLocations (Entries.get? ms "locations") locations)
    (hdistinct : (ns.map Prod.fst).Nodup)
    (h : ns.Perm (("message", (Entries.get? ms "message").getD (.string "")) ::
      (locations ++ presentMember "path" id (Json.given? ms "path") ++
        presentMember "extensions" id (Json.given? ms "extensions") ++
        ms.filter (·.1 ∉ ["message", "locations", "path", "extensions"])))) :
    Normal (.object ms) (.object ns)

end ErrorEntry

/-! ## Members -/

theorem get?_presentMember {α : Type} (name : String) (f : α → Json) (x : Option α) (k : String) :
    Entries.get? (presentMember name f x) k = if name = k then x.map f else none := by
  cases x with
  | none => simp [presentMember, Entries.get?_nil]
  | some a => simp [presentMember, Entries.get?_cons, Entries.get?_nil]

theorem Entries.sorted_of_get? {ms : List (String × Json)} (hs : ∀ m ∈ ms, m.2.Sorted) {k : String} {v : Json}
    (h : Entries.get? ms k = some v) : v.Sorted := hs _ (Entries.mem_of_get? h)

theorem Json.ofOption_given {ms : List (String × Json)} {name : String} {x : Option Json}
    (h : x.map id = given? ms name) : ofOption id x = (Entries.get? ms name).getD .null := by
  rw [Option.map_id, id, given?] at h
  subst h
  cases Entries.get? ms name with
  | none => rfl
  | some v => cases v <;> rfl

theorem presentMember_map {α : Type} (name : String) (f : α → Json) (x : Option α) :
    presentMember name f x = presentMember name id (x.map f) := by
  cases x <;> rfl

theorem map_sorted_presentMember {α : Type} (name : String) {f : α → Json} {x : Option α}
    (h : ∀ a ∈ x, (f a).sorted = f a) :
    (presentMember name f x).map (fun m => (m.1, m.2.sorted)) = presentMember name f x := by
  cases x with
  | none => rfl
  | some a => simp [presentMember, h a rfl]

/-- A reader that reads values as they are. -/
structure Reader.Exact {α : Type} (r : Reader α) (put : α → Json) : Prop where
  put_eq : ∀ {v a}, r.ofJson v = some a → put a = v
  ofJson_put : ∀ a, r.ofJson (put a) = some a

namespace Reader

variable {α : Type} {r : Reader α} {put : α → Json}

theorem exact_json : json.Exact id := ⟨fun h => (Option.some.inj h).symm, fun _ => rfl⟩

theorem mapM_json : ∀ vs : List Json, vs.mapM json.ofJson = some vs
  | [] => rfl
  | v :: vs => by
    rw [List.mapM_cons, mapM_json vs]
    rfl

theorem exact_list_json : (list json).Exact .array where
  put_eq {v a} h := by
    cases v with
    | array vs => exact congrArg Json.array (Option.some.inj (h.symm.trans (mapM_json vs)))
    | _ => cases h
  ofJson_put := mapM_json

theorem option_ofJson_of_ne_null {v : Json} (hv : v ≠ .null) : (option r).ofJson v = (r.ofJson v).map some := by
  cases v <;> first | exact absurd rfl hv | rfl

/-- What is read of a member that may be null is the member, if it is given. -/
theorem Exact.map_join (h : r.Exact put) {v : Option Json} {x : Option (Option α)}
    (hx : v.mapM (option r).ofJson = some x) : x.join.map put = v.filter (· ≠ .null) := by
  cases v with
  | none =>
    cases hx
    rfl
  | some w =>
    obtain ⟨y, hy, rfl⟩ := Option.map_eq_some_iff.1 hx
    by_cases hw : w = .null
    · subst hw
      cases hy
      rfl
    · rw [option_ofJson_of_ne_null hw] at hy
      obtain ⟨a, ha, rfl⟩ := Option.map_eq_some_iff.1 hy
      rw [Option.filter_some_pos (by simpa using hw)]
      exact congrArg some (h.put_eq ha)

/-- What is written if it is there is read as what it was. -/
theorem Exact.mapM_map (h : r.Exact put) {x : Option α} (hx : ∀ a ∈ x, put a ≠ .null) :
    (x.map put).mapM (option r).ofJson = some (x.map some) := by
  cases x with
  | none => rfl
  | some a =>
    have hread : (option r).ofJson (put a) = some (some a) := by
      rw [option_ofJson_of_ne_null (hx a rfl), h.ofJson_put]
      rfl
    exact mapM_eq_some_some_iff.2 ⟨_, rfl, hread⟩

end Reader

/-! ## Locations -/

namespace Location

variable {ms ns : List (String × Json)} {l : Location} {v w : Json}

/-- What a line or a column can be. -/
theorem coordinate_eq_some_iff {i : Int} :
    coordinate.ofJson v = some i ↔ ∃ n : Nat, n ≤ Bounds.maxUnsigned32 ∧ i = n ∧ v = .ofNat n := by
  constructor
  · intro h
    cases v with
    | number x =>
      cases x with
      | int j =>
        simp only [coordinate, Reader.integer, Option.ite_none_right_eq_some, Option.some.injEq] at h
        obtain ⟨⟨hlo, hhi⟩, rfl⟩ := h
        exact ⟨j.toNat, by omega, by omega, by rw [Json.ofNat, Int.toNat_of_nonneg hlo]⟩
      | float => cases h
    | _ => cases h
  · rintro ⟨n, hn, rfl, rfl⟩
    simp only [coordinate, Reader.integer, Json.ofNat]
    rw [if_pos (by omega)]

/-- A line and a column that can be read. -/
def InBounds (l : Location) : Prop := l.line ≤ Bounds.maxUnsigned32 ∧ l.column ≤ Bounds.maxUnsigned32

/-- A location is read from the members of its two names. -/
theorem ofJson_object_eq_some_iff (hn : (ms.map Prod.fst).Nodup) : record.ofJson (.object ms) = some l ↔
    l.InBounds ∧ Entries.get? ms "line" = some (.ofNat l.line) ∧
      Entries.get? ms "column" = some (.ofNat l.column) := by
  have hfold : ms.foldlM record.memberOfJson record.empty = do
      let line ← (Entries.get? ms "line").mapM coordinate.ofJson
      let column ← (Entries.get? ms "column").mapM coordinate.ofJson
      return ({ line, column } : Draft) := by
    rw [orderly_record.foldlM_fields (by decide) rfl hn]
    change (Entries.named ms "line" ++ (Entries.named ms "column" ++ [])).foldlM _ _ = _
    rw [Record.foldlM_named_append rfl rfl]
    refine congrArg _ (funext fun line => ?_)
    rw [Record.foldlM_named_append rfl (by cases line <;> rfl)]
    refine congrArg _ (funext fun column => ?_)
    cases line <;> cases column <;> rfl
  have hobject : record.ofJson (.object ms) = (ms.foldlM record.memberOfJson record.empty).bind record.finish := rfl
  rw [hobject, hfold]
  constructor
  · intro h
    obtain ⟨d, hd, h⟩ := Option.bind_eq_some_iff.1 h
    obtain ⟨line, hline, hd⟩ := Option.bind_eq_some_iff.1 hd
    obtain ⟨column, hcolumn, hd⟩ := Option.bind_eq_some_iff.1 hd
    cases hd
    obtain ⟨i, rfl, h⟩ := Option.bind_eq_some_iff.1 h
    obtain ⟨j, rfl, h⟩ := Option.bind_eq_some_iff.1 h
    cases h
    obtain ⟨v, hv, hi⟩ := mapM_eq_some_some_iff.1 hline
    obtain ⟨w, hw, hj⟩ := mapM_eq_some_some_iff.1 hcolumn
    obtain ⟨n, hn, rfl, rfl⟩ := coordinate_eq_some_iff.1 hi
    obtain ⟨m, hm, rfl, rfl⟩ := coordinate_eq_some_iff.1 hj
    exact ⟨⟨hn, hm⟩, hv, hw⟩
  · rintro ⟨⟨hline, hcolumn⟩, hv, hw⟩
    rw [hv, hw, mapM_eq_some_some_iff.2 ⟨_, rfl, coordinate_eq_some_iff.2 ⟨_, hline, rfl, rfl⟩⟩,
      mapM_eq_some_some_iff.2 ⟨_, rfl, coordinate_eq_some_iff.2 ⟨_, hcolumn, rfl, rfl⟩⟩]
    rfl

/-- A location as it is written, in whatever order. -/
def Written (l : Location) (w : Json) : Prop :=
  ∃ ns, w = .object ns ∧ ns.Perm [("line", .ofNat l.line), ("column", .ofNat l.column)]

theorem Written.ofJson (h : l.Written w) (hl : l.InBounds) : record.ofJson w = some l := by
  obtain ⟨ns, rfl, hp⟩ := h
  have hn : (ns.map Prod.fst).Nodup := (hp.map Prod.fst).nodup_iff.2 (by simp)
  exact (ofJson_object_eq_some_iff hn).2 ⟨hl, Entries.get?_perm hn hp "line", Entries.get?_perm hn hp "column"⟩

/-- What is read of a location. -/
theorem of_ofJson (hv : v.Sorted) (h : record.ofJson v = some l) : l.InBounds ∧
    Entries.get? (v.membersAs record.names) "line" = some (.ofNat l.line) ∧
      Entries.get? (v.membersAs record.names) "column" = some (.ofNat l.column) := by
  have hfresh : ∀ f ∈ record.fields, f.present record.empty = false := by
    simp only [record, List.forall_mem_cons]
    exact ⟨rfl, rfl, by simp⟩
  exact (ofJson_object_eq_some_iff (Record.nodup_membersAs hv (by decide))).1
    (Record.ofJson_membersAs orderly_record (by decide) hfresh h)

theorem Written.normal (hv : v.Sorted) (h : record.ofJson v = some l) (hw : l.Written w) : Normal v w := by
  obtain ⟨-, hline, hcolumn⟩ := of_ofJson hv h
  obtain ⟨ns, rfl, hp⟩ := hw
  exact .mk hline hcolumn hp

theorem written_toJson (l : Location) : l.Written l.toJson := ⟨_, rfl, .refl _⟩

theorem written_sorted (l : Location) : l.Written l.toJson.sorted :=
  ⟨_, rfl, Json.perm_sortMembers (by simp [Json.sorted.members])⟩

end Location

/-! ## Entries -/

namespace ErrorEntry

variable {ms ns : List (String × Json)} {e : ErrorEntry} {v w : Json}

/-- An entry is read from the members of its four names, and keeps the others. -/
theorem ofJson_object_eq_some_iff (hn : (ms.map Prod.fst).Nodup) : record.ofJson (.object ms) = some e ↔
    ∃ message locations path extensions,
      (Entries.get? ms "message").mapM Reader.string.ofJson = some message ∧
      (Entries.get? ms "locations").mapM (Reader.list Location.record.reader).ofJson = some locations ∧
      (Entries.get? ms "path").mapM (Reader.option (.list .json)).ofJson = some path ∧
      (Entries.get? ms "extensions").mapM (Reader.option .json).ofJson = some extensions ∧
      e = ⟨message.getD "", locations.getD [], path.join, extensions.join,
        Json.sortMembers (ms.filter (·.1 ∉ record.names))⟩ := by
  have hfields : (record.names.flatMap (Entries.named ms)).foldlM record.memberOfJson record.empty = do
      let message ← (Entries.get? ms "message").mapM Reader.string.ofJson
      let locations ← (Entries.get? ms "locations").mapM (Reader.list Location.record.reader).ofJson
      let path ← (Entries.get? ms "path").mapM (Reader.option (.list .json)).ofJson
      let extensions ← (Entries.get? ms "extensions").mapM (Reader.option .json).ofJson
      return ({ message, locations, path, extensions } : Draft) := by
    change (Entries.named ms "message" ++ (Entries.named ms "locations" ++ (Entries.named ms "path" ++
      (Entries.named ms "extensions" ++ [])))).foldlM _ _ = _
    rw [Record.foldlM_named_append rfl rfl]
    refine congrArg _ (funext fun message => ?_)
    rw [Record.foldlM_named_append rfl (by cases message <;> rfl)]
    refine congrArg _ (funext fun locations => ?_)
    rw [Record.foldlM_named_append rfl (by cases message <;> cases locations <;> rfl)]
    refine congrArg _ (funext fun path => ?_)
    rw [Record.foldlM_named_append rfl (by cases message <;> cases locations <;> cases path <;> rfl)]
    refine congrArg _ (funext fun extensions => ?_)
    cases message <;> cases locations <;> cases path <;> cases extensions <;> rfl
  have hothers : ∀ (others : List (String × Json)) (d : Draft),
      others.foldl (fun d m => record.keep.elim d fun keep => keep m.1 m.2 d) d =
        { d with extra := others.foldl (fun acc m => Json.insertMember m.1 m.2 acc) d.extra } := by
    intro others
    induction others with
    | nil => exact fun d => rfl
    | cons m others ih => exact fun d => ih _
  have hobject : record.ofJson (.object ms) = (ms.foldlM record.memberOfJson record.empty).bind record.finish := rfl
  rw [hobject, orderly_record.foldlM_eq (by decide) hn, hfields]
  constructor
  · intro h
    obtain ⟨d, hd, h⟩ := Option.bind_eq_some_iff.1 h
    obtain ⟨fields, hread, hd⟩ := Option.map_eq_some_iff.1 hd
    obtain ⟨message, hmessage, hread⟩ := Option.bind_eq_some_iff.1 hread
    obtain ⟨locations, hlocations, hread⟩ := Option.bind_eq_some_iff.1 hread
    obtain ⟨path, hpath, hread⟩ := Option.bind_eq_some_iff.1 hread
    obtain ⟨extensions, hextensions, hread⟩ := Option.bind_eq_some_iff.1 hread
    cases hread
    rw [hothers] at hd
    subst hd
    exact ⟨message, locations, path, extensions, hmessage, hlocations, hpath, hextensions, (Option.some.inj h).symm⟩
  · rintro ⟨message, locations, path, extensions, hmessage, hlocations, hpath, hextensions, rfl⟩
    rw [hmessage, hlocations, hpath, hextensions]
    exact congrArg (Option.bind · record.finish) (congrArg some (hothers _ _))

/-- What an entry is that was read from a value in order: its locations are in
bounds, its extensions not null, its other members none of its fields, and all
of it is in order. -/
structure AsRead (e : ErrorEntry) : Prop where
  locations : ∀ l ∈ e.locations, l.InBounds
  path : ∀ vs ∈ e.path, (Json.array vs).Sorted
  extensions : ∀ v ∈ e.extensions, v ≠ .null ∧ v.Sorted
  others : ∀ m ∈ e.extra, m.1 ∉ record.names ∧ m.2.Sorted
  inOrder : Json.InOrder e.extra

theorem AsRead.get?_extra (h : e.AsRead) {k : String} (hk : k ∈ record.names) : Entries.get? e.extra k = none := by
  refine Entries.get?_of_not_mem fun hmem => ?_
  obtain ⟨m, hm, rfl⟩ := List.mem_map.1 hmem
  exact (h.others m hm).1 hk

/-- The members of an entry's fields, its locations as they are written. -/
def fieldMembers (e : ErrorEntry) (locations : List Json) : List (String × Json) :=
  ("message", .string e.message) ::
    ((if e.locations.isEmpty then [] else [("locations", .array locations)]) ++
      presentMember "path" .array e.path ++ presentMember "extensions" id e.extensions)

/-- An entry as it is written, in whatever order. -/
def Written (e : ErrorEntry) (w : Json) : Prop :=
  ∃ ns locations, w = .object ns ∧ List.Forall₂ Location.Written e.locations locations ∧
    ns.Perm (e.fieldMembers locations ++ e.extra)

theorem map_fst_fieldMembers_sublist (e : ErrorEntry) (locations : List Json) :
    ((e.fieldMembers locations).map Prod.fst).Sublist record.names := by
  rw [fieldMembers]
  cases e.locations.isEmpty <;> cases e.path <;> cases e.extensions <;>
    simp [presentMember, record, Record.names, Field.of]

theorem AsRead.nodup_members (h : e.AsRead) (locations : List Json) :
    ((e.fieldMembers locations ++ e.extra).map Prod.fst).Nodup := by
  have hfields := map_fst_fieldMembers_sublist e locations
  rw [List.map_append, List.nodup_append]
  refine ⟨hfields.nodup (by decide), h.inOrder.imp ne_of_lt, fun k hk l hl => ?_⟩
  rintro rfl
  obtain ⟨m, hm, rfl⟩ := List.mem_map.1 hl
  exact (h.others m hm).1 (hfields.subset hk)

theorem AsRead.get?_members (h : e.AsRead) (locations : List Json) {k : String} (hk : k ∈ record.names) :
    Entries.get? (e.fieldMembers locations ++ e.extra) k = Entries.get? (e.fieldMembers locations) k := by
  rw [Entries.get?_append, h.get?_extra hk, Option.or_none]

/-- The members that are no fields are the entry's own. -/
theorem AsRead.filter_members (h : e.AsRead) (locations : List Json) :
    (e.fieldMembers locations ++ e.extra).filter (·.1 ∉ record.names) = e.extra := by
  have hfields : (e.fieldMembers locations).filter (·.1 ∉ record.names) = [] := by
    refine List.filter_eq_nil_iff.2 fun m hm => ?_
    simpa using (map_fst_fieldMembers_sublist e locations).subset (List.mem_map_of_mem hm)
  rw [List.filter_append, hfields, List.nil_append, List.filter_eq_self]
  exact fun m hm => by simpa using (h.others m hm).1

theorem get?_fieldMembers (e : ErrorEntry) (locations : List Json) :
    Entries.get? (e.fieldMembers locations) "message" = some (.string e.message) ∧
    Entries.get? (e.fieldMembers locations) "locations" =
      (if e.locations.isEmpty then none else some (.array locations)) ∧
    Entries.get? (e.fieldMembers locations) "path" = e.path.map .array ∧
    Entries.get? (e.fieldMembers locations) "extensions" = e.extensions.map id := by
  rw [fieldMembers]
  cases e.locations.isEmpty <;> simp [Entries.get?_cons, Entries.get?_append, get?_presentMember]

/-- What is written of an entry is read as the entry. -/
theorem Written.ofJson (h : e.Written w) (he : e.AsRead) : record.ofJson w = some e := by
  obtain ⟨ns, locations, rfl, hlocations, hp⟩ := h
  have hn : (ns.map Prod.fst).Nodup := (hp.map Prod.fst).nodup_iff.2 (he.nodup_members locations)
  have hget : ∀ k ∈ record.names, Entries.get? ns k = Entries.get? (e.fieldMembers locations) k := fun k hk =>
    (Entries.get?_perm hn hp k).trans (he.get?_members locations hk)
  obtain ⟨hmessage, hlocs, hpath, hextensions⟩ := get?_fieldMembers e locations
  have hread : locations.mapM Location.record.ofJson = some e.locations := by
    have hall := (List.forall₂_and_left _ _).2 ⟨he.locations, hlocations⟩
    exact mapM_eq_some_iff.2 (hall.imp fun l w hl => hl.2.ofJson hl.1).flip
  have hothers : Json.sortMembers (ns.filter (·.1 ∉ record.names)) = e.extra := by
    have hfilter := hp.filter (·.1 ∉ record.names)
    rw [he.filter_members] at hfilter
    exact Json.sortMembers_eq_of_perm hfilter he.inOrder
  rw [ofJson_object_eq_some_iff hn, hget "message" (by decide), hget "locations" (by decide), hget "path" (by decide),
    hget "extensions" (by decide), hmessage, hlocs, hpath, hextensions, hothers]
  refine ⟨some e.message, if e.locations.isEmpty then none else some e.locations, e.path.map some,
    e.extensions.map some, rfl, ?_, Reader.exact_list_json.mapM_map (by simp), Reader.exact_json.mapM_map ?_, ?_⟩
  · split
    · rfl
    · exact mapM_eq_some_some_iff.2 ⟨_, rfl, hread⟩
  · rintro v hv rfl
    exact (he.extensions _ hv).1 rfl
  · obtain ⟨message, locations, path, extensions, extra⟩ := e
    cases locations <;> cases path <;> cases extensions <;> rfl

/-- The locations that are read of an entry, and what is written of them. -/
theorem locations_of_read {locations : Option (List Location)} (hs : ∀ m ∈ ms, m.2.Sorted)
    (h : (Entries.get? ms "locations").mapM (Reader.list Location.record.reader).ofJson = some locations) :
    (∀ l ∈ locations.getD [], l.InBounds) ∧
      ∀ ws, List.Forall₂ Location.Written (locations.getD []) ws →
        NormalLocations (Entries.get? ms "locations")
          (if (locations.getD []).isEmpty then [] else [("locations", .array ws)]) := by
  cases hget : Entries.get? ms "locations" with
  | none =>
    rw [hget] at h
    cases h
    exact ⟨by simp, fun ws _ => .absent⟩
  | some v =>
    rw [hget] at h
    obtain ⟨ls, hls, rfl⟩ := Option.map_eq_some_iff.1 h
    cases v with
    | array vs =>
      have hsorted : ∀ v ∈ vs, v.Sorted := Json.sorted_items_iff.1 (Entries.sorted_of_get? hs hget)
      have hread : List.Forall₂ (fun v l => v.Sorted ∧ Location.record.ofJson v = some l) vs ls :=
        (List.forall₂_and_left _ _).2 ⟨hsorted, mapM_eq_some_iff.1 hls⟩
      constructor
      · intro l hl
        obtain ⟨v, -, hv⟩ := exists_mem_of_forall₂ hread.flip hl
        exact (Location.of_ofJson hv.1 hv.2).1
      · intro ws hws
        have hnormal : List.Forall₂ Location.Normal vs ws :=
          forall₂_comp hread hws fun v l w hv hw => hw.normal hv.1 hv.2
        cases hread with
        | nil => exact .empty
        | cons => exact .present (by simp) hnormal
    | _ => cases hls

theorem message_of_read {message : Option String}
    (h : (Entries.get? ms "message").mapM Reader.string.ofJson = some message) :
    Json.string (message.getD "") = (Entries.get? ms "message").getD (.string "") := by
  cases hget : Entries.get? ms "message" with
  | none =>
    rw [hget] at h
    cases h
    rfl
  | some v =>
    rw [hget] at h
    obtain ⟨s, hs, rfl⟩ := Option.map_eq_some_iff.1 h
    cases v with
    | string t =>
      cases hs
      rfl
    | _ => cases hs

/-- An entry that was read of a value in order, and what is written of it. -/
theorem of_ofJson (hv : v.Sorted) (h : record.ofJson v = some e) : e.AsRead ∧ ∀ w, e.Written w → Normal v w := by
  cases v with
  | object ms =>
    have hs := Json.sorted_members_iff.1 hv.2
    obtain ⟨message, locations, path, extensions, hmessage, hlocations, hpath, hextensions, he⟩ :=
      (ofJson_object_eq_some_iff (hv.1.imp ne_of_lt)).1 h
    have hothers : Json.sortMembers (ms.filter (·.1 ∉ record.names)) = ms.filter (·.1 ∉ record.names) :=
      Json.sortMembers_of_inOrder (hv.1.sublist (List.filter_sublist.map Prod.fst))
    rw [hothers] at he
    have hgivenPath : path.join.map .array = Json.given? ms "path" := Reader.exact_list_json.map_join hpath
    have hgivenExtensions : extensions.join.map id = Json.given? ms "extensions" :=
      Reader.exact_json.map_join hextensions
    obtain ⟨hbounds, hnormal⟩ := locations_of_read hs hlocations
    subst he
    have hread : AsRead ⟨message.getD "", locations.getD [], path.join, extensions.join,
        ms.filter (·.1 ∉ record.names)⟩ := by
      refine ⟨hbounds, fun vs hvs => ?_, fun x hx => ?_, fun m hm => ?_, ?_⟩
      · have hpath := hgivenPath.symm.trans (congrArg (Option.map Json.array) hvs)
        exact Entries.sorted_of_get? hs (Option.filter_eq_some_iff.1 hpath).1
      · have hextensions := hgivenExtensions.symm.trans (congrArg (Option.map id) hx)
        obtain ⟨hx, hne⟩ := Option.filter_eq_some_iff.1 hextensions
        exact ⟨by simpa using hne, Entries.sorted_of_get? hs hx⟩
      · obtain ⟨hm, hne⟩ := List.mem_filter.1 hm
        exact ⟨by simpa using hne, hs m hm⟩
      · exact hv.1.sublist (List.filter_sublist.map Prod.fst)
    refine ⟨hread, ?_⟩
    rintro w ⟨ns, ls, rfl, hls, hp⟩
    refine .mk (hnormal ls hls) ((hp.map Prod.fst).nodup_iff.2 (hread.nodup_members ls)) ?_
    rw [fieldMembers, presentMember_map "path", presentMember_map "extensions", hgivenPath, hgivenExtensions,
      message_of_read hmessage] at hp
    exact hp
  | _ => cases h

theorem written_toJson (e : ErrorEntry) : e.Written e.toJson := by
  refine ⟨_, e.locations.map Location.toJson, rfl, ?_, .refl _⟩
  exact List.forall₂_map_right_iff.2 (List.forall₂_same.2 fun l _ => l.written_toJson)

theorem AsRead.written_sorted (h : e.AsRead) : e.Written e.toJson.sorted := by
  have hfields : (e.fieldMembers (e.locations.map Location.toJson)).map (fun m => (m.1, m.2.sorted)) =
      e.fieldMembers (e.locations.map fun l => l.toJson.sorted) := by
    have hpath := map_sorted_presentMember "path" fun vs hvs => Json.sorted_of_sorted (h.path vs hvs)
    have hextensions := map_sorted_presentMember "extensions" (f := id)
      fun v hv => Json.sorted_of_sorted (h.extensions v hv).2
    have hlocations : Json.sorted.items (e.locations.map Location.toJson) =
        e.locations.map fun l => l.toJson.sorted := by
      rw [Json.sorted_items_eq_map, List.map_map]
      rfl
    rw [fieldMembers, fieldMembers, List.map_cons, List.map_append, List.map_append, hpath, hextensions]
    cases e.locations.isEmpty <;> simp [hlocations, Json.sorted]
  have hextra : e.extra.map (fun m => (m.1, m.2.sorted)) = e.extra := by
    refine (List.map_congr_left fun m hm => ?_).trans (List.map_id _)
    exact Prod.ext rfl (Json.sorted_of_sorted (h.others m hm).2)
  have hsorted : e.toJson.sorted =
      .ofMembers (e.fieldMembers (e.locations.map fun l => l.toJson.sorted) ++ e.extra) := by
    change Json.ofMembers (Json.sorted.members (e.fieldMembers (e.locations.map Location.toJson) ++ e.extra)) = _
    rw [Json.sorted_members_eq_map, List.map_append, hfields, hextra]
  refine ⟨_, _, hsorted, ?_, Json.perm_sortMembers (h.nodup_members _)⟩
  exact List.forall₂_map_right_iff.2 (List.forall₂_same.2 fun l _ => l.written_sorted)

end ErrorEntry

end GraphCalls
