/-
Profiles that are stored, and loaded again.

What was loaded is sound: names are distinct, and deadlines are numbers of 64
bits (`sound_of_ofText?`). The text of a sound store holds one table for each
profile, so the store is loaded as it was, in the order of the names
(`ofText?_text`).
-/
import GraphCalls.Command.ProfileStore
import GraphCalls.Proofs.Json.RecordMembers
import GraphCalls.Proofs.Toml.Ordered
import GraphCalls.Proofs.Toml.Tables

namespace GraphCalls

open Toml

namespace Profile

variable {p : Profile} {name : String} {root : Layout}

/-- No header comes twice, and the deadline fits 64 bits. -/
structure Sound (p : Profile) : Prop where
  headers : (p.headers.map Prod.fst).Nodup
  timeout : ∀ n ∈ p.timeout, n ≤ Bounds.maxUnsigned64

/-- A profile with its headers in the order of their names. -/
def inOrder (p : Profile) : Profile := { p with headers := Json.sortMembers p.headers }

/-! ## Written -/

/-- The headers as settings. -/
def headerSettings (p : Profile) : List (String × Setting) := p.headers.map fun h => (h.1, .string h.2)

/-- What stands under the name of a profile. -/
def entries (p : Profile) : Layout :=
  Section.nodes p.ownSettings ++
    if p.headers.isEmpty then [] else [("headers", .table .opened (Section.nodes p.headerSettings))]

theorem ownSettings_names (p : Profile) :
    (p.ownSettings.map Prod.fst).Nodup ∧ "headers" ∉ p.ownSettings.map Prod.fst := by
  obtain ⟨endpoint, timeout, headers⟩ := p
  cases endpoint <;> cases timeout <;> simp [ownSettings]

theorem enter_own (h : name ∉ root.map Prod.fst) (above : List String) :
    Section.enter ⟨above, root⟩ ⟨[name], p.ownSettings⟩ =
      some ⟨[name], root ++ [(name, .table .opened (Section.nodes p.ownSettings))]⟩ := by
  have haround : ∀ f inner, Layout.within f [name] (root ++ [(name, .table .opened inner)]) =
      (f inner).map fun inner => root ++ [(name, .table .opened inner)] := fun f inner => Layout.within_last f h
  have hfill := Section.foldlM_fill _ haround p.ownSettings [] (by simpa using (ownSettings_names p).1)
  rw [Section.enter, Layout.declare_new h]
  simp only [Option.bind_eq_bind, Option.bind_some, hfill]
  rfl

/-- The table of the headers is filled once it is open. -/
theorem enter_headers (hp : p.Sound) (h : name ∉ root.map Prod.fst) {before : Layout} {o : Origin} {inner : Layout}
    (hinner : "headers" ∉ inner.map Prod.fst)
    (hdeclare : before.declare Layout.openTable [name, "headers"] =
      some (root ++ [(name, .table o (inner ++ [("headers", .table .opened [])]))])) (above : List String) :
    Section.enter ⟨above, before⟩ ⟨[name, "headers"], p.headerSettings⟩ =
      some ⟨[name, "headers"],
        root ++ [(name, .table o (inner ++ [("headers", .table .opened (Section.nodes p.headerSettings))]))]⟩ := by
  have hnames : (p.headerSettings.map Prod.fst).Nodup := by
    simpa [headerSettings, List.map_map, Function.comp_def] using hp.headers
  have haround : ∀ f hs, Layout.within f [name, "headers"]
      (root ++ [(name, .table o (inner ++ [("headers", .table .opened hs)]))]) =
        (f hs).map fun hs => root ++ [(name, .table o (inner ++ [("headers", .table .opened hs)]))] := by
    intro f hs
    rw [Layout.within_last f h, Layout.within_last f hinner, Option.map_map]
    rfl
  have hfill := Section.foldlM_fill _ haround p.headerSettings [] (by simpa using hnames)
  rw [Section.enter, hdeclare]
  simp only [Option.bind_eq_bind, Option.bind_some, hfill]
  rfl

theorem sections_eq (path : List String) (p : Profile) : p.sections path =
    if p.headers.isEmpty then [⟨path, p.ownSettings⟩]
    else if p.ownSettings.isEmpty then [⟨path ++ ["headers"], p.headerSettings⟩]
    else [⟨path, p.ownSettings⟩, ⟨path ++ ["headers"], p.headerSettings⟩] := by
  rw [sections]
  cases p.headers.isEmpty <;> cases p.ownSettings.isEmpty <;> rfl

/-- The sections of a profile make one new table. -/
theorem foldlM_sections (hp : p.Sound) (h : name ∉ root.map Prod.fst) (above : List String) :
    ∃ after o, (p.sections [name]).foldlM Section.enter ⟨above, root⟩ =
      some ⟨after, root ++ [(name, .table o p.entries)]⟩ := by
  rw [sections_eq, entries]
  split_ifs with hheaders hown
  · refine ⟨[name], .opened, ?_⟩
    rw [List.foldlM_cons, enter_own h, List.append_nil]
    rfl
  · -- Without settings of its own, the profile's table is there for its headers only.
    have hnil : p.ownSettings = [] := List.isEmpty_iff.1 hown
    have hdeclare : Layout.declare Layout.openTable [name, "headers"] root =
        some (root ++ [(name, .table .implied ([] ++ [("headers", .table .opened [])]))]) := by
      rw [Layout.declare_implied _ h (List.cons_ne_nil _ _), Layout.declare_new List.not_mem_nil]
      rfl
    refine ⟨[name, "headers"], .implied, ?_⟩
    rw [List.foldlM_cons, List.singleton_append, enter_headers hp h List.not_mem_nil hdeclare, hnil]
    rfl
  · have hinner : "headers" ∉ (Section.nodes p.ownSettings).map Prod.fst := by
      rw [Section.map_fst_nodes]
      exact (ownSettings_names p).2
    have hdeclare : Layout.declare Layout.openTable [name, "headers"]
        (root ++ [(name, .table .opened (Section.nodes p.ownSettings))]) =
          some (root ++ [(name, .table .opened (Section.nodes p.ownSettings ++ [("headers", .table .opened [])]))]) := by
      rw [Layout.declare_last _ h (List.cons_ne_nil _ _), Layout.declare_new hinner]
      rfl
    refine ⟨[name, "headers"], .opened, ?_⟩
    rw [List.foldlM_cons, enter_own h, List.singleton_append]
    simp only [Option.bind_eq_bind, Option.bind_some, List.foldlM_cons, enter_headers hp h hinner hdeclare]
    rfl

/-! ## Read again -/

/-- The members of a profile's table. -/
def members (p : Profile) : List (String × Toml) :=
  (p.ownSettings.map fun v => (v.1, v.2.toToml)) ++
    if p.headers.isEmpty then []
    else [("headers", .table (Json.sortMembers (p.headers.map fun h => (h.1, .string h.2))))]

/-- What the table of a profile reads as. -/
def toToml (p : Profile) : Toml := .table (Json.sortMembers p.members)

theorem toToml_members_eq_map : ∀ es : Layout, Node.toToml.members es = es.map fun e => (e.1, e.2.toToml)
  | [] => rfl
  | (k, n) :: es => by rw [Node.toToml.members, toToml_members_eq_map es, List.map_cons]

theorem toToml_entries (p : Profile) (o : Origin) : (Node.table o p.entries).toToml = p.toToml := by
  have hmembers : Node.toToml.members p.entries = p.members := by
    rw [toToml_members_eq_map, entries, members, List.map_append]
    congr 1
    · simp [Section.nodes, List.map_map, Function.comp_def, Node.toToml]
    · split_ifs
      · rfl
      · simp [Section.nodes, headerSettings, Node.toToml, toToml_members_eq_map, List.map_map, Function.comp_def,
          Setting.toToml]
  rw [Node.toToml, hmembers, toToml]

theorem nodup_members (p : Profile) : (p.members.map Prod.fst).Nodup := by
  obtain ⟨endpoint, timeout, headers⟩ := p
  cases endpoint <;> cases timeout <;> cases headers <;> simp [members, ownSettings]

theorem get?_members (p : Profile) : Entries.get? p.members "endpoint" = p.endpoint.map Toml.string ∧
    Entries.get? p.members "timeout_ms" = p.timeout.map (fun n => Toml.integer n) ∧
    Entries.get? p.members "headers" = if p.headers.isEmpty then none
      else some (.table (Json.sortMembers (p.headers.map fun h => (h.1, .string h.2)))) := by
  obtain ⟨endpoint, timeout, headers⟩ := p
  cases endpoint <;> cases timeout <;> cases headers <;>
    simp [members, ownSettings, Entries.get?_cons, Entries.get?_nil, Setting.toToml]

theorem member?_toToml {α : Type} (f : Toml → Option α) (member : String) :
    p.toToml.member? f member = (Entries.get? p.members member).mapM f := by
  have hget := Entries.get?_perm p.nodup_members (Json.perm_sortMembers p.nodup_members).symm member
  have hmembers : p.toToml.members? = some (Json.sortMembers p.members) := rfl
  rw [hget, Toml.member?, hmembers, Option.bind_eq_bind, Option.bind_some, Entries.get?]
  cases (Json.sortMembers p.members).find? (·.1 == member) <;> rfl

theorem strings?_sortMembers {hs : Entries String} (h : (hs.map Prod.fst).Nodup) :
    strings? (.table (Json.sortMembers (hs.map fun h => (h.1, .string h.2)))) = some (Json.sortMembers hs) := by
  rw [Json.sortMembers_map h]
  have hstrings : List.Forall₂ (fun (m : String × Toml) (h : String × String) => (string? m.2).map (m.1, ·) = some h)
      ((Json.sortMembers hs).map fun h => (h.1, .string h.2)) (Json.sortMembers hs) := by
    rw [List.forall₂_map_left_iff]
    exact List.forall₂_same.2 fun h _ => rfl
  exact mapM_eq_some_iff.2 hstrings

/-- The table of a profile is read as the profile. -/
theorem ofToml?_toToml (hp : p.Sound) : ofToml? p.toToml = some p.inOrder := by
  obtain ⟨hendpoint, htimeout, hheaders⟩ := get?_members p
  have hendpoint : p.toToml.member? string? "endpoint" = some p.endpoint := by
    rw [member?_toToml, hendpoint]
    cases p.endpoint <;> rfl
  have htimeout : p.toToml.member? natural? "timeout_ms" = some p.timeout := by
    rw [member?_toToml, htimeout]
    cases hn : p.timeout with
    | none => rfl
    | some n =>
      have hle := hp.timeout n hn
      have hnatural : natural? (.integer n) = some n := by
        rw [natural?, if_pos ⟨Int.natCast_nonneg n, by omega⟩, Int.toNat_natCast]
      show (natural? (.integer n)).map some = some (some n)
      rw [hnatural]
      rfl
  have hheaders : ∃ hs, p.toToml.member? strings? "headers" = some hs ∧ hs.getD [] = Json.sortMembers p.headers := by
    rw [member?_toToml, hheaders]
    split_ifs with hempty
    · exact ⟨none, rfl, by rw [List.isEmpty_iff.1 hempty]; rfl⟩
    · refine ⟨some (Json.sortMembers p.headers), ?_, rfl⟩
      show (strings? _).map some = _
      rw [strings?_sortMembers hp.headers]
      rfl
  obtain ⟨hs, hheaders, hsorted⟩ := hheaders
  show (p.toToml.member? string? "endpoint" >>= fun endpoint => p.toToml.member? natural? "timeout_ms" >>= fun timeout =>
    p.toToml.member? strings? "headers" >>= fun headers => pure ⟨endpoint, timeout, headers.getD []⟩) = some p.inOrder
  rw [hendpoint, htimeout, hheaders]
  show some (Profile.mk p.endpoint p.timeout (hs.getD [])) = some p.inOrder
  rw [hsorted]
  rfl

end Profile

/-! ## Sound -/

namespace Toml

variable {t : Toml} {ms : List (String × Toml)}

theorem Sorted.members? (ht : t.Sorted) (h : t.members? = some ms) : Json.InOrder ms ∧ ∀ m ∈ ms, m.2.Sorted := by
  rw [Toml.members?.eq_def] at h
  split at h
  · cases h
    exact ⟨ht.1, sorted_members_iff.1 ht.2⟩
  · cases h
    exact ⟨List.pairwise_singleton .., List.forall_mem_singleton.2 trivial⟩
  · cases h

theorem map_fst_of_mapM {α β : Type} {f : α → Option β} {ms : List (String × α)} {es : Entries β}
    (h : ms.mapM (fun m => (f m.2).map (m.1, ·)) = some es) : es.map Prod.fst = ms.map Prod.fst := by
  induction mapM_eq_some_iff.1 h with
  | nil => rfl
  | cons he hes ih =>
    obtain ⟨_, -, rfl⟩ := Option.map_eq_some_iff.1 he
    rw [List.map_cons, List.map_cons, ih (mapM_eq_some_iff.2 hes)]

theorem nodup_of_strings? {es : Entries String} (ht : t.Sorted) (h : t.strings? = some es) :
    (es.map Prod.fst).Nodup := by
  obtain ⟨ms, hms, h⟩ := Option.bind_eq_some_iff.1 h
  rw [map_fst_of_mapM h]
  exact (ht.members? hms).1.imp ne_of_lt

theorem le_of_natural? {n : Nat} (h : t.natural? = some n) : n ≤ Bounds.maxUnsigned64 := by
  rw [natural?.eq_def] at h
  split at h
  next m =>
    split at h
    next hm =>
      cases h
      omega
    · cases h
  · cases h

theorem Sorted.exists_of_member? {α : Type} {f : Toml → Option α} {name : String} {a : α} (ht : t.Sorted)
    (h : t.member? f name = some (some a)) : ∃ v : Toml, v.Sorted ∧ f v = some a := by
  obtain ⟨ms, hms, h⟩ := Option.bind_eq_some_iff.1 h
  split at h
  · cases h
  next m hm =>
    obtain ⟨a', ha, h⟩ := Option.map_eq_some_iff.1 h
    cases h
    exact ⟨m.2, (ht.members? hms).2 m (List.mem_of_find?_eq_some hm), ha⟩

end Toml

/-- What is read from a value in order is sound. -/
theorem Profile.sound_of_ofToml? {p : Profile} {t : Toml} (ht : t.Sorted) (h : ofToml? t = some p) : p.Sound := by
  rw [ofToml?.eq_def] at h
  split at h
  next endpoint timeout rest =>
    have hsound : ∀ {hs : Entries String}, (hs.map Prod.fst).Nodup →
        (do return ⟨← endpoint.string?, ← timeout.natural?, hs⟩ : Option Profile) = some p → p.Sound := by
      intro hs hnodup h
      obtain ⟨_, -, h⟩ := Option.bind_eq_some_iff.1 h
      obtain ⟨n, hn, h⟩ := Option.bind_eq_some_iff.1 h
      cases h
      refine ⟨hnodup, fun n' hn' => ?_⟩
      obtain rfl := Option.some.inj hn'
      exact le_of_natural? hn
    cases rest with
    | nil => exact @hsound [] List.nodup_nil h
    | cons headers rest =>
      obtain ⟨hs, hheaders, h⟩ := Option.bind_eq_some_iff.1 h
      exact hsound (nodup_of_strings? ht.2.2.1 hheaders) h
  next =>
    obtain ⟨endpoint, -, h⟩ := Option.bind_eq_some_iff.1 h
    obtain ⟨timeout, htimeout, h⟩ := Option.bind_eq_some_iff.1 h
    obtain ⟨headers, hheaders, h⟩ := Option.bind_eq_some_iff.1 h
    cases h
    refine ⟨?_, fun n hn => ?_⟩
    · cases headers with
      | none => exact List.nodup_nil
      | some hs =>
        obtain ⟨v, hv, hs⟩ := ht.exists_of_member? hheaders
        exact nodup_of_strings? hv hs
    · obtain rfl := hn
      obtain ⟨v, -, hn⟩ := ht.exists_of_member? htimeout
      exact le_of_natural? hn

namespace ProfileStore

variable {s : ProfileStore} {text : String}

/-- No profile comes twice, and all are sound. -/
structure Sound (s : ProfileStore) : Prop where
  names : (s.profiles.map Prod.fst).Nodup
  profiles : ∀ e ∈ s.profiles, e.2.Sound

/-- A store with all names in order. -/
def inOrder (s : ProfileStore) : ProfileStore := ⟨(Json.sortMembers s.profiles).map fun e => (e.1, e.2.inOrder)⟩

theorem sound_of_ofText? (h : ofText? text = some s) : s.Sound := by
  rw [ofText?] at h
  split at h
  next ms hms =>
    obtain ⟨ps, hps, h⟩ := Option.bind_eq_some_iff.1 h
    cases h
    obtain ⟨horder, hmembers⟩ := sorted_of_ofText? hms
    rw [sorted_members_iff] at hmembers
    refine ⟨?_, fun e he => ?_⟩
    · rw [map_fst_of_mapM (f := Profile.ofToml?) hps]
      exact horder.imp ne_of_lt
    · obtain ⟨m, hm, hprofile⟩ := exists_mem_of_forall₂ (mapM_eq_some_iff.1 hps).flip he
      obtain ⟨p, hp, rfl⟩ := Option.map_eq_some_iff.1 hprofile
      exact Profile.sound_of_ofToml? (hmembers m hm) hp
  · cases h

theorem sections_writable {p : Profile} (hp : p.Sound) (name : String) : ∀ sec ∈ p.sections [name], sec.Writable := by
  have hown : ∀ v ∈ p.ownSettings, v.2.Fits := by
    intro v hv
    rw [Profile.ownSettings, List.mem_append, List.mem_map, List.mem_map] at hv
    rcases hv with ⟨e, -, rfl⟩ | ⟨n, hn, rfl⟩
    · trivial
    · have hle := hp.timeout n (Option.mem_toList.1 hn)
      exact ⟨Int.natCast_nonneg n, by simp only [maxInt, Bounds.maxUnsigned64] at hle ⊢; omega⟩
  have hheaders : ∀ v ∈ p.headerSettings, v.2.Fits := by
    intro v hv
    obtain ⟨h, -, rfl⟩ := List.mem_map.1 hv
    trivial
  have hlen : ∀ {n : Nat}, n ≤ 2 → n ≤ Group.maxDepth := fun h => Nat.le_trans h (by decide)
  have hsection : Section.Writable ⟨[name], p.ownSettings⟩ := ⟨⟨List.cons_ne_nil _ _, hlen (by simp)⟩, hown⟩
  have hbelow : Section.Writable ⟨[name] ++ ["headers"], p.headerSettings⟩ :=
    ⟨⟨List.cons_ne_nil _ _, hlen (by simp)⟩, hheaders⟩
  rw [Profile.sections_eq]
  split_ifs
  · exact List.forall_mem_singleton.2 hsection
  · exact List.forall_mem_singleton.2 hbelow
  · exact List.forall_mem_cons.2 ⟨hsection, List.forall_mem_singleton.2 hbelow⟩

theorem foldlM_sections : ∀ (ps : Entries Profile) (root : Layout) (above : List String),
    (root.map Prod.fst ++ ps.map Prod.fst).Nodup → (∀ e ∈ ps, e.2.Sound) →
      ∃ after tables, (ps.flatMap fun e => e.2.sections [e.1]).foldlM Section.enter ⟨above, root⟩ =
        some ⟨after, root ++ tables⟩ ∧
        Node.toToml.members tables = ps.map fun e => (e.1, e.2.toToml)
  | [], root, above, _, _ => ⟨above, [], by simp, rfl⟩
  | e :: ps, root, above, hnodup, hsound => by
    obtain ⟨he, hps⟩ := List.forall_mem_cons.1 hsound
    have hnew : e.1 ∉ root.map Prod.fst := fun hm => List.disjoint_of_nodup_append hnodup hm (List.mem_cons_self ..)
    obtain ⟨after, o, hfirst⟩ := Profile.foldlM_sections he hnew above
    obtain ⟨after', tables, hrest, htables⟩ :=
      foldlM_sections ps (root ++ [(e.1, .table o e.2.entries)]) after (by simpa using hnodup) hps
    refine ⟨after', (e.1, .table o e.2.entries) :: tables, ?_, ?_⟩
    · rw [List.flatMap_cons, List.foldlM_append, hfirst]
      simp only [Option.bind_eq_bind, Option.bind_some, hrest]
      simp
    · rw [Node.toToml.members, e.2.toToml_entries, htables, List.map_cons]

/-- **A sound store is loaded as it was saved**, in the order of the names. -/
theorem ofText?_text (hs : s.Sound) : ofText? s.text = some s.inOrder := by
  obtain ⟨after, tables, hread, htables⟩ := foldlM_sections s.profiles [] [] (by simpa using hs.names) hs.profiles
  have hwritable : ∀ sec ∈ s.profiles.flatMap (fun e => e.2.sections [e.1]), sec.Writable := by
    intro sec hsec
    obtain ⟨e, he, hsec⟩ := List.mem_flatMap.1 hsec
    exact sections_writable (hs.profiles e he) e.1 sec hsec
  have htoml : Toml.ofText? s.text = some (.table ((Json.sortMembers s.profiles).map fun e => (e.1, e.2.toToml))) := by
    rw [text, ofText?_textOf hwritable, hread, ← Json.sortMembers_map hs.names, ← htables]
    rfl
  have hprofiles : ((Json.sortMembers s.profiles).map fun e => (e.1, e.2.toToml)).mapM
      (fun m : String × Toml => (Profile.ofToml? m.2).map (m.1, ·)) =
        some ((Json.sortMembers s.profiles).map fun e => (e.1, e.2.inOrder)) := by
    rw [mapM_eq_some_iff, List.forall₂_map_left_iff, List.forall₂_map_right_iff]
    refine List.forall₂_same.2 fun e he => ?_
    rw [Profile.ofToml?_toToml (hs.profiles e (Json.mem_of_mem_sortMembers he))]
    rfl
  rw [ofText?, htoml]
  exact Option.bind_eq_some_iff.2 ⟨_, hprofiles, rfl⟩

end ProfileStore
end GraphCalls
