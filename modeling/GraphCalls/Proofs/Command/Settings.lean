/-
Settings of profiles.

A command that sets something sets one setting of one profile, and makes the
profile if it is not there (`ProfileStore.exists_of_set`). It is refused only
for its key or its value (`ProfileStore.exists_set`). What is seen of a store by
its settings does not depend on any order.
-/
import GraphCalls.Proofs.Command.StoredProfiles

namespace GraphCalls

/-- A setting of a profile. -/
inductive SettingKey where
  | endpoint
  | timeout
  | header (name : String)
deriving DecidableEq

namespace SettingKey

/-- The key that stands for a setting. -/
def text : SettingKey → String
  | .endpoint => "endpoint"
  | .timeout => "timeout_ms"
  | .header name => "header." ++ name

/-- What a setting is set to by a text. The deadline takes numbers of 64 bits
only, and a header without a name cannot be set. -/
def read? (value : String) : SettingKey → Option Toml.Setting
  | .endpoint => some (.string value)
  | .timeout => (Unsigned.parse value).toOption.map fun n : Nat => .integer n
  | .header name => if name = "" then none else some (.string value)

theorem text_injective {k l : SettingKey} (h : k.text = l.text) : k = l := by
  have hhead := congrArg (fun s => s.toList.head?) h
  cases k <;> cases l
  case header.header => simpa [text] using h
  all_goals first | rfl | simp [text] at hhead

end SettingKey

namespace Profile

variable {p q : Profile} {key value name : String} {k : SettingKey} {v : Toml.Setting}

/-- What a setting of a profile is set to. -/
def setting? (p : Profile) : SettingKey → Option Toml.Setting
  | .endpoint => p.endpoint.map .string
  | .timeout => p.timeout.map fun n => .integer n
  | .header name => (Entries.get? p.headers name).map .string

theorem headerName?_eq_some_iff : headerName? key = some name ↔ key = "header." ++ name ∧ name ≠ "" := by
  have hmark : "header.".toList = headerMark := rfl
  rw [headerName?]
  constructor
  · intro h
    simp only [Option.ite_none_right_eq_some, List.isPrefixOf_iff_prefix] at h
    obtain ⟨⟨⟨rest, hrest⟩, hlen⟩, hname⟩ := h
    rw [← hrest, List.drop_left] at hname
    obtain rfl := Option.some.inj hname
    refine ⟨?_, ?_⟩
    · rw [← String.toList_inj, String.toList_append, hmark, String.toList_ofList, hrest]
    · rintro hempty
      rw [← String.toList_inj, String.toList_ofList] at hempty
      rw [← hrest, hempty] at hlen
      simp at hlen
  · rintro ⟨rfl, hne⟩
    rw [String.toList_append, hmark]
    simpa using hne

theorem exists_of_set (h : p.set key value = .ok q) : ∃ k v, k.text = key ∧ k.read? value = some v ∧
    ∀ l, q.setting? l = if l = k then some v else p.setting? l := by
  rw [set] at h
  split_ifs at h with hendpoint htimeout
  · cases h
    refine ⟨.endpoint, _, hendpoint.symm, rfl, fun l => ?_⟩
    cases l <;> rfl
  · split at h
    next n hn =>
      cases h
      refine ⟨.timeout, .integer n, htimeout.symm, by simp [SettingKey.read?, hn, Except.toOption], fun l => ?_⟩
      cases l <;> rfl
    · cases h
  · split at h
    next name hname =>
      cases h
      obtain ⟨rfl, hne⟩ := headerName?_eq_some_iff.1 hname
      refine ⟨.header name, .string value, rfl, if_neg hne, fun l => ?_⟩
      cases l with
      | endpoint => rfl
      | timeout => rfl
      | header other =>
        by_cases hother : other = name
        · rw [hother, if_pos rfl, setting?, Entries.get?_set_self]
          rfl
        · have hkey : SettingKey.header other ≠ .header name := by simpa using hother
          rw [if_neg hkey, setting?, setting?, Entries.get?_set_of_ne hother]
    · cases h

theorem exists_set (hv : k.read? value = some v) (p : Profile) : ∃ q, p.set k.text value = .ok q := by
  cases k with
  | endpoint => exact ⟨_, if_pos rfl⟩
  | timeout =>
    obtain ⟨n, hn, -⟩ := Option.map_eq_some_iff.1 hv
    have hparse : Unsigned.parse value = .ok n := by
      cases h : Unsigned.parse value with
      | error e =>
        rw [h] at hn
        cases hn
      | ok m =>
        rw [h] at hn
        cases hn
        rfl
    have hset : p.set "timeout_ms" value = .ok { p with timeout := some n } := by
      rw [set, if_neg (by decide), if_pos rfl, hparse]
    exact ⟨_, hset⟩
  | header name =>
    have hendpoint : SettingKey.text (.header name) ≠ "endpoint" := fun h => by
      cases SettingKey.text_injective (l := .endpoint) h
    have htimeout : SettingKey.text (.header name) ≠ "timeout_ms" := fun h => by
      cases SettingKey.text_injective (l := .timeout) h
    have hne : name ≠ "" := fun h => by
      rw [SettingKey.read?, if_pos h] at hv
      cases hv
    have hname : headerName? (SettingKey.text (.header name)) = some name := headerName?_eq_some_iff.2 ⟨rfl, hne⟩
    rw [set, if_neg hendpoint, if_neg htimeout, hname]
    exact ⟨_, rfl⟩

end Profile

theorem Unsigned.le_of_readDigits : ∀ {cs : List Char} {n m : Nat}, n ≤ Bounds.maxUnsigned64 →
    readDigits n cs = .ok m → m ≤ Bounds.maxUnsigned64
  | [], n, m, hn, h => by
    cases h
    exact hn
  | c :: cs, n, m, _, h => by
    rw [readDigits] at h
    split at h
    · simp only at h
      split at h
      next hle => exact le_of_readDigits hle h
      · cases h
    · cases h

theorem Unsigned.le_of_parse {text : String} {n : Nat} (h : parse text = .ok n) : n ≤ Bounds.maxUnsigned64 := by
  rw [parse] at h
  split at h
  · cases h
  · cases h
  all_goals exact le_of_readDigits (Nat.zero_le _) h

namespace Profile

variable {p q : Profile} {key value : String}

/-- No setting makes a profile unsound. -/
theorem Sound.set (hp : p.Sound) (h : p.set key value = .ok q) : q.Sound := by
  rw [Profile.set] at h
  split_ifs at h
  · cases h
    exact ⟨hp.headers, hp.timeout⟩
  · split at h
    next n hn =>
      cases h
      refine ⟨hp.headers, fun m hm => ?_⟩
      obtain rfl := Option.some.inj hm
      exact Unsigned.le_of_parse hn
    · cases h
  · split at h
    · cases h
      exact ⟨Entries.nodup_set hp.headers _ _, hp.timeout⟩
    · cases h

theorem setting?_empty (k : SettingKey) : empty.setting? k = none := by cases k <;> rfl

theorem sound_empty : empty.Sound := ⟨List.nodup_nil, fun _ hn => by cases hn⟩

/-- The order of the headers is not seen. -/
theorem setting?_inOrder (hp : p.Sound) (k : SettingKey) : p.inOrder.setting? k = p.setting? k := by
  cases k with
  | endpoint => rfl
  | timeout => rfl
  | header name =>
    rw [setting?, setting?, inOrder, Entries.get?_perm hp.headers (Json.perm_sortMembers hp.headers).symm]

end Profile

namespace ProfileStore

variable {s s' : ProfileStore} {name key value : String} {k : SettingKey} {v : Toml.Setting}

/-- Whether there is a profile of a name. -/
def Has (s : ProfileStore) (name : String) : Prop := name ∈ s.profiles.map Prod.fst

/-- What a setting is set to in the profile of a name, if there is one. -/
def setting? (s : ProfileStore) (name : String) (k : SettingKey) : Option Toml.Setting :=
  (Entries.get? s.profiles name).bind (·.setting? k)

theorem setting?_eq (s : ProfileStore) (name : String) (k : SettingKey) :
    s.setting? name k = (s.get name).setting? k := by
  rw [setting?, get]
  cases Entries.get? s.profiles name with
  | none => exact (Profile.setting?_empty k).symm
  | some p => rfl

/-- A store becomes another by setting one setting of one profile. The profile
is there then; all other settings, and all other profiles, are as they were. -/
structure Sets (s : ProfileStore) (name : String) (k : SettingKey) (v : Toml.Setting) (s' : ProfileStore) : Prop where
  set : s'.setting? name k = some v
  settings : ∀ name' k', (name', k') ≠ (name, k) → s'.setting? name' k' = s.setting? name' k'
  profiles : ∀ name', s'.Has name' ↔ s.Has name' ∨ name' = name

/-- What is set is one setting of one profile. -/
theorem exists_of_set (h : s.set name key value = .ok s') :
    ∃ k v, k.text = key ∧ k.read? value = some v ∧ s.Sets name k v s' := by
  obtain ⟨q, hq, rfl⟩ := map_eq_ok_iff.1 h
  obtain ⟨k, v, hkey, hv, hsetting⟩ := Profile.exists_of_set hq
  refine ⟨k, v, hkey, hv, ?_, fun name' k' hne => ?_, fun name' => ?_⟩
  · rw [setting?, put, Entries.get?_set_self, Option.bind_some, hsetting, if_pos rfl]
  · by_cases hname : name' = name
    · have hk : k' ≠ k := by
        rintro rfl
        exact hne (by rw [hname])
      rw [hname, setting?, put, Entries.get?_set_self, Option.bind_some, hsetting, if_neg hk, setting?_eq]
    · rw [setting?, setting?, put, Entries.get?_set_of_ne hname]
  · rw [Has, Has, put, Entries.map_fst_set]
    split
    next hm => exact ⟨.inl, fun h => h.elim id fun h => h ▸ hm⟩
    next => simp

theorem exists_set (hv : k.read? value = some v) (s : ProfileStore) (name : String) :
    ∃ s', s.set name k.text value = .ok s' := by
  obtain ⟨q, hq⟩ := Profile.exists_set hv (s.get name)
  exact ⟨s.put name q, map_eq_ok_iff.2 ⟨q, hq, rfl⟩⟩

theorem sound_empty : empty.Sound := ⟨List.nodup_nil, by simp [empty]⟩

theorem Sound.get (hs : s.Sound) (name : String) : (s.get name).Sound := by
  rw [ProfileStore.get]
  cases h : Entries.get? s.profiles name with
  | none => exact Profile.sound_empty
  | some p => exact hs.profiles _ (Entries.mem_of_get? h)

theorem Sound.set (hs : s.Sound) (h : s.set name key value = .ok s') : s'.Sound := by
  obtain ⟨q, hq, rfl⟩ := map_eq_ok_iff.1 h
  have hnodup : ((Entries.set name q s.profiles).map Prod.fst).Nodup := Entries.nodup_set hs.names name q
  refine ⟨hnodup, fun e he => ?_⟩
  have hget := Entries.get?_of_mem hnodup he
  by_cases hname : e.1 = name
  · rw [hname, Entries.get?_set_self] at hget
    rw [← Option.some.inj hget]
    exact (hs.get name).set hq
  · rw [Entries.get?_set_of_ne hname] at hget
    exact hs.profiles e (Entries.mem_of_get? hget)

/-- The order of the names is not seen. -/
theorem setting?_inOrder (hs : s.Sound) (name : String) (k : SettingKey) :
    s.inOrder.setting? name k = s.setting? name k := by
  have hget : Entries.get? s.inOrder.profiles name = (Entries.get? s.profiles name).map Profile.inOrder := by
    rw [Entries.get?_perm hs.names (Json.perm_sortMembers hs.names).symm name, inOrder, Entries.get?_map]
  rw [setting?, setting?, hget]
  cases hp : Entries.get? s.profiles name with
  | none => rfl
  | some p => exact Profile.setting?_inOrder (hs.profiles _ (Entries.mem_of_get? hp)) k

theorem has_inOrder (hs : s.Sound) (name : String) : s.inOrder.Has name ↔ s.Has name := by
  have hnames : s.inOrder.profiles.map Prod.fst = (Json.sortMembers s.profiles).map Prod.fst := by
    rw [inOrder, List.map_map]
    rfl
  rw [Has, Has, hnames]
  exact ((Json.perm_sortMembers hs.names).map Prod.fst).mem_iff

/-- A store that is saved and loaded again has what was set. -/
theorem Sets.inOrder (hs : s'.Sound) (h : s.Sets name k v s') : s.Sets name k v s'.inOrder where
  set := by rw [setting?_inOrder hs, h.set]
  settings name' k' hne := by rw [setting?_inOrder hs, h.settings name' k' hne]
  profiles name' := by rw [has_inOrder hs, h.profiles]

end ProfileStore
end GraphCalls
