/-
A response written again.

What was read of a response is written with all that the server put into it:
data, null if there is none, and errors and extensions if they are given, each
error in its normal form. What is written is read as the same response again
(`ofJson_written`).
-/
import GraphCalls.Proofs.Call.WrittenEntry

namespace GraphCalls
namespace Response

/-- Errors in normal form, if they are given. -/
inductive NormalErrors : Option Json → List (String × Json) → Prop
  | absent : NormalErrors none []
  | present {vs ws} (h : List.Forall₂ ErrorEntry.Normal vs ws) :
    NormalErrors (some (.array vs)) [("errors", .array ws)]

/-- A response in normal form: its data, null if there is none, and its errors
and extensions if they are given. -/
inductive Normal (v : Json) : Json → Prop
  | mk {ms errors ns} (hms : v.membersAs ["data", "errors", "extensions"] = ms)
    (herrors : NormalErrors (Json.given? ms "errors") errors) (hdistinct : (ns.map Prod.fst).Nodup)
    (h : ns.Perm (("data", (Entries.get? ms "data").getD .null) ::
      (errors ++ presentMember "extensions" id (Json.given? ms "extensions")))) :
    Normal v (.object ns)

variable {ms ns : List (String × Json)} {r : Response Json} {v w : Json}

theorem ofJson_object_eq_some_iff (hn : (ms.map Prod.fst).Nodup) : ofJson .json (.object ms) = some r ↔
    ∃ data errors extensions,
      (Entries.get? ms "data").mapM (Reader.option .json).ofJson = some data ∧
      (Entries.get? ms "errors").mapM (Reader.option (.list ErrorEntry.record.reader)).ofJson = some errors ∧
      (Entries.get? ms "extensions").mapM (Reader.option .json).ofJson = some extensions ∧
      r = ⟨data.join, errors.join, extensions.join⟩ := by
  have hfold : ms.foldlM (record .json).memberOfJson (record .json).empty = do
      let data ← (Entries.get? ms "data").mapM (Reader.option .json).ofJson
      let errors ← (Entries.get? ms "errors").mapM (Reader.option (.list ErrorEntry.record.reader)).ofJson
      let extensions ← (Entries.get? ms "extensions").mapM (Reader.option .json).ofJson
      return ({ data, errors, extensions } : Draft Json) := by
    rw [(orderly_record .json).foldlM_fields (by decide) rfl hn]
    change (Entries.named ms "data" ++ (Entries.named ms "errors" ++ (Entries.named ms "extensions" ++ []))).foldlM
      _ _ = _
    rw [Record.foldlM_named_append rfl rfl]
    refine congrArg _ (funext fun data => ?_)
    rw [Record.foldlM_named_append rfl (by cases data <;> rfl)]
    refine congrArg _ (funext fun errors => ?_)
    rw [Record.foldlM_named_append rfl (by cases data <;> cases errors <;> rfl)]
    refine congrArg _ (funext fun extensions => ?_)
    cases data <;> cases errors <;> cases extensions <;> rfl
  have hobject : ofJson .json (.object ms) =
      (ms.foldlM (record .json).memberOfJson (record .json).empty).bind (record .json).finish := rfl
  rw [hobject, hfold]
  constructor
  · intro h
    obtain ⟨d, hread, h⟩ := Option.bind_eq_some_iff.1 h
    obtain ⟨data, hdata, hread⟩ := Option.bind_eq_some_iff.1 hread
    obtain ⟨errors, herrors, hread⟩ := Option.bind_eq_some_iff.1 hread
    obtain ⟨extensions, hextensions, hread⟩ := Option.bind_eq_some_iff.1 hread
    cases hread
    exact ⟨data, errors, extensions, hdata, herrors, hextensions, (Option.some.inj h).symm⟩
  · rintro ⟨data, errors, extensions, hdata, herrors, hextensions, rfl⟩
    rw [hdata, herrors, hextensions]
    rfl

/-- What a response is that was read from a value in order. -/
structure AsRead (r : Response Json) : Prop where
  data : ∀ v ∈ r.data, v ≠ .null ∧ v.Sorted
  errors : ∀ es ∈ r.errors, ∀ e ∈ es, e.AsRead
  extensions : ∀ v ∈ r.extensions, v ≠ .null ∧ v.Sorted

/-- The members of a response, its errors as they are written. -/
def members (r : Response Json) (errors : List Json) : List (String × Json) :=
  ("data", .ofOption id r.data) ::
    (presentMember "errors" (fun _ => .array errors) r.errors ++ presentMember "extensions" id r.extensions)

/-- A response as it is written, in whatever order. -/
def Written (r : Response Json) (w : Json) : Prop :=
  ∃ ns errors, w = .object ns ∧ List.Forall₂ ErrorEntry.Written r.errorEntries errors ∧ ns.Perm (r.members errors)

theorem nodup_members (r : Response Json) (errors : List Json) : ((r.members errors).map Prod.fst).Nodup := by
  rw [members]
  cases r.errors <;> cases r.extensions <;> simp [presentMember]

/-- What is written of a response is read as the response. -/
theorem Written.ofJson (h : r.Written w) (hr : r.AsRead) : ofJson .json w = some r := by
  obtain ⟨ns, errors, rfl, herrors, hp⟩ := h
  have hn : (ns.map Prod.fst).Nodup := (hp.map Prod.fst).nodup_iff.2 (r.nodup_members errors)
  have hdata : Entries.get? ns "data" = some (.ofOption id r.data) := Entries.get?_perm hn hp "data"
  have herr : Entries.get? ns "errors" = r.errors.map fun _ => .array errors := by
    rw [Entries.get?_perm hn hp, members]
    simp [Entries.get?_cons, Entries.get?_append, get?_presentMember]
  have hext : Entries.get? ns "extensions" = r.extensions.map id := by
    rw [Entries.get?_perm hn hp, members]
    simp [Entries.get?_cons, Entries.get?_append, get?_presentMember]
  rw [ofJson_object_eq_some_iff hn, hdata, herr, hext]
  refine ⟨some r.data, r.errors.map some, r.extensions.map some, ?_, ?_,
    Reader.exact_json.mapM_map fun v hv => (hr.extensions v hv).1, ?_⟩
  · refine mapM_eq_some_some_iff.2 ⟨_, rfl, ?_⟩
    cases hv : r.data with
    | none => rfl
    | some v => exact Reader.option_ofJson_of_ne_null (hr.data v hv).1
  · cases hes : r.errors with
    | none => rfl
    | some es =>
      rw [errorEntries, hes] at herrors
      have hall := (List.forall₂_and_left _ _).2 ⟨hr.errors es hes, herrors⟩
      have hread : errors.mapM ErrorEntry.record.ofJson = some es :=
        mapM_eq_some_iff.2 (hall.imp fun e w he => he.2.ofJson he.1).flip
      exact mapM_eq_some_some_iff.2 ⟨_, rfl, congrArg (Option.map some) hread⟩
  · obtain ⟨data, errors, extensions⟩ := r
    cases errors <;> cases extensions <;> rfl

/-- The errors that are read of a response, and what is written of them. -/
theorem errors_of_read {errors : Option (Option (List ErrorEntry))} (hs : ∀ m ∈ ms, m.2.Sorted)
    (h : (Entries.get? ms "errors").mapM (Reader.option (.list ErrorEntry.record.reader)).ofJson = some errors) :
    (∀ es ∈ errors.join, ∀ e ∈ es, e.AsRead) ∧
      ∀ ws, List.Forall₂ ErrorEntry.Written (errors.join.getD []) ws →
        NormalErrors (Json.given? ms "errors") (presentMember "errors" (fun _ => .array ws) errors.join) := by
  rw [Json.given?]
  cases hget : Entries.get? ms "errors" with
  | none =>
    rw [hget] at h
    cases h
    exact ⟨by simp, fun ws _ => .absent⟩
  | some v =>
    rw [hget] at h
    obtain ⟨es, hes, rfl⟩ := Option.map_eq_some_iff.1 h
    cases v with
    | null =>
      cases hes
      exact ⟨by simp, fun ws _ => .absent⟩
    | array vs =>
      obtain ⟨read, hread, rfl⟩ := Option.map_eq_some_iff.1 hes
      have hsorted : ∀ v ∈ vs, v.Sorted := Json.sorted_items_iff.1 (Entries.sorted_of_get? hs hget)
      have hread : List.Forall₂ (fun v e => v.Sorted ∧ ErrorEntry.record.ofJson v = some e) vs read :=
        (List.forall₂_and_left _ _).2 ⟨hsorted, mapM_eq_some_iff.1 hread⟩
      constructor
      · rintro _ ⟨⟩ e he
        obtain ⟨v, -, hv⟩ := exists_mem_of_forall₂ hread.flip he
        exact (ErrorEntry.of_ofJson hv.1 hv.2).1
      · intro ws hws
        exact .present (forall₂_comp hread hws fun v e w hv hw => (ErrorEntry.of_ofJson hv.1 hv.2).2 w hw)
    | _ => cases hes

/-- A response that was read of a value in order, and what is written of it. -/
theorem of_ofJson (hv : v.Sorted) (h : ofJson .json v = some r) : r.AsRead ∧ ∀ w, r.Written w → Normal v w := by
  have hfresh : ∀ f ∈ (record .json).fields, f.present (record .json).empty = false := by
    simp only [record, List.forall_mem_cons]
    exact ⟨rfl, rfl, rfl, by simp⟩
  have hn := Record.nodup_membersAs (r := record .json) hv (by decide)
  have hs := Record.sorted_of_mem_membersAs (record .json).names hv
  obtain ⟨data, errors, extensions, hdata, herrors, hextensions, rfl⟩ := (ofJson_object_eq_some_iff hn).1
    (Record.ofJson_membersAs (orderly_record .json) (by decide) hfresh h)
  have hgivenData : data.join.map id = Json.given? _ "data" := Reader.exact_json.map_join hdata
  have hgivenExtensions : extensions.join.map id = Json.given? _ "extensions" := Reader.exact_json.map_join hextensions
  obtain ⟨hentries, hnormal⟩ := errors_of_read hs herrors
  have hgiven : ∀ {x : Option Json} {name : String} {y : Json},
      x.map id = Json.given? (v.membersAs (record .json).names) name → x = some y → y ≠ .null ∧ y.Sorted := by
    rintro x name y hx rfl
    obtain ⟨hy, hne⟩ := Option.filter_eq_some_iff.1 hx.symm
    exact ⟨by simpa using hne, Entries.sorted_of_get? hs hy⟩
  refine ⟨⟨fun y hy => hgiven hgivenData hy, hentries, fun y hy => hgiven hgivenExtensions hy⟩, ?_⟩
  rintro w ⟨ns, ws, rfl, hws, hp⟩
  refine .mk rfl (hnormal ws hws) ((hp.map Prod.fst).nodup_iff.2 (nodup_members _ ws)) ?_
  rw [members, Json.ofOption_given hgivenData, presentMember_map "extensions", hgivenExtensions] at hp
  exact hp

theorem written_toJson (r : Response Json) : r.Written (r.toJson id) := by
  refine ⟨_, r.errorEntries.map ErrorEntry.toJson, rfl, ?_, ?_⟩
  · exact List.forall₂_map_right_iff.2 (List.forall₂_same.2 fun e _ => e.written_toJson)
  · rw [members, errorEntries]
    cases r.errors <;> exact .refl _

theorem AsRead.written_sorted (h : r.AsRead) : r.Written (r.toJson id).sorted := by
  let errors := r.errorEntries.map fun e => e.toJson.sorted
  have hdata : (Json.ofOption id r.data).sorted = .ofOption id r.data := by
    cases hv : r.data with
    | none => rfl
    | some v => exact Json.sorted_of_sorted (h.data v hv).2
  have herrors : (presentMember "errors" (fun es => .array (es.map ErrorEntry.toJson)) r.errors).map
      (fun m => (m.1, m.2.sorted)) = presentMember "errors" (fun _ => .array errors) r.errors := by
    cases hes : r.errors with
    | none => rfl
    | some es => simp [presentMember, errors, errorEntries, hes, Json.sorted, Json.sorted_items_eq_map]
  have hextensions := map_sorted_presentMember "extensions" (f := id)
    fun v hv => Json.sorted_of_sorted (h.extensions v hv).2
  have hsorted : (r.toJson id).sorted = .ofMembers (r.members errors) := by
    rw [toJson, Json.sorted, Json.sorted_members_eq_map, List.map_cons, List.map_append, hdata, herrors, hextensions]
    rfl
  refine ⟨_, errors, hsorted, ?_, Json.perm_sortMembers (r.nodup_members errors)⟩
  have hentries : ∀ e ∈ r.errorEntries, e.AsRead := by
    intro e he
    rw [errorEntries] at he
    cases hes : r.errors with
    | none => simp [hes] at he
    | some es => exact h.errors es hes e (by simpa [hes] using he)
  exact List.forall₂_map_right_iff.2 (List.forall₂_same.2 fun e he => (hentries e he).written_sorted)

/-- **A response is written as it was read, in normal form.** What is written of
a response that was read from a value, in the order of its fields or in that of
a stored value, is read as the same response, and is the normal form of the
value: nothing is lost, added or repeated but for what normal forms leave out. -/
theorem ofJson_written {v : Json} {r : Response Json} (hv : v.Sorted) (h : ofJson .json v = some r) :
    ∀ w, w = r.toJson id ∨ w = (r.toJson id).sorted → ofJson .json w = some r ∧ Normal v w := by
  obtain ⟨hr, hnormal⟩ := of_ofJson hv h
  rintro w (rfl | rfl)
  · exact ⟨r.written_toJson.ofJson hr, hnormal _ r.written_toJson⟩
  · exact ⟨hr.written_sorted.ofJson hr, hnormal _ hr.written_sorted⟩

/-- A response in the form of an array. Its error has no message, a location
with a member too many, and a member of its own that is null. -/
def listedValue : Json := .array [.null, .array [.object [("code", .null),
  ("locations", .array [.object [("column", .ofNat 2), ("line", .ofNat 1), ("offset", .ofNat 7)]]),
  ("path", .null)]]]

theorem ofJson_written_listed : ∃ r, listedValue.Sorted ∧ ofJson .json listedValue = some r ∧
    (r.toJson id).sorted = .object [("data", .null), ("errors", .array [.object [("code", .null),
      ("locations", .array [.object [("column", .ofNat 2), ("line", .ofNat 1)]]), ("message", .string "")]])] ∧
    ofJson .json (r.toJson id).sorted = some r ∧ Normal listedValue (r.toJson id).sorted := by
  have hv : listedValue.Sorted := by
    simp only [listedValue, Json.ofNat, Json.Sorted, Json.Sorted.items, Json.Sorted.members]
    decide
  have hr : ofJson .json listedValue = some ⟨none, some [⟨"", [⟨1, 2⟩], none, none, [("code", .null)]⟩], none⟩ := by
    decide
  obtain ⟨hread, hnormal⟩ := ofJson_written hv hr _ (.inr rfl)
  exact ⟨_, hv, hr, by decide, hread, hnormal⟩

end Response
end GraphCalls
