/-
The headers of a request that a command makes, source by source: those of the
call, of the flags and of the profile.

What the flags name anew changes the profile's header only if it is spelled the
same, whereas the call's headers go by the name alone. So two headers of one
name go out exactly if the call does not have the name, and profile and flags
together spell it in two ways (`resolve_sends`).
-/
import GraphCalls.Command.Profile
import GraphCalls.Proofs.Http.RequestHeaders
import GraphCalls.Proofs.Traversal
import Mathlib.Data.Finset.Card

namespace GraphCalls
namespace Header

variable {hs : List (String × String)} {name : String}

/-- All headers of a name are spelled alike. -/
def SpelledOnce (hs : List (String × String)) (name : String) : Prop :=
  ∀ a ∈ ofName hs name, ∀ b ∈ ofName hs name, a.1 = b.1

instance : Decidable (SpelledOnce hs name) :=
  inferInstanceAs (Decidable (∀ a ∈ ofName hs name, ∀ b ∈ ofName hs name, a.1 = b.1))

/-! ## Headers set one after the other -/

theorem map_fst_ofName (hs : List (String × String)) (name : String) :
    (ofName hs name).map Prod.fst = (hs.map Prod.fst).filter (sameName · name) := by
  rw [ofName, List.filter_map]
  rfl

theorem mem_map_fst_ofName_setAll {k : String} :
    k ∈ (ofName (Entries.setAll [] hs) name).map Prod.fst ↔ k ∈ (ofName hs name).map Prod.fst := by
  rw [map_fst_ofName, map_fst_ofName, List.mem_filter, List.mem_filter, Entries.mem_map_fst_setAll_nil]

theorem hasName_setAll (hs : List (String × String)) (name : String) :
    hasName (Entries.setAll [] hs) name = hasName hs name := by
  have hany : ∀ hs : List (String × String), hasName hs name = (hs.map Prod.fst).any (sameName · name) := by
    intro hs
    rw [hasName, List.any_map]
    rfl
  rw [hany, hany, Bool.eq_iff_iff, List.any_eq_true, List.any_eq_true]
  simp only [Entries.mem_map_fst_setAll_nil]

/-- Of each spelling one header stays. -/
theorem length_values_setAll_le_one_iff :
    (values (Entries.setAll [] hs) name).length ≤ 1 ↔ SpelledOnce hs name := by
  have hnodup : ((ofName (Entries.setAll [] hs) name).map Prod.fst).Nodup := by
    rw [map_fst_ofName]
    exact (Entries.nodup_setAll_nil hs).filter _
  rw [values, List.length_map, ← List.length_map Prod.fst, ← List.toFinset_card_of_nodup hnodup, Finset.card_le_one]
  simp only [List.mem_toFinset, mem_map_fst_ofName_setAll, List.forall_mem_map, SpelledOnce]

/-- A name that is spelled in one way has the last value it was given. -/
theorem values_setAll_of_spelledOnce (h : SpelledOnce hs name) :
    values (Entries.setAll [] hs) name = (last? hs name).toList := by
  have hle := length_values_setAll_le_one_iff.2 h
  match hof : ofName (Entries.setAll [] hs) name with
  | [] =>
    have hnone : hasName hs name = false := by
      rw [← hasName_setAll, ← values_eq_nil_iff, values, hof, List.map_nil]
    rw [values, hof, last?_eq_none_iff.2 hnone]
    rfl
  | [(k, v)] =>
    have hkv : (k, v) ∈ ofName (Entries.setAll [] hs) name := hof ▸ List.mem_singleton.2 rfl
    have hk := mem_map_fst_ofName_setAll.1 (List.mem_map_of_mem hkv)
    obtain ⟨a, ha, rfl⟩ := List.mem_map.1 hk
    -- under the one spelling the headers of the name are those of the key
    have hkey : ofName hs name = hs.filter (·.1 == a.1) := by
      refine List.filter_congr fun x hx => Bool.eq_iff_iff.2 ?_
      rw [beq_iff_eq]
      constructor
      · exact fun hname => h x (List.mem_filter.2 ⟨hx, hname⟩) a ha
      · intro hxa
        rw [hxa]
        exact (List.mem_filter.1 ha).2
    have hget := Entries.get?_of_mem (Entries.nodup_setAll_nil hs) (List.mem_filter.1 hkv).1
    rw [Entries.get?_setAll, Entries.get?_nil, Option.or_none, Entries.get?_reverse, ← hkey] at hget
    rw [values, hof, last?, values, hget]
    rfl
  | _ :: _ :: _ =>
    rw [values, hof] at hle
    simp at hle

end Header

namespace HttpTransport

open Header

/-- The last value of a name is what goes out under it, if the call has the
name or all else spells it in one way. -/
theorem values_requestHeaders_eq_iff {t : HttpTransport} {extra : Entries String} {hs : List (String × String)}
    {name value : String} (ht : t.headers = Entries.setAll [] hs) (hvalue : last? (hs ++ extra) name = some value) :
    values (t.requestHeaders extra) name = [value] ↔ hasName extra name = true ∨ SpelledOnce hs name := by
  have hnamed : hasName (t.headers ++ extra) name = true := by
    rw [hasName_append, ht, hasName_setAll, ← hasName_append]
    exact exists_last?_iff.1 ⟨value, hvalue⟩
  rw [values_requestHeaders_of_hasName hnamed]
  rw [last?_append] at hvalue
  by_cases hn : hasName extra name = true
  · obtain ⟨v, hv⟩ := exists_last?_iff.2 hn
    rw [hv, Option.some_or] at hvalue
    simp [hn, hv, Option.some.inj hvalue]
  · rw [if_neg hn, ht]
    rw [Bool.not_eq_true] at hn
    rw [last?_eq_none_iff.2 hn, Option.none_or] at hvalue
    constructor
    · intro hvalues
      exact .inr (length_values_setAll_le_one_iff.1 (by simp [hvalues]))
    · rintro (hextra | hspelled)
      · rw [hn] at hextra
        cases hextra
      · rw [values_setAll_of_spelledOnce hspelled, hvalue]
        rfl

end HttpTransport

namespace ClientConfig

variable {c : ClientConfig}

theorem eq_of_checked {checked : ClientConfig} (h : c.checked = .ok checked) : checked = c := by
  obtain ⟨_, _, h⟩ := bind_eq_ok_iff.1 h
  exact (Except.ok.inj h).symm

theorem headers_of_parse {endpoint : String} (h : parse endpoint = .ok c) : c.headers = [] := by
  rw [parse] at h
  split at h
  · rw [eq_of_checked h]
    rfl
  · cases h

theorem headers_foldl_withHeader : ∀ (hs : List (String × String)) (c : ClientConfig),
    (hs.foldl (fun c h => c.withHeader h.1 h.2) c).headers = Entries.setAll c.headers hs
  | [], _ => rfl
  | h :: hs, c => headers_foldl_withHeader hs (c.withHeader h.1 h.2)

end ClientConfig

namespace Profile

open Header

variable {p : Profile} {endpoint : Option String} {timeout : Option Nat} {flags : List String} {c : ClientConfig}

/-- A command is configured with the headers of its profile and then of its
flags, set one after the other. -/
theorem headers_of_resolve (h : p.resolve endpoint timeout flags = .ok c) :
    ∃ given, flags.mapM Pair.parse = .ok given ∧ c.headers = Entries.setAll [] (p.headers ++ given) := by
  rw [resolve] at h
  split at h
  · cases h
  obtain ⟨parsed, hparsed, h⟩ := bind_eq_ok_iff.1 h
  obtain ⟨flagged, hflagged, h⟩ := bind_eq_ok_iff.1 h
  have hfold := foldlM_eq_mapM (f := Pair.parse) (g := fun c h => c.withHeader h.1 h.2)
    (fun c word => by cases Pair.parse word <;> rfl) flags _ |>.symm.trans hflagged
  obtain ⟨given, hgiven, rfl⟩ := map_eq_ok_iff.1 hfold
  refine ⟨given, hgiven, ?_⟩
  have hnone := ClientConfig.headers_of_parse (mapError_eq_ok_iff.1 hparsed)
  rw [ClientConfig.eq_of_checked (mapError_eq_ok_iff.1 h), ClientConfig.headers_foldl_withHeader,
    ClientConfig.headers_foldl_withHeader]
  split <;> simp only [ClientConfig.withTimeout, hnone, Entries.setAll, List.foldl_append]

/-- What a command sends. No name goes out twice exactly if the call has the
name or profile and flags spell it in one way, and of the names that someone
gives these are the ones with one value: the last of the call, or else of the
flags, or else of the profile. -/
theorem resolve_sends (h : p.resolve endpoint timeout flags = .ok c) (extra : Entries String) :
    ∃ given, flags.mapM Pair.parse = .ok given ∧
      (Distinct ((HttpTransport.ofConfig c).requestHeaders extra) ↔
        ∀ name, hasName extra name = true ∨ SpelledOnce (p.headers ++ given) name) ∧
      ∀ name value, (last? extra name).or ((last? given name).or (last? p.headers name)) = some value →
        (values ((HttpTransport.ofConfig c).requestHeaders extra) name = [value] ↔
          hasName extra name = true ∨ SpelledOnce (p.headers ++ given) name) := by
  obtain ⟨given, hgiven, hheaders⟩ := headers_of_resolve h
  have hconfig : (HttpTransport.ofConfig c).headers = Entries.setAll [] (p.headers ++ given) := hheaders
  refine ⟨given, hgiven, ?_, ?_⟩
  · rw [HttpTransport.distinct_requestHeaders_iff, hconfig]
    simp only [length_values_setAll_le_one_iff]
  · intro name value hvalue
    rw [← last?_append, ← last?_append] at hvalue
    exact HttpTransport.values_requestHeaders_eq_iff hconfig hvalue

/-- A profile with a header. -/
def sample : Profile := ⟨some "http://localhost/", none, [("Authorization", "Bearer profile")]⟩

/-- A flag that spells the profile's header as the profile does takes its place. -/
theorem resolve_sends_flag : ∃ c, sample.resolve none none ["Authorization=Bearer flag"] = .ok c ∧
    Distinct ((HttpTransport.ofConfig c).requestHeaders []) ∧
    values ((HttpTransport.ofConfig c).requestHeaders []) "authorization" = ["Bearer flag"] := by
  cases hc : sample.resolve none none ["Authorization=Bearer flag"] with
  | error e =>
    have hok : (sample.resolve none none ["Authorization=Bearer flag"]).isOk = true := by decide +kernel
    rw [hc] at hok
    cases hok
  | ok c =>
    obtain ⟨given, hgiven, hdistinct, hvalues⟩ := resolve_sends hc []
    have hflag : ["Authorization=Bearer flag"].mapM Pair.parse = .ok [("Authorization", "Bearer flag")] := by
      decide +kernel
    obtain rfl := Except.ok.inj (hflag.symm.trans hgiven)
    have hspelled : ∀ name, SpelledOnce (sample.headers ++ [("Authorization", "Bearer flag")]) name := by
      have hname : ∀ x ∈ sample.headers ++ [("Authorization", "Bearer flag")], x.1 = "Authorization" := by decide
      intro name a ha b hb
      rw [hname a (List.mem_filter.1 ha).1, hname b (List.mem_filter.1 hb).1]
    exact ⟨c, rfl, hdistinct.2 fun name => .inr (hspelled name),
      (hvalues "authorization" "Bearer flag" (by decide +kernel)).2 (.inr (hspelled _))⟩

/-- A flag that spells the profile's header otherwise goes out beside it. -/
theorem resolve_sends_both_spellings : ∃ sent,
    (do
      let p ← Profile.empty.set "endpoint" "http://localhost/"
      let p ← p.set "header.Authorization" "Bearer profile"
      let c ← p.resolve none none ["authorization=Bearer flag"]
      return (HttpTransport.ofConfig c).requestHeaders []) = Except.ok sent ∧
    values sent "authorization" = ["Bearer profile", "Bearer flag"] ∧ ¬ Distinct sent :=
  ⟨[("Authorization", "Bearer profile"), ("authorization", "Bearer flag"), ("content-type", "application/json"),
    ("origin", "http://localhost")], by decide +kernel⟩

end Profile
end GraphCalls
