/-
The headers of a request, name by name.

A request carries the configured headers that the call does not name, then the
call's own, of each name the last, and what is missing (`requestHeaders_eq`).
Among the call's headers names are compared as HTTP compares them; among the
configured ones they are not compared at all. So a name goes out once exactly
if the call has it or the configuration has it at most once
(`distinct_requestHeaders_iff`).
-/
import GraphCalls.Http.Transport
import GraphCalls.Proofs.Entries

namespace GraphCalls
namespace Header

/-- The headers of a name. -/
def ofName (hs : List (String × String)) (name : String) : List (String × String) :=
  hs.filter fun h => sameName h.1 name

/-- The values of a name, in order. -/
def values (hs : List (String × String)) (name : String) : List String := (ofName hs name).map Prod.snd

/-- The last value of a name. -/
def last? (hs : List (String × String)) (name : String) : Option String := (values hs name).getLast?

/-- The last header of each name, in order. -/
def lasts : List (String × String) → List (String × String)
  | [] => []
  | h :: hs => if hasName hs h.1 then lasts hs else h :: lasts hs

/-- No two headers have the same name. -/
def Distinct (hs : List (String × String)) : Prop := hs.Pairwise fun a b => sameName a.1 b.1 = false

instance (hs : List (String × String)) : Decidable (Distinct hs) :=
  inferInstanceAs (Decidable (hs.Pairwise fun a b => sameName a.1 b.1 = false))

/-- A header for a name that is not among others. -/
def missing (hs : List (String × String)) (name value : String) : List (String × String) :=
  if hasName hs name then [] else [(name, value)]

variable {a b c name : String} {h : String × String} {hs : List (String × String)}

/-! ## Names -/

theorem sameName_iff : sameName a b = true ↔ lowerName a = lowerName b := beq_iff_eq

theorem sameName_self (a : String) : sameName a a = true := sameName_iff.2 rfl

theorem sameName_comm (a b : String) : sameName a b = sameName b a := by
  rw [Bool.eq_iff_iff, sameName_iff, sameName_iff, eq_comm]

/-- The same name has the same name as others. -/
theorem sameName_congr (h : sameName a b = true) (c : String) : sameName a c = sameName b c := by
  rw [Bool.eq_iff_iff, sameName_iff, sameName_iff, sameName_iff.1 h]

theorem hasName_congr (h : sameName a b = true) (hs : List (String × String)) : hasName hs a = hasName hs b := by
  simp only [hasName]
  congr 1
  funext x
  rw [sameName_comm, sameName_congr h, sameName_comm]

theorem hasName_append (hs more : List (String × String)) (name : String) :
    hasName (hs ++ more) name = (hasName hs name || hasName more name) := by
  simp [hasName]

/-! ## Values -/

theorem values_cons (h : String × String) (hs : List (String × String)) (name : String) :
    values (h :: hs) name = if sameName h.1 name then h.2 :: values hs name else values hs name := by
  rw [values, ofName, List.filter_cons]
  split <;> rfl

theorem values_append (hs more : List (String × String)) (name : String) :
    values (hs ++ more) name = values hs name ++ values more name := by
  simp [values, ofName]

theorem values_eq_nil_iff : values hs name = [] ↔ hasName hs name = false := by
  simp [values, ofName, hasName]

theorem last?_append (hs more : List (String × String)) (name : String) :
    last? (hs ++ more) name = (last? more name).or (last? hs name) := by
  rw [last?, values_append, List.getLast?_append]
  rfl

theorem last?_eq_none_iff : last? hs name = none ↔ hasName hs name = false := by
  rw [last?, List.getLast?_eq_none_iff, values_eq_nil_iff]

theorem exists_last?_iff : (∃ value, last? hs name = some value) ↔ hasName hs name = true := by
  rw [← Option.ne_none_iff_exists', Ne, last?_eq_none_iff, Bool.not_eq_false]

/-- Names are distinct if no name has two values. -/
theorem distinct_iff : Distinct hs ↔ ∀ name, (values hs name).length ≤ 1 := by
  constructor
  · intro hd name
    have hsub : (ofName hs name).Pairwise fun a b => sameName a.1 b.1 = false := hd.sublist List.filter_sublist
    match hof : ofName hs name with
    | [] | [_] => simp [values, hof]
    | x :: y :: rest =>
      have hmem : ∀ z ∈ ofName hs name, sameName z.1 name = true := fun z hz => (List.mem_filter.1 hz).2
      rw [hof] at hmem hsub
      have hne := (List.pairwise_cons.1 hsub).1 y (List.mem_cons_self ..)
      rw [sameName_congr (hmem x (by simp)), sameName_comm, hmem y (by simp)] at hne
      cases hne
  · intro hlen
    rw [Distinct, List.pairwise_iff_forall_sublist]
    intro x y hsub
    by_contra hxy
    rw [Bool.not_eq_false] at hxy
    have htwo := (hsub.filter fun z => sameName z.1 y.1).length_le
    have hone := hlen y.1
    rw [values, List.length_map, ofName] at hone
    simp only [List.filter_cons, hxy, sameName_self, if_true, List.length_cons] at htwo
    omega

/-! ## The last of each name -/

theorem values_lasts (name : String) : ∀ hs : List (String × String), values (lasts hs) name = (last? hs name).toList
  | [] => rfl
  | h :: hs => by
    have hlast : last? (h :: hs) name = (last? hs name).or (if sameName h.1 name then some h.2 else none) := by
      have hone : last? [h] name = if sameName h.1 name then some h.2 else none := by
        rw [last?, values_cons]
        split <;> rfl
      rw [← List.singleton_append, last?_append, hone]
    rw [lasts, hlast]
    split
    next hhas =>
      rw [values_lasts name hs]
      by_cases hname : sameName h.1 name = true
      · rw [hasName_congr hname] at hhas
        obtain ⟨v, hv⟩ := exists_last?_iff.2 hhas
        rw [hv, Option.some_or]
      · rw [if_neg hname, Option.or_none]
    next hhas =>
      rw [values_cons, values_lasts name hs]
      by_cases hname : sameName h.1 name = true
      · rw [hasName_congr hname, Bool.not_eq_true, ← last?_eq_none_iff] at hhas
        rw [if_pos hname, if_pos hname, hhas]
        rfl
      · rw [if_neg hname, if_neg hname, Option.or_none]

/-! ## What is missing -/

theorem missing_congr {more : List (String × String)} (h : hasName hs name = hasName more name) (value : String) :
    missing hs name value = missing more name value := by
  rw [missing, missing, h]

/-- What is missing has a value only under a name that is not there. -/
theorem values_missing (hs : List (String × String)) (name value other : String) :
    values (missing hs name value) other = if !hasName hs other && sameName name other then [value] else [] := by
  rw [missing]
  by_cases hname : sameName name other = true
  · rw [hasName_congr hname]
    by_cases hhas : hasName hs other = true
    · simp [hhas, values, ofName]
    · simp [hhas, hname, values, ofName]
  · by_cases hhas : hasName hs name = true
    · simp [hhas, hname, values, ofName]
    · simp [hhas, hname, values, ofName]

theorem addMissing_eq (name value : String) (hs : Entries String) :
    addMissing name value hs = hs ++ missing hs name value := by
  rw [addMissing, missing]
  split
  · rw [List.append_nil]
  next hn =>
    rw [Entries.set_of_not_mem]
    intro hm
    obtain ⟨x, hx, rfl⟩ := List.mem_map.1 hm
    exact hn (List.any_eq_true.2 ⟨x, hx, sameName_self _⟩)

end Header

namespace HttpTransport

open Header

variable {t : HttpTransport} {extra : Entries String}

theorem replaceHeader_eq (hs : Entries String) (h : String × String) :
    replaceHeader hs h = hs.filter (fun x => !sameName x.1 h.1) ++ [h] := by
  rw [replaceHeader, Entries.set_of_not_mem]
  intro hm
  obtain ⟨x, hx, hname⟩ := List.mem_map.1 hm
  simpa [hname, sameName_self] using (List.mem_filter.1 hx).2

/-- A call's headers take the place of all configured ones of their names. -/
theorem foldl_replaceHeader : ∀ (extra hs : Entries String),
    extra.foldl replaceHeader hs = hs.filter (fun x => !hasName extra x.1) ++ lasts extra
  | [], hs => by simp [hasName, lasts]
  | h :: extra, hs => by
    have hkept : ∀ x : String × String, (!hasName (h :: extra) x.1) = (!sameName x.1 h.1 && !hasName extra x.1) := by
      intro x
      rw [hasName, List.any_cons, Bool.not_or, sameName_comm]
      rfl
    rw [List.foldl_cons, replaceHeader_eq, foldl_replaceHeader extra, List.filter_append, List.filter_filter]
    simp only [hkept, lasts, List.append_assoc]
    congr 1
    · congr 1
      funext x
      exact Bool.and_comm ..
    · by_cases hh : hasName extra h.1 = true
      · simp [hh]
      · simp [hh]

/-- Of the configured headers those stay that the call does not name. -/
theorem values_kept (hs extra : Entries String) (name : String) :
    values (hs.filter fun x => !hasName extra x.1) name = if hasName extra name then [] else values hs name := by
  rw [values, ofName, List.filter_filter]
  split
  next hn =>
    have hnone : ∀ x ∈ hs, ¬ (sameName x.1 name && !hasName extra x.1) = true := by
      intro x _
      by_cases hx : sameName x.1 name = true
      · simp [hasName_congr hx, hn]
      · simp [hx]
    rw [List.filter_eq_nil_iff.2 hnone, List.map_nil]
  next hn =>
    rw [values, ofName]
    congr 2
    funext x
    by_cases hx : sameName x.1 name = true
    · simp [hx, hasName_congr hx, hn]
    · simp [hx]

theorem hasName_kept (hs extra : Entries String) (name : String) :
    hasName (hs.filter (fun x => !hasName extra x.1) ++ lasts extra) name = hasName (hs ++ extra) name := by
  have hnil : ∀ {as bs : List (String × String)}, (values as name = [] ↔ values bs name = []) →
      hasName as name = hasName bs name := by
    intro as bs h
    rw [values_eq_nil_iff, values_eq_nil_iff] at h
    exact Bool.eq_iff_iff.2 (by simpa using not_congr h)
  refine hnil ?_
  rw [values_append, values_append, values_kept, values_lasts]
  by_cases hn : hasName extra name = true
  · obtain ⟨v, hv⟩ := exists_last?_iff.2 hn
    have hvalues : values extra name ≠ [] := by rw [Ne, values_eq_nil_iff, hn]; simp
    simp [hn, hv, hvalues]
  · rw [Bool.not_eq_true] at hn
    rw [last?_eq_none_iff.2 hn, values_eq_nil_iff.2 hn]
    simp [hn]

/-- What is filled in where neither configuration nor call names it. -/
def defaults (origin? : Option String) (named : List (String × String)) : List (String × String) :=
  missing named "content-type" "application/json" ++ origin?.toList.flatMap (missing named "origin")

theorem sameName_contentType_origin : sameName "content-type" "origin" = false := by decide

theorem hasName_append_contentType (hs : List (String × String)) (value : String) :
    hasName (hs ++ missing hs "content-type" value) "origin" = hasName hs "origin" := by
  rw [hasName_append, missing]
  split <;> simp [hasName, sameName_contentType_origin]

/-- The headers of a request, in order. -/
theorem requestHeaders_eq (t : HttpTransport) (extra : Entries String) :
    t.requestHeaders extra = t.headers.filter (fun x => !hasName extra x.1) ++ lasts extra ++
      defaults t.endpoint.origin? (t.headers ++ extra) := by
  have hcontentType := missing_congr (hasName_kept t.headers extra "content-type") "application/json"
  have horigin := fun value => missing_congr ((hasName_append_contentType
    (t.headers.filter (fun x => !hasName extra x.1) ++ lasts extra) "application/json").trans
      (hasName_kept t.headers extra "origin")) value
  simp only [requestHeaders, foldl_replaceHeader, addMissing_eq, defaults]
  cases t.endpoint.origin? with
  | none => simp [hcontentType]
  | some origin =>
    simp only [horigin]
    simp [hcontentType]

theorem length_values_defaults_le (origin? : Option String) (named : List (String × String)) (name : String) :
    (values (defaults origin? named) name).length ≤ 1 := by
  rw [defaults, values_append, values_missing, List.length_append]
  cases origin? with
  | none =>
    rw [Option.toList_none, List.flatMap_nil]
    split <;> simp [values, ofName]
  | some origin =>
    rw [Option.toList_some, List.flatMap_cons, List.flatMap_nil, List.append_nil, values_missing]
    by_cases hct : sameName "content-type" name = true
    · have hor : sameName "origin" name = false := by
        rw [sameName_comm, ← sameName_congr hct, sameName_contentType_origin]
      rw [hor]
      split <;> simp
    · rw [Bool.not_eq_true] at hct
      simp only [hct, Bool.and_false, Bool.false_eq_true, if_false, List.length_nil, Nat.zero_add]
      split <;> simp

theorem values_defaults_of_hasName {named : List (String × String)} {name : String} (h : hasName named name = true)
    (origin? : Option String) : values (defaults origin? named) name = [] := by
  rw [defaults, values_append, values_missing, h]
  cases origin? with
  | none => rfl
  | some origin =>
    rw [Option.toList_some, List.flatMap_cons, List.flatMap_nil, List.append_nil, values_missing, h]
    rfl

/-- The values that go out under a name: the last of the call, or else those
that are configured, or what is filled in. -/
theorem values_requestHeaders (t : HttpTransport) (extra : Entries String) (name : String) :
    values (t.requestHeaders extra) name =
      (if hasName extra name then (last? extra name).toList else values t.headers name) ++
        values (defaults t.endpoint.origin? (t.headers ++ extra)) name := by
  rw [requestHeaders_eq, values_append, values_append, values_kept, values_lasts]
  congr 1
  split
  · rw [List.nil_append]
  next hn =>
    rw [Bool.not_eq_true, ← last?_eq_none_iff] at hn
    rw [hn, Option.toList_none, List.append_nil]

theorem values_requestHeaders_of_hasName {name : String} (h : hasName (t.headers ++ extra) name = true) :
    values (t.requestHeaders extra) name =
      if hasName extra name then (last? extra name).toList else values t.headers name := by
  rw [values_requestHeaders, values_defaults_of_hasName h, List.append_nil]

theorem distinct_requestHeaders_iff : Distinct (t.requestHeaders extra) ↔
    ∀ name, hasName extra name = true ∨ (values t.headers name).length ≤ 1 := by
  rw [distinct_iff]
  refine forall_congr' fun name => ?_
  by_cases h : hasName (t.headers ++ extra) name = true
  · rw [values_requestHeaders_of_hasName h]
    by_cases hn : hasName extra name = true
    · cases last? extra name <;> simp [hn]
    · simp [hn]
  · rw [hasName_append, Bool.not_eq_true, Bool.or_eq_false_iff] at h
    have hvalues := values_eq_nil_iff.2 h.1
    rw [values_requestHeaders, hvalues, h.2]
    simpa using length_values_defaults_le ..

end HttpTransport
end GraphCalls
