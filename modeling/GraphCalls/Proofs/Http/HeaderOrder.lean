/-
The headers of a request, place by place.

A call's headers are set one after the other, each in the place of all of its
name, so an entry that was set can be taken away again by a later one. What is
left of them are those after which their name does not come again, in their
own order (`lastOfEach_lasts`). Behind the configured headers that the call
does not name, and before what is filled in, they make the whole request
(`requestHeaders_in_order`).
-/
import GraphCalls.Proofs.Http.RequestHeaders

namespace GraphCalls

/-- The host of a URL; an empty name is none. -/
def Url.namedHost? (u : Url) : Option Host := u.host.filter (· ≠ .domain "")

theorem Url.origin?_eq (u : Url) : u.origin? = u.namedHost?.map fun h => u.scheme ++ "://" ++ h.text := by
  rw [origin?, namedHost?]
  split
  next h => rw [h]; rfl
  next h => rw [h]; rfl
  next host hne h =>
    rw [h, Option.filter_some, if_pos (by simpa using hne), Option.map_some]

namespace Header

/-- The header at a place is the last of its name. -/
def LastAt (hs : List (String × String)) (i : Nat) : Prop :=
  ∃ h, hs[i]? = some h ∧ ∀ j g, i < j → hs[j]? = some g → sameName g.1 h.1 = false

/-- Of each name the last header, spelled as it is, in the order in which
those stand. -/
structure LastOfEach (hs own : List (String × String)) : Prop where
  places : ∃ is : List Nat, is.Pairwise (· < ·) ∧ (∀ i, i ∈ is ↔ LastAt hs i) ∧ own = is.filterMap (hs[·]?)
  one : ∀ name, ofName own name = (ofName hs name).getLast?.toList

variable {h : String × String} {hs : List (String × String)} {i : Nat}

theorem hasName_iff {name : String} : hasName hs name = true ↔
    ∃ (j : Nat) (g : String × String), hs[j]? = some g ∧ sameName g.1 name = true := by
  rw [hasName, List.any_eq_true]
  constructor
  · rintro ⟨g, hg, hname⟩
    obtain ⟨j, hj⟩ := List.mem_iff_getElem?.1 hg
    exact ⟨j, g, hj, hname⟩
  · rintro ⟨j, g, hj, hname⟩
    exact ⟨g, List.mem_of_getElem? hj, hname⟩

theorem lastAt_zero : LastAt (h :: hs) 0 ↔ hasName hs h.1 = false := by
  rw [← Bool.not_eq_true, hasName_iff]
  constructor
  · rintro ⟨g, hg, hlast⟩ ⟨j, x, hj, hname⟩
    cases hg
    have hnot := hlast (j + 1) x (Nat.succ_pos j) (by rwa [List.getElem?_cons_succ])
    rw [hname] at hnot
    cases hnot
  · refine fun hnone => ⟨h, rfl, fun j g hj hg => ?_⟩
    obtain ⟨j, rfl⟩ := Nat.exists_eq_succ_of_ne_zero (Nat.ne_of_gt hj)
    rw [List.getElem?_cons_succ] at hg
    exact Bool.eq_false_iff.2 fun hname => hnone ⟨j, g, hg, hname⟩

theorem lastAt_succ : LastAt (h :: hs) (i + 1) ↔ LastAt hs i := by
  simp only [LastAt, List.getElem?_cons_succ]
  refine exists_congr fun x => and_congr_right fun _ => ?_
  constructor
  · exact fun hlast j g hj hg => hlast (j + 1) g (Nat.succ_lt_succ hj) (by rwa [List.getElem?_cons_succ])
  · intro hlast j g hj hg
    obtain ⟨j, rfl⟩ := Nat.exists_eq_succ_of_ne_zero (Nat.ne_of_gt (Nat.lt_of_le_of_lt (Nat.zero_le _) hj))
    rw [List.getElem?_cons_succ] at hg
    exact hlast j g (Nat.lt_of_succ_lt_succ hj) hg

/-- The places of the last headers, one for each. -/
theorem exists_places : ∀ hs : List (String × String),
    ∃ is : List Nat, is.Pairwise (· < ·) ∧ (∀ i, i ∈ is ↔ LastAt hs i) ∧ lasts hs = is.filterMap (hs[·]?)
  | [] => ⟨[], .nil, fun i => by simp [LastAt], rfl⟩
  | h :: hs => by
    obtain ⟨is, hsorted, hmem, htaken⟩ := exists_places hs
    -- The places behind the first header all move by one.
    have hmoved : (is.map (· + 1)).Pairwise (· < ·) :=
      hsorted.map _ fun a b hab => Nat.succ_lt_succ hab
    have hlater : lasts hs = (is.map (· + 1)).filterMap ((h :: hs)[·]?) := by
      rw [htaken, List.filterMap_map]
      rfl
    have hmemMoved : ∀ i, i + 1 ∈ is.map (· + 1) ↔ LastAt (h :: hs) (i + 1) := by
      intro i
      rw [lastAt_succ, ← hmem i]
      simp
    by_cases hhas : hasName hs h.1 = true
    · refine ⟨is.map (· + 1), hmoved, fun i => ?_, by rw [lasts, if_pos hhas, hlater]⟩
      cases i with
      | zero => simp [lastAt_zero, hhas]
      | succ i => exact hmemMoved i
    · refine ⟨0 :: is.map (· + 1), List.pairwise_cons.2 ⟨by simp, hmoved⟩, fun i => ?_, ?_⟩
      · cases i with
        | zero => simpa [lastAt_zero] using hhas
        | succ i => rw [List.mem_cons, or_iff_right (Nat.succ_ne_zero i), hmemMoved]
      · rw [lasts, if_neg hhas, hlater]
        rfl

theorem ofName_cons (h : String × String) (hs : List (String × String)) (name : String) :
    ofName (h :: hs) name = if sameName h.1 name then h :: ofName hs name else ofName hs name := List.filter_cons

theorem ofName_eq_nil_iff {name : String} : ofName hs name = [] ↔ hasName hs name = false := by
  simp [ofName, hasName]

theorem ofName_lasts (name : String) : ∀ hs : List (String × String),
    ofName (lasts hs) name = (ofName hs name).getLast?.toList
  | [] => rfl
  | h :: hs => by
    have ih := ofName_lasts name hs
    by_cases hname : sameName h.1 name = true
    · rw [ofName_cons, if_pos hname, lasts]
      by_cases hhas : hasName hs h.1 = true
      · have hlater : ofName hs name ≠ [] := by
          rw [Ne, ofName_eq_nil_iff, ← hasName_congr hname, hhas]
          exact Bool.true_eq_false.mp
        rw [if_pos hhas, ih, List.getLast?_cons_of_ne_nil hlater]
      · have hnone : ofName hs name = [] := by
          rw [ofName_eq_nil_iff, ← hasName_congr hname]
          exact Bool.eq_false_iff.2 hhas
        rw [if_neg hhas, ofName_cons, if_pos hname, ih, hnone]
        rfl
    · rw [ofName_cons, if_neg hname, ← ih, lasts]
      split
      · rfl
      · rw [ofName_cons, if_neg hname]

theorem lastOfEach_lasts (hs : List (String × String)) : LastOfEach hs (lasts hs) :=
  ⟨exists_places hs, (ofName_lasts · hs)⟩

end Header

namespace HttpTransport

open Header

/-- **The headers of a request, in order**: of the configured ones those that
the call does not name, in whatever case; of the call's own the last of each
name, in the order of these; then the type of the body and the origin, each
only if nobody names it, and the origin only for an endpoint with a host. -/
theorem requestHeaders_in_order (t : HttpTransport) (extra : Entries String) :
    ∃ own, LastOfEach extra own ∧
      t.requestHeaders extra =
        t.headers.filter (fun h => ∀ e ∈ extra, sameName e.1 h.1 = false) ++ own ++
          (if hasName (t.headers ++ extra) "content-type" then [] else [("content-type", "application/json")]) ++
          (if hasName (t.headers ++ extra) "origin" then []
            else t.endpoint.namedHost?.toList.map fun host =>
              ("origin", t.endpoint.scheme ++ "://" ++ host.text)) := by
  refine ⟨lasts extra, lastOfEach_lasts extra, ?_⟩
  have hkept : (fun h : String × String => !hasName extra h.1) =
      fun h => decide (∀ e ∈ extra, sameName e.1 h.1 = false) := by
    funext h
    rw [Bool.eq_iff_iff, decide_eq_true_iff, Bool.not_eq_true', hasName, List.any_eq_false]
    simp
  have horigin : t.endpoint.origin?.toList.flatMap (missing (t.headers ++ extra) "origin") =
      if hasName (t.headers ++ extra) "origin" then []
      else t.endpoint.namedHost?.toList.map fun host => ("origin", t.endpoint.scheme ++ "://" ++ host.text) := by
    rw [Url.origin?_eq]
    cases t.endpoint.namedHost? <;> simp [missing]
  rw [requestHeaders_eq, hkept, defaults, horigin, missing, List.append_assoc _ _ (ite _ _ _)]

end HttpTransport
end GraphCalls
