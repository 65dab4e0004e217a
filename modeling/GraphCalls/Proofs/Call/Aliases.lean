/-
The aliases of a batch decide what can be added to it.

An insertion is refused exactly if its alias is taken. Of a list of calls a
batch takes those before the first clash: each with an alias that neither the
batch nor a call before it has (`extend_admits`).
-/
import GraphCalls.Call.Batch
import Mathlib.Data.List.Nodup

namespace GraphCalls
namespace Batch

variable {b : Batch} {aliasName : String}

/-- The aliases that are taken, in order. -/
def aliases (b : Batch) : List String := b.items.map Prod.fst

theorem isSome_get?_iff : (b.get? aliasName).isSome ↔ aliasName ∈ b.aliases := by
  simp only [get?, aliases, Option.isSome_map, List.find?_isSome, List.mem_map]
  exact ⟨fun ⟨item, hm, he⟩ => ⟨item, hm, by simpa using he⟩, fun ⟨item, hm, he⟩ => ⟨item, hm, by simpa using he⟩⟩

theorem insert_of_mem (h : aliasName ∈ b.aliases) (call : Call) :
    b.insert aliasName call = .error (.duplicateAlias aliasName) := by
  rw [insert, if_pos (isSome_get?_iff.2 h)]

theorem insert_of_not_mem (h : aliasName ∉ b.aliases) (call : Call) :
    b.insert aliasName call = .ok ⟨b.items ++ [(aliasName, call)]⟩ := by
  rw [insert, if_neg (mt isSome_get?_iff.1 h)]

@[simp] theorem aliases_append (b : Batch) (items : List (String × Call)) :
    (⟨b.items ++ items⟩ : Batch).aliases = b.aliases ++ items.map Prod.fst := by
  simp [aliases]

theorem nodup_aliases_concat_iff (b : Batch) (item : String × Call) :
    (⟨b.items ++ [item]⟩ : Batch).aliases.Nodup ↔ item.1 ∉ b.aliases ∧ b.aliases.Nodup := by
  rw [aliases_append, List.map_singleton, ← List.concat_eq_append, List.nodup_concat]

/-- Of the calls that are offered, those before the first clash are accepted:
up to there each has a new alias, and the next one, if there is one, has not. -/
structure Admits (b : Batch) (offered accepted : List (String × Call)) : Prop where
  start : accepted <+: offered
  fresh : ∀ before item after, accepted = before ++ item :: after → item.1 ∉ b.aliases ++ before.map Prod.fst
  clash : ∀ item after, offered = accepted ++ item :: after → item.1 ∈ b.aliases ++ accepted.map Prod.fst

theorem admits_nil (b : Batch) : b.Admits [] [] where
  start := List.prefix_rfl
  fresh := by simp
  clash := by simp

theorem admits_of_mem {item : String × Call} (h : item.1 ∈ b.aliases) (rest : List (String × Call)) :
    b.Admits (item :: rest) [] where
  start := List.nil_prefix
  fresh := by simp
  clash := by
    intro other after he
    simp only [List.nil_append, List.cons.injEq] at he
    simpa [← he.1] using h

theorem Admits.cons {item : String × Call} {offered accepted : List (String × Call)} (h : item.1 ∉ b.aliases)
    (ha : (⟨b.items ++ [item]⟩ : Batch).Admits offered accepted) :
    b.Admits (item :: offered) (item :: accepted) where
  start := List.cons_prefix_cons.2 ⟨rfl, ha.start⟩
  fresh := by
    intro before other after he
    cases before with
    | nil =>
      simp only [List.nil_append, List.cons.injEq] at he
      simpa [← he.1] using h
    | cons first before =>
      simp only [List.cons_append, List.cons.injEq] at he
      obtain ⟨rfl, he⟩ := he
      simpa using ha.fresh before other after he
  clash := by
    intro other after he
    simp only [List.cons_append, List.cons.injEq, true_and] at he
    simpa using ha.clash other after he

/-- The result of adding calls of which `accepted` were. -/
def extendResult (offered accepted : List (String × Call)) : Except CallError Unit :=
  match offered.drop accepted.length with
  | [] => .ok ()
  | item :: _ => .error (.duplicateAlias item.1)

/-- A batch is extended by the calls before the first clash, and the refusal,
if there is one, names the alias of the next call. -/
theorem extend_admits (b : Batch) (offered : List (String × Call)) :
    ∃ accepted, b.Admits offered accepted ∧
      b.extend offered = (⟨b.items ++ accepted⟩, extendResult offered accepted) := by
  induction offered generalizing b with
  | nil => exact ⟨[], admits_nil b, by simp [extend, extendResult]⟩
  | cons item rest ih =>
    obtain ⟨aliasName, call⟩ := item
    by_cases h : aliasName ∈ b.aliases
    · exact ⟨[], admits_of_mem h rest, by simp [extend, insert_of_mem h, extendResult]⟩
    · obtain ⟨accepted, hadmits, heq⟩ := ih ⟨b.items ++ [(aliasName, call)]⟩
      refine ⟨(aliasName, call) :: accepted, hadmits.cons h, ?_⟩
      simp only [extend, insert_of_not_mem h, heq]
      simp [extendResult]

/-- Where the offered aliases are distinct, only the batch can clash. -/
theorem Admits.eq_takeWhile {offered accepted : List (String × Call)} (h : b.Admits offered accepted)
    (hn : (offered.map Prod.fst).Nodup) : accepted = offered.takeWhile (·.1 ∉ b.aliases) := by
  obtain ⟨rest, rfl⟩ := h.start
  have hfresh : ∀ item ∈ accepted, item.1 ∉ b.aliases := by
    intro item hm hmem
    obtain ⟨before, after, rfl⟩ := List.append_of_mem hm
    exact h.fresh before item after rfl (List.mem_append_left _ hmem)
  rw [List.takeWhile_append_of_pos (by simpa using hfresh)]
  cases rest with
  | nil => simp
  | cons item rest =>
    have hnew : item.1 ∉ accepted.map Prod.fst := by
      intro hm
      rw [List.map_append, List.nodup_append] at hn
      exact hn.2.2 _ hm _ (List.mem_cons_self ..) rfl
    have hmem : item.1 ∈ b.aliases := (List.mem_append.1 (h.clash item rest rfl)).resolve_right hnew
    simp [hmem]

end Batch
end GraphCalls
