/-
What a command plans of a batch file.

A file lists its calls under aliases. Read into entries, of several members of
one alias only the last is left, in the place of the first; what is planned are
the entries, each of them and in order. So every member of the file is planned
exactly if no alias repeats; of a repeated one all calls but the last are left
out, and nothing refuses the file for it (`ofText_plans`).
-/
import GraphCalls.Command.Plan
import GraphCalls.Proofs.Call.DraftHistory
import GraphCalls.Proofs.Entries
import GraphCalls.Proofs.Json.Records

namespace GraphCalls

/-! ## Members of a file -/

/-- The names of an object's members in order, repeated ones included. -/
def Source.names : Source → List (Option String)
  | .object ms _ => ms.map (·.1.value?)
  | _ => []

namespace BatchEntry

/-- A text lists members in order: it holds one object, with nothing after it,
and of each member in turn the name and the value read as these. -/
def Lists (text : String) (members : List (String × BatchEntry)) : Prop :=
  ∃ ms, Source.parse text = ⟨.object ms none, false⟩ ∧
    List.Forall₂ (record.reader.Reads (Json.maxDepth - 1)) ms members

theorem ofText_eq_ok_iff {text : String} {es : Entries BatchEntry} :
    ofText text = .ok es ↔ ∃ members, Lists text members ∧ es = Entries.setAll [] members := by
  rw [ofText, Reader.ofText_eq_ok_iff, show Json.maxDepth = Json.maxDepth - 1 + 1 from rfl,
    Reader.entries_ofSource_eq_ok_iff]
  constructor
  · rintro ⟨⟨ms, members, hroot, hmembers, rfl⟩, htrailing⟩
    exact ⟨members, ⟨ms, by rw [← hroot, ← htrailing], hmembers⟩, rfl⟩
  · rintro ⟨members, ⟨ms, hparse, hmembers⟩, rfl⟩
    rw [hparse]
    exact ⟨⟨ms, members, rfl, hmembers, rfl⟩, rfl⟩

/-- The call that a member of a batch file wishes for. -/
def wish (m : String × BatchEntry) : Draft.Wish := ⟨m.1, m.2.field, m.2.args, m.2.selection⟩

end BatchEntry

/-! ## Entries planned -/

namespace Plan

open Draft

variable {r : Registry} {kind : OperationKind} {b : Batch} {es : Entries BatchEntry}

theorem map_fst_of_gives {ws : List Wish} {items : List (String × Call)}
    (h : List.Forall₂ (Wish.Gives r kind) ws items) : items.map Prod.fst = ws.map (·.aliasName) := by
  induction h with
  | nil => rfl
  | cons hg _ ih => rw [List.map_cons, List.map_cons, hg.1, ih]

/-- Entries are added to a batch if there are items that stand for them, and
all aliases are distinct. -/
theorem foldlM_add_eq_ok_iff : ∀ {es : Entries BatchEntry} {b : Batch} {d : Draft}, b.aliases.Nodup →
    (es.foldlM (fun (d : Draft) e => (d.add e.1 e.2.field e.2.args e.2.selection).mapError CommandError.call)
        ⟨r, kind, b⟩ = .ok d ↔
      ∃ items, List.Forall₂ (Wish.Gives r kind) (es.map BatchEntry.wish) items ∧
        (b.aliases ++ items.map Prod.fst).Nodup ∧ d = ⟨r, kind, ⟨b.items ++ items⟩⟩)
  | [], b, d, hb => by
    rw [List.foldlM_nil, List.map_nil]
    constructor
    · intro h
      cases h
      exact ⟨[], .nil, by simpa using hb, by simp⟩
    · rintro ⟨_, hgives, _, rfl⟩
      cases hgives
      simp [pure, Except.pure]
  | e :: es, b, d, hb => by
    rw [List.foldlM_cons, bind_eq_ok_iff, List.map_cons]
    constructor
    · rintro ⟨_, hstep, hrest⟩
      obtain ⟨item, hgives, hnew, rfl⟩ :=
        (attempt_eq_ok_iff (w := BatchEntry.wish e)).1 (mapError_eq_ok_iff.1 hstep)
      have hb' := (Batch.nodup_aliases_concat_iff b item).2 ⟨hnew, hb⟩
      obtain ⟨items, hitems, hnodup, rfl⟩ := (foldlM_add_eq_ok_iff hb').1 hrest
      exact ⟨item :: items, .cons hgives hitems, by simpa using hnodup, by simp⟩
    · rintro ⟨_, hgives, hnodup, rfl⟩
      cases hgives with
      | @cons _ item _ items hitem hitems =>
        rw [List.map_cons, ← List.singleton_append, ← List.append_assoc] at hnodup
        have hb' : (⟨b.items ++ [item]⟩ : Batch).aliases.Nodup := by
          rw [Batch.aliases_append]
          exact hnodup.of_append_left
        have hnew := ((Batch.nodup_aliases_concat_iff b item).1 hb').1
        have hstep : (attempt ⟨r, kind, b⟩ (BatchEntry.wish e)).result = .ok ⟨r, kind, ⟨b.items ++ [item]⟩⟩ :=
          attempt_eq_ok_iff.2 ⟨item, hitem, hnew, rfl⟩
        refine ⟨_, mapError_eq_ok_iff.2 hstep, (foldlM_add_eq_ok_iff hb').2 ⟨items, hitems, ?_, by simp⟩⟩
        simpa using hnodup

/-- A batch is planned of entries if the kind has a root, their items stand
for them in order, and the aliases are distinct. -/
theorem ofEntries_eq_ok_iff : ofEntries r kind es = .ok b ↔
    (∃ root, r.rootType kind = .ok root) ∧ List.Forall₂ (Wish.Gives r kind) (es.map BatchEntry.wish) b.items ∧
      b.aliases.Nodup := by
  have hempty : Batch.empty.aliases.Nodup := List.nodup_nil
  rw [ofEntries, bind_eq_ok_iff]
  constructor
  · rintro ⟨_, hstart, h⟩
    obtain ⟨hroot, rfl⟩ := start_eq_ok_iff.1 (mapError_eq_ok_iff.1 hstart)
    obtain ⟨_, hd, h⟩ := bind_eq_ok_iff.1 h
    obtain ⟨items, hgives, hnodup, rfl⟩ := (foldlM_add_eq_ok_iff hempty).1 hd
    cases h
    exact ⟨hroot, hgives, hnodup⟩
  · rintro ⟨hroot, hgives, hnodup⟩
    refine ⟨_, mapError_eq_ok_iff.2 (start_eq_ok_iff.2 ⟨hroot, rfl⟩), bind_eq_ok_iff.2 ?_⟩
    exact ⟨_, (foldlM_add_eq_ok_iff hempty).2 ⟨b.items, hgives, hnodup, rfl⟩, rfl⟩

/-- What is planned of a file. The batch has an item for every alias that the
file lists, in the order in which they first come. It stands for the last
member of the alias; so each member has its own item exactly if no alias
repeats. -/
theorem ofText_plans {text : String} (hes : BatchEntry.ofText text = .ok es) (hb : ofEntries r kind es = .ok b) :
    ∃ members, BatchEntry.Lists text members ∧
      b.aliases = (members.map Prod.fst).eraseDups ∧
      (∀ before m after, members = before ++ m :: after → m.1 ∉ after.map Prod.fst →
        ∃ item ∈ b.items, (BatchEntry.wish m).Gives r kind item) ∧
      ((members.map Prod.fst).Nodup → List.Forall₂ (Wish.Gives r kind) (members.map BatchEntry.wish) b.items) ∧
      (b.size = members.length ↔ (members.map Prod.fst).Nodup) := by
  obtain ⟨members, hlists, rfl⟩ := BatchEntry.ofText_eq_ok_iff.1 hes
  obtain ⟨-, hgives, -⟩ := ofEntries_eq_ok_iff.1 hb
  have haliases : b.aliases = (members.map Prod.fst).eraseDups := by
    rw [← Entries.map_fst_setAll_nil, Batch.aliases, map_fst_of_gives hgives, List.map_map]
    rfl
  refine ⟨members, hlists, haliases, ?_, ?_, ?_⟩
  · rintro before m after rfl hlast
    have hmem : m ∈ Entries.setAll [] (before ++ m :: after) := Entries.mem_setAll_nil_of_last hlast
    exact exists_mem_of_forall₂ hgives (List.mem_map_of_mem hmem)
  · intro hnodup
    rwa [Entries.setAll_of_nodup (by simpa using hnodup)] at hgives
  · rw [← length_eraseDups_eq_iff, ← haliases, Batch.aliases, List.length_map, List.length_map, Batch.size]

/-- A file that lists two calls. -/
def rosterFile (first second : String) : String :=
  "\x7b\"" ++ first ++ "\": \x7b\"field\": \"me\", \"selection\": \"name\"\x7d, \"" ++ second ++
    "\": \x7b\"field\": \"me\", \"selection\": \"team\"\x7d\x7d"

theorem ofText_plans_roster : ∃ es b members,
    BatchEntry.ofText (rosterFile "a" "b") = .ok es ∧ ofEntries Roster.registry .query es = .ok b ∧
      b.items = [("a", ⟨"me", some "name", []⟩), ("b", ⟨"me", some "team", []⟩)] ∧
      BatchEntry.Lists (rosterFile "a" "b") members ∧ ["a", "b"] = (members.map Prod.fst).eraseDups := by
  have hes : BatchEntry.ofText (rosterFile "a" "b") =
      .ok [("a", ⟨"me", [], some "name"⟩), ("b", ⟨"me", [], some "team"⟩)] := by decide +kernel
  have hb : ofEntries Roster.registry .query [("a", ⟨"me", [], some "name"⟩), ("b", ⟨"me", [], some "team"⟩)] =
      .ok ⟨[("a", ⟨"me", some "name", []⟩), ("b", ⟨"me", some "team", []⟩)]⟩ := by decide
  obtain ⟨members, hlists, haliases, -⟩ := ofText_plans hes hb
  exact ⟨_, _, members, hes, hb, rfl, hlists, haliases⟩

/-- Of two calls under one alias the first is lost. -/
theorem ofText_plans_repeated : ∃ es b,
    (Source.parse (rosterFile "a" "a")).root.names = [some "a", some "a"] ∧
      BatchEntry.ofText (rosterFile "a" "a") = .ok es ∧ ofEntries Roster.registry .query es = .ok b ∧
      b.items = [("a", ⟨"me", some "team", []⟩)] :=
  ⟨[("a", ⟨"me", [], some "team"⟩)], ⟨[("a", ⟨"me", some "team", []⟩)]⟩, by decide +kernel⟩

end Plan
end GraphCalls
