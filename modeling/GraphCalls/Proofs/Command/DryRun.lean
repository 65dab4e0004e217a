/-
A dry run shows what would be sent.

The body of a request is the document of its batch in compact form; a dry run
prints the same document indented. Both texts read as one object, of the text of
the operation and the values of its variables, whatever strings and values these
are (`perform_dryRun_shows`).
-/
import GraphCalls.Proofs.Call.ReadBack
import GraphCalls.Proofs.Call.RequestBody
import GraphCalls.Proofs.Command.AtDesk
import GraphCalls.Proofs.Json.RoundTrip

namespace GraphCalls

namespace Document

/-- A variable has the value of a binding. -/
theorem exists_binding_of_mem {kind : OperationKind} {b : Batch} {m : String × Json}
    (h : m ∈ (ofBatch kind b).variableValues) : ∃ x ∈ bindingsOf b, m.2 = x.value := by
  obtain ⟨v, hv, rfl⟩ := List.mem_map.1 h
  exact ⟨v.2, snd_mem_of_mem_numbered hv, rfl⟩

theorem sorted_toJson {d : Document} (h : ∀ m ∈ d.variableValues, m.2.Sorted) :
    d.toJson.sorted =
      .object [("query", .string d.query), ("variables", .object (Json.sortMembers d.variableValues))] := by
  have hvalues : Json.sorted.members d.variableValues = d.variableValues :=
    Json.sorted_of_sorted.members (Json.sorted_members_iff.2 h)
  have hmembers : Json.sorted.members [("query", .string d.query), ("variables", .object d.variableValues)] =
      [("query", .string d.query), ("variables", .object (Json.sortMembers d.variableValues))] := by
    simp only [Json.sorted.members, Json.sorted, hvalues, Json.ofMembers]
  have horder : Json.InOrder [("query", Json.string d.query),
      ("variables", .object (Json.sortMembers d.variableValues))] := by
    simp only [Json.InOrder, List.map_cons, List.map_nil]
    decide
  rw [toJson, Json.sorted, hmembers, Json.ofMembers, Json.sortMembers_of_inOrder horder]

/-- Texts of a document whose values have integers only read as its text and
its values. -/
theorem read_toJson {d : Document} (hsorted : ∀ m ∈ d.variableValues, m.2.Sorted)
    (hintegers : ∀ m ∈ d.variableValues, ∀ n ∈ m.2.numbers, n.IsInteger) {text : String}
    (htext : (∀ n ∈ d.toJson.numbers, n.Accepted) → Token.ofText text = d.toJson.tokens) {levels : Nat}
    (hlevels : d.toJson.depth ≤ levels) :
    (Source.parse text).read (Json.ofSource levels) =
      .ok (.object [("query", .string d.query), ("variables", .object (Json.sortMembers d.variableValues))]) := by
  have hnumbers : ∀ n ∈ d.toJson.numbers, n.IsInteger := by
    have hall := Json.forall_mem_numbers_members.2 hintegers
    simpa [toJson, Json.numbers, Json.numbers.members] using hall
  have haccepted : ∀ n ∈ d.toJson.numbers, n.Accepted := fun n hn => (hnumbers n hn).accepted
  rw [Json.read_of_tokens (htext haccepted) haccepted hlevels, Json.reread_of_isInteger hnumbers, sorted_toJson hsorted]

end Document

namespace Action

/-- **A dry run shows what would be sent.** Let the values of a batch be in
order, as stored values are, and have integers only. Then the body of the request
that executes it and the text that a dry run prints read as one object, whenever
the reader goes deep enough: its members are the text of the operation and an
object of the variables, each with its value. -/
theorem perform_dryRun_shows (kind : OperationKind) {b : Batch}
    (hvalues : ∀ x ∈ Document.bindingsOf b, x.value.Sorted ∧ ∀ n ∈ x.value.numbers, n.IsInteger) :
    ∃ body text ms,
      (∀ deadline headers reply, (Executor.execute deadline kind b headers reply).request = some ⟨body, headers⟩) ∧
      (∀ home network p o desk, atDesk (perform (Desk.shell home network) p o kind true b) desk =
        (.ok (), { desk with output := desk.output ++ text ++ "\n" })) ∧
      ms.Perm (Document.ofBatch kind b).variableValues ∧ Json.InOrder ms ∧
      ∀ levels, (Document.ofBatch kind b).toJson.depth ≤ levels → ∀ t ∈ [body, text],
        (Source.parse t).read (Json.ofSource levels) =
          .ok (.object [("query", .string (Document.ofBatch kind b).query), ("variables", .object ms)]) := by
  have hbinding : ∀ m ∈ (Document.ofBatch kind b).variableValues,
      m.2.Sorted ∧ ∀ n ∈ m.2.numbers, n.IsInteger := by
    intro m hm
    obtain ⟨x, hx, hvalue⟩ := Document.exists_binding_of_mem hm
    exact hvalue ▸ hvalues x hx
  have hnames : ((Document.ofBatch kind b).variableValues.map Prod.fst).Nodup := by
    rw [Document.map_fst_variableValues_ofBatch]
    exact Document.nodup_variableNames _
  refine ⟨(Document.ofBatch kind b).toJson.compact, (Document.ofBatch kind b).toJson.indented,
    Json.sortMembers (Document.ofBatch kind b).variableValues, fun deadline headers reply => ?_, fun _ _ _ _ _ => rfl,
    Json.perm_sortMembers hnames, Json.inOrder_sortMembers _, ?_⟩
  · rw [Executor.execute, Executor.executeAs, Executor.batchRequest_eq, Executor.post_ok]
  intro levels hlevels t ht
  have hsorted := fun m hm => (hbinding m hm).1
  have hintegers := fun m hm => (hbinding m hm).2
  simp only [List.mem_cons, List.not_mem_nil, or_false] at ht
  rcases ht with rfl | rfl
  · exact Document.read_toJson hsorted hintegers Json.tokens_compact hlevels
  · exact Document.read_toJson hsorted hintegers Json.tokens_indented hlevels

/-- A batch that passes characters which have to be escaped. -/
def escapesBatch : Batch :=
  ⟨[("a", ⟨"user", none, [⟨"id", .string "\"\\\n\x07é", none⟩,
    ⟨"tags", .object [("", .array [.number (.int (-12)), .null]), ("\t", .bool true)], none⟩]⟩)]⟩

theorem perform_dryRun_shows_escapes :
    (∀ x ∈ Document.bindingsOf escapesBatch, x.value.Sorted ∧ ∀ n ∈ x.value.numbers, n.IsInteger) ∧
      ∃ text ms,
        (atDesk (perform (Desk.shell "/home" .down) ⟨false⟩ ⟨none, "default", [], none, none⟩ .query true escapesBatch)
          ⟨.empty, "", ""⟩).2.output = text ++ "\n" ∧
        List.Perm ms (Document.ofBatch .query escapesBatch).variableValues ∧
        ∀ t, (Executor.execute 0 .query escapesBatch [] .hangs).request = some ⟨t, []⟩ ∨ t = text →
          (Source.parse t).read (Json.ofSource 4) =
            .ok (.object [("query", .string (Document.ofBatch .query escapesBatch).query), ("variables", .object ms)]) := by
  have hvalues : ∀ x ∈ Document.bindingsOf escapesBatch, x.value.Sorted ∧ ∀ n ∈ x.value.numbers, n.IsInteger := by
    have hmembers : ∀ n ∈ (Json.object [("", .array [.number (.int (-12)), .null]), ("\t", .bool true)]).numbers,
        n.IsInteger := by
      intro n hn
      obtain rfl := List.mem_singleton.1 hn
      exact ⟨-12, rfl, by decide, by decide⟩
    intro x hx
    simp only [Document.bindingsOf, escapesBatch, List.flatMap_cons, List.flatMap_nil, List.append_nil, List.mem_cons,
      List.not_mem_nil, or_false] at hx
    rcases hx with rfl | rfl
    · exact ⟨trivial, fun n hn => absurd hn List.not_mem_nil⟩
    · refine ⟨⟨by decide, ?_⟩, hmembers⟩
      simp [Json.Sorted.members, Json.Sorted, Json.Sorted.items]
  obtain ⟨body, text, ms, hbody, htext, hperm, -, hread⟩ := perform_dryRun_shows .query hvalues
  refine ⟨hvalues, text, ms, ?_, hperm, ?_⟩
  · rw [htext]
    rfl
  · intro t ht
    refine hread 4 (by decide) t ?_
    rcases ht with ht | rfl
    · rw [hbody] at ht
      cases ht
      exact List.mem_cons_self ..
    · exact List.mem_cons_of_mem _ (List.mem_singleton_self _)

end Action
end GraphCalls
