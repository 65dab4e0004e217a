/-
A response read from a text, and from the value of the text.

The drafts of responses, of their error entries and of locations keep the
fields apart, so both ways come to the same response or to none
(`ofText_eq_ofJson`).
-/
import GraphCalls.Call.Response
import GraphCalls.Proofs.Json.StoredReading

namespace GraphCalls

open Reader

/-! ## The records of a response -/

namespace Location

theorem orderly_record : record.Orderly := by
  refine Record.orderly_of_keep_eq_none rfl ?_
  simp only [record, List.pairwise_cons, List.forall_mem_cons]
  refine ⟨⟨?_, by simp⟩, by simp⟩
  exact Field.apart_of (fun _ _ => rfl) (fun _ _ => rfl) (fun _ _ _ => rfl)

theorem agrees_reader : record.reader.Agrees := by
  refine Record.agrees ?_ orderly_record
  have hcoordinate : coordinate.Agrees := agrees_integer _ _
  simp only [record, List.forall_mem_cons]
  exact ⟨Field.agrees_of hcoordinate, Field.agrees_of hcoordinate, by simp⟩

end Location

namespace ErrorEntry

/-- Other members are kept beside the fields, in an order of their own. -/
theorem orderly_record : record.Orderly where
  fields := by
    simp only [record, List.pairwise_cons, List.forall_mem_cons]
    refine ⟨⟨?_, ?_, ?_, by simp⟩, ⟨?_, ?_, by simp⟩, ⟨?_, by simp⟩, by simp⟩ <;>
      exact Field.apart_of (fun _ _ => rfl) (fun _ _ => rfl) (fun _ _ _ => rfl)
  keepField keep hkeep f hf name v a := by
    cases hkeep
    simp only [record, List.mem_cons, List.not_mem_nil, or_false] at hf
    rcases hf with rfl | rfl | rfl | rfl <;>
      exact ⟨rfl, fun w => by simp only [Field.of, Option.map_map]; rfl⟩
  keepKeep keep hkeep k l v w a hne := by
    cases hkeep
    simp only [Json.insertMember_comm hne]

theorem agrees_reader : record.reader.Agrees := by
  refine Record.agrees ?_ orderly_record
  simp only [record, List.forall_mem_cons]
  exact ⟨Field.agrees_of agrees_string, Field.agrees_of Location.agrees_reader.list,
    Field.agrees_of agrees_json.list.option, Field.agrees_of agrees_json.option, by simp⟩

end ErrorEntry

namespace Response

theorem orderly_record {δ : Type} (r : Reader δ) : (record r).Orderly := by
  refine Record.orderly_of_keep_eq_none rfl ?_
  simp only [record, List.pairwise_cons, List.forall_mem_cons]
  refine ⟨⟨?_, ?_, by simp⟩, ⟨?_, by simp⟩, by simp⟩ <;>
    exact Field.apart_of (fun _ _ => rfl) (fun _ _ => rfl) (fun _ _ _ => rfl)

theorem agrees_reader {δ : Type} {r : Reader δ} (hr : r.Agrees) : (reader r).Agrees := by
  refine Record.agrees ?_ (orderly_record r)
  simp only [record, List.forall_mem_cons]
  exact ⟨Field.agrees_of hr.option, Field.agrees_of ErrorEntry.agrees_reader.list.option,
    Field.agrees_of agrees_json.option, by simp⟩

/-! ## Both ways -/

/-- **Reading a response at once, or from what is stored.** Of a text that is
stored as a value, and in which no object repeats a name, the response that is
read from the text is the one that is read from the value; or there is none
either way. -/
theorem ofText_eq_ofJson {text : String} {v : Json} (hv : Json.ofText text = .ok v)
    (hdistinct : (Source.parse text).root.Distinct) :
    (∃ r, ofText .json text = .ok r ∧ ofJson .json v = some r) ∨
      ∃ e, ofText .json text = .error e ∧ ofJson .json v = none := by
  obtain ⟨hroot, htrailing⟩ := Source.Document.read_eq_ok_iff.1 hv
  have hagree : ((reader .json).ofSource Json.maxDepth (Source.parse text).root).toOption = ofJson .json v :=
    agrees_reader agrees_json hdistinct hroot
  rw [ofText, Reader.ofText, Source.Document.read, htrailing]
  cases hread : (reader .json).ofSource Json.maxDepth (Source.parse text).root with
  | ok r =>
    rw [hread] at hagree
    exact .inl ⟨r, rfl, hagree.symm⟩
  | error e =>
    rw [hread] at hagree
    exact .inr ⟨e, rfl, hagree.symm⟩

/-- A response with its members out of order. -/
def lateText : String :=
  "\x7b\"errors\": [\x7b\"trace\": 7, \"message\": \"late\", \"locations\": [[1, 2]]\x7d], " ++
    "\"data\": \x7b\"b\": 1, \"a\": 2\x7d\x7d"

theorem ofText_eq_ofJson_late : ∃ v r, Json.ofText lateText = .ok v ∧ (Source.parse lateText).root.Distinct ∧
    ofText .json lateText = .ok r ∧ ofJson .json v = some r ∧
    r = ⟨some (.object [("a", .ofNat 2), ("b", .ofNat 1)]),
      some [⟨"late", [⟨1, 2⟩], none, none, [("trace", .ofNat 7)]⟩], none⟩ := by
  have hv : Json.ofText lateText = .ok (.object [("data", .object [("a", .ofNat 2), ("b", .ofNat 1)]),
      ("errors", .array [.object [("locations", .array [.array [.ofNat 1, .ofNat 2]]), ("message", .string "late"),
        ("trace", .ofNat 7)]])]) := by decide +kernel
  have hdistinct : (Source.parse lateText).root.Distinct := by decide +kernel
  have hstored : ofJson .json (.object [("data", .object [("a", .ofNat 2), ("b", .ofNat 1)]),
      ("errors", .array [.object [("locations", .array [.array [.ofNat 1, .ofNat 2]]), ("message", .string "late"),
        ("trace", .ofNat 7)]])]) = some ⟨some (.object [("a", .ofNat 2), ("b", .ofNat 1)]),
          some [⟨"late", [⟨1, 2⟩], none, none, [("trace", .ofNat 7)]⟩], none⟩ := by decide
  rcases ofText_eq_ofJson hv hdistinct with ⟨r, hr, hofJson⟩ | ⟨e, -, hnone⟩
  · exact ⟨_, r, hv, hdistinct, hr, hofJson, Option.some.inj (hofJson.symm.trans hstored)⟩
  · cases hnone.symm.trans hstored

end Response
end GraphCalls
