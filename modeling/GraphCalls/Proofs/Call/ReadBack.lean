/-
A document has everything of its batch.

From the text of a document and the values of its variables, the kind of the
operation and all calls can be read back, in order; what is lost is only
whether a binding had the default type or none. So batches with the same
document differ at most in that (`ofBatch_lossless`).
-/
import GraphCalls.Proofs.Call.OperationReader

namespace GraphCalls

/-- What the reader asks of a call. White space is as good as any other
character, and names may be empty. -/
structure Call.Readable (call : Call) : Prop where
  field : Plain call.field
  names : ∀ bd ∈ call.bindings, Plain bd.name
  types : ∀ bd ∈ call.bindings, ∀ t ∈ bd.type, Plain t
  selection : ∀ s ∈ call.selection, Balanced s

instance (call : Call) : Decidable call.Readable :=
  decidable_of_iff (Plain call.field ∧ (∀ bd ∈ call.bindings, Plain bd.name) ∧
      (∀ bd ∈ call.bindings, ∀ t ∈ bd.type, Plain t) ∧ ∀ s ∈ call.selection, Balanced s)
    ⟨fun ⟨hf, hn, ht, hs⟩ => ⟨hf, hn, ht, hs⟩, fun h => ⟨h.field, h.names, h.types, h.selection⟩⟩

/-- What the reader asks of a batch. -/
def Batch.Readable (b : Batch) : Prop := ∀ item ∈ b.items, Plain item.1 ∧ item.2.Readable

instance (b : Batch) : Decidable b.Readable :=
  inferInstanceAs (Decidable (∀ item ∈ b.items, Plain item.1 ∧ item.2.Readable))

/-! ## Batches up to the default type -/

/-- A binding, its type the default one if it has none. -/
def Binding.typed (bd : Binding) : Binding := { bd with type := some (bd.type.getD "String!") }

def Call.typed (call : Call) : Call := { call with bindings := call.bindings.map Binding.typed }

def Batch.typed (b : Batch) : Batch := ⟨b.items.map fun item => (item.1, item.2.typed)⟩

namespace Document

/-! ## The reader -/

/-- The binding that an argument passes. -/
def readBinding (types : Entries String) (values : Entries Json) (arg : String × String) : Option Binding := do
  let type ← types.get? arg.2
  let value ← values.get? arg.2
  return ⟨arg.1, value, some type⟩

/-- The call that a written call makes. -/
def readItem (types : Entries String) (values : Entries Json) (c : CallSyntax) : Option (String × Call) := do
  let bindings ← c.args.mapM (readBinding types values)
  return (c.aliasName, ⟨c.field, c.selection, bindings⟩)

/-- The kind and the calls of a document. -/
def read (d : Document) : Option (OperationKind × Batch) := do
  let op ← OperationSyntax.read d.query
  let items ← op.calls.mapM (readItem op.declared d.variableValues)
  return (op.kind, ⟨items⟩)

theorem Passes.readBinding {types : Entries String} {values : Entries Json} {arg : String × String}
    {bd : Binding} (h : Passes types values arg bd) : readBinding types values arg = some bd.typed := by
  obtain ⟨hname, htype, hvalue⟩ := h
  rw [Document.readBinding, htype, hvalue, hname]
  rfl

theorem Makes.readItem {types : Entries String} {values : Entries Json} {item : String × Call}
    {c : CallSyntax} (h : Makes types values item c) :
    readItem types values c = some (item.1, item.2.typed) := by
  have hbindings : c.args.mapM (readBinding types values) = some (item.2.bindings.map Binding.typed) := by
    refine mapM_eq_some_iff.2 ?_
    rw [List.forall₂_map_right_iff]
    exact h.args.imp fun _ _ hp => hp.readBinding
  rw [Document.readItem, hbindings, h.aliasName, h.field, h.selection]
  rfl

/-! ## Documents of readable batches -/

theorem plain_variableName (n : Nat) : Plain (variableName n) := by
  intro c hc hmem
  simp only [variableName, String.toList_append, List.mem_append] at hmem
  rcases hmem with hmem | hmem
  · exact (by decide : Plain "input") c hc hmem
  · have hdigit : c.isDigit = true := by
      rw [Nat.toString_eq_repr, Nat.toList_repr] at hmem
      exact Nat.isDigit_of_mem_toDigits (by decide) (by decide) hmem
    have hnot : ∀ c ∈ reservedChars, c.isDigit = false := by simp [reservedChars]
    rw [hnot c hc] at hdigit
    cases hdigit

theorem exists_of_mem_callSyntaxes {c : CallSyntax} : ∀ {start : Nat} {items : List (String × Call)},
    c ∈ callSyntaxes start items → ∃ n, ∃ item ∈ items, c = callSyntax n item.1 item.2
  | start, item :: rest, h => by
    rw [callSyntaxes, List.mem_cons] at h
    rcases h with rfl | h
    · exact ⟨start, item, List.mem_cons_self .., rfl⟩
    · obtain ⟨n, i, hi, rfl⟩ := exists_of_mem_callSyntaxes h
      exact ⟨n, i, List.mem_cons_of_mem _ hi, rfl⟩

theorem snd_mem_of_mem_numbered {start : Nat} {bs : List Binding} {v : Nat × Binding}
    (h : v ∈ numbered start bs) : v.2 ∈ bs := by
  rw [← map_snd_numbered start bs]
  exact List.mem_map_of_mem h

theorem readable_callSyntax {aliasName : String} {call : Call} (ha : Plain aliasName) (h : call.Readable)
    (start : Nat) : (callSyntax start aliasName call).Readable where
  aliasName := ha
  field := h.field
  args := by
    intro a hm
    obtain ⟨v, hv, rfl⟩ := List.mem_map.1 hm
    exact ⟨h.names v.2 (snd_mem_of_mem_numbered hv), plain_variableName v.1⟩
  selection := h.selection

theorem readable_syntaxOf (kind : OperationKind) {b : Batch} (h : b.Readable) :
    (syntaxOf kind b).Readable where
  declared := by
    intro d hd
    obtain ⟨v, hv, rfl⟩ := List.mem_map.1 hd
    obtain ⟨item, hitem, hbd⟩ := List.mem_flatMap.1 (snd_mem_of_mem_numbered hv)
    refine ⟨plain_variableName v.1, ?_⟩
    cases htype : v.2.type with
    | none => exact (by decide : Plain defaultType)
    | some t => exact (h item hitem).2.types v.2 hbd t htype
  calls := by
    intro c hc
    obtain ⟨n, item, hitem, rfl⟩ := exists_of_mem_callSyntaxes hc
    exact readable_callSyntax (h item hitem).1 (h item hitem).2 n

/-- A document is read back as its kind and its batch. -/
theorem read_ofBatch (kind : OperationKind) {b : Batch} (h : b.Readable) :
    (ofBatch kind b).read = some (kind, b.typed) := by
  have hitems : (syntaxOf kind b).calls.mapM
      (readItem (syntaxOf kind b).declared (ofBatch kind b).variableValues) = some b.typed.items := by
    refine mapM_eq_some_iff.2 ?_
    rw [Batch.typed, List.forall₂_map_right_iff]
    exact ((makes_ofBatch kind b).imp fun _ _ hm => hm.readItem).flip
  rw [read, query_ofBatch, OperationSyntax.read_text (readable_syntaxOf kind h)]
  simp only [Option.bind_eq_bind, Option.bind_some, hitems]
  rfl

/-- **Nothing of a batch is lost** in its document: reading the text together
with the values gives back the kind and the calls, and batches with the same
document are the same up to the default type. -/
theorem ofBatch_lossless (kind : OperationKind) {b : Batch} (h : b.Readable) :
    (ofBatch kind b).read = some (kind, b.typed) ∧
      ∀ (kind' : OperationKind) (b' : Batch), b'.Readable → ofBatch kind b = ofBatch kind' b' →
        kind = kind' ∧ b.typed = b'.typed := by
  refine ⟨read_ofBatch kind h, fun kind' b' h' heq => ?_⟩
  have hread := read_ofBatch kind h
  rw [heq, read_ofBatch kind' h'] at hread
  simp only [Option.some.injEq, Prod.mk.injEq] at hread
  exact ⟨hread.1.symm, hread.2.symm⟩

/-- Calls with every part, without a type and a selection, with an empty
selection, and with no part that can be left out. -/
def sampleBatch : Batch :=
  ⟨[("a", ⟨"user", some "name,team(by:x)\x7bid,lead\x7bid\x7d\x7d",
      [⟨"id", .string "1", some "ID!"⟩, ⟨"at", .null, some "Int"⟩]⟩),
    ("b", ⟨"team", none, [⟨"slug", .string "core", none⟩]⟩),
    ("c", ⟨"ping", some "", []⟩),
    ("d", ⟨"ping", none, []⟩)]⟩

theorem ofBatch_lossless_sample :
    sampleBatch.Readable ∧ sampleBatch.typed.Readable ∧
      ofBatch .query sampleBatch = ofBatch .query sampleBatch.typed ∧
      (ofBatch .query sampleBatch).read = some (.query, sampleBatch.typed) ∧
      sampleBatch.typed = sampleBatch.typed.typed := by
  have hread : sampleBatch.Readable := by decide
  have htyped : sampleBatch.typed.Readable := by decide
  have hsame : ofBatch .query sampleBatch = ofBatch .query sampleBatch.typed := rfl
  have h := ofBatch_lossless .query hread
  exact ⟨hread, htyped, hsame, h.1, (h.2 .query sampleBatch.typed htyped hsame).2⟩

end Document
end GraphCalls
