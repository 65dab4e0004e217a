/-
The variables of a document: every binding of a batch has one of its own.

A document shows its variables in three places: declared in the head, passed
by the calls and as the names of the values. All three are `input0`, `input1`
and so on, one for each binding in order, so that no value is overwritten and
no call passes a variable of another (`ofBatch_allocates`).
-/
import GraphCalls.Proofs.Call.OperationSyntax

namespace GraphCalls
namespace Document

theorem map_snd_numbered_comp {α : Type} (f : Binding → α) (bs : List Binding) :
    (numbered 0 bs).map (fun v => f v.2) = bs.map f := by
  conv_rhs => rw [← map_snd_numbered 0 bs]
  rw [List.map_map]
  rfl

/-- Setting the values one after the other keeps them all. -/
theorem setAll_variableValues (kind : OperationKind) (b : Batch) :
    Entries.setAll [] (ofBatch kind b).variableValues = (ofBatch kind b).variableValues := by
  rw [Entries.setAll_of_nodup, List.nil_append]
  rw [List.nil_append, map_fst_variableValues_ofBatch]
  exact nodup_variableNames _

/-- A call without bindings has no parentheses. -/
theorem Makes.text_of_bindings_nil {types : Entries String} {values : Entries Json} {item : String × Call}
    {c : CallSyntax} (h : Makes types values item c) (hb : item.2.bindings = []) :
    c.text = item.1 ++ ":" ++ item.2.field ++ CallSyntax.selectionText item.2.selection := by
  have hargs := h.args
  rw [hb, List.forall₂_nil_right_iff] at hargs
  rw [CallSyntax.text_of_args_nil hargs, h.aliasName, h.field, h.selection]

/-- **The document of a batch** is the text of an operation that declares the
variables `input0`, `input1`, … in order, one for each binding; the same
names, in the same order, are those of the values and those that the calls
pass. They are distinct, and each has the type and the value of its binding.
Each call passes the variables of its own bindings, under the names of their
arguments. -/
theorem ofBatch_allocates (kind : OperationKind) (b : Batch) :
    ∃ op : OperationSyntax, (ofBatch kind b).query = op.text ∧ op.kind = kind ∧
      op.declared.map Prod.fst = variableNames (bindingsOf b).length ∧
      (ofBatch kind b).variableValues.map Prod.fst = variableNames (bindingsOf b).length ∧
      op.references = variableNames (bindingsOf b).length ∧
      (variableNames (bindingsOf b).length).Nodup ∧
      op.declared.map Prod.snd = (bindingsOf b).map (fun bd => bd.type.getD "String!") ∧
      (ofBatch kind b).variableValues.map Prod.snd = (bindingsOf b).map (·.value) ∧
      Entries.setAll [] (ofBatch kind b).variableValues = (ofBatch kind b).variableValues ∧
      List.Forall₂ (fun item c => Makes op.declared (ofBatch kind b).variableValues item c ∧
        (item.2.bindings = [] →
          c.text = item.1 ++ ":" ++ item.2.field ++ CallSyntax.selectionText item.2.selection))
        b.items op.calls := by
  refine ⟨syntaxOf kind b, query_ofBatch kind b, rfl, map_fst_declared_syntaxOf kind b,
    map_fst_variableValues_ofBatch kind b, references_syntaxOf kind b, nodup_variableNames _, ?_, ?_,
    setAll_variableValues kind b, ?_⟩
  · rw [← map_snd_numbered_comp, syntaxOf, List.map_map]
    rfl
  · rw [← map_snd_numbered_comp, ofBatch, List.map_map]
    rfl
  · exact (makes_ofBatch kind b).imp fun _ _ h => ⟨h, h.text_of_bindings_nil⟩

end Document
end GraphCalls
