/-
Values of arguments, kept apart from everything else.

Calls correspond if they differ at most in the values that they pass, and there
position by position as some relation allows. What is made of corresponding
calls corresponds again: documents have one text and one list of variables
(`ofBatch_corresponds`), and a draft grants or refuses corresponding wishes
alike (`history_corresponds`).
-/
import GraphCalls.Proofs.Agreement
import GraphCalls.Proofs.Call.DraftHistory
import GraphCalls.Proofs.Call.OperationSyntax

namespace GraphCalls

/-- Two entries of one name whose values correspond. -/
def SameName {α : Type} (R : α → α → Prop) (x y : String × α) : Prop := x.1 = y.1 ∧ R x.2 y.2

variable (R : Json → Json → Prop)

structure Binding.Corresponds (a b : Binding) : Prop where
  name : a.name = b.name
  type : a.type = b.type
  value : R a.value b.value

structure Call.Corresponds (a b : Call) : Prop where
  field : a.field = b.field
  selection : a.selection = b.selection
  bindings : List.Forall₂ (Binding.Corresponds R) a.bindings b.bindings

def Batch.Corresponds (a b : Batch) : Prop := List.Forall₂ (SameName (Call.Corresponds R)) a.items b.items

/-- Two documents with one text and the same variables in the same order, the
values of which correspond position by position. -/
structure Document.Corresponds (a b : Document) : Prop where
  query : a.query = b.query
  variableValues : List.Forall₂ (SameName R) a.variableValues b.variableValues

structure Draft.Corresponds (a b : Draft) : Prop where
  registry : a.registry = b.registry
  kind : a.kind = b.kind
  batch : a.batch.Corresponds R b.batch

structure Draft.Wish.Corresponds (v w : Draft.Wish) : Prop where
  aliasName : v.aliasName = w.aliasName
  field : v.field = w.field
  args : List.Forall₂ (SameName R) v.args w.args
  selection : v.selection = w.selection

/-- Two attempts that went alike: both refused for one reason, or both granted,
and corresponding drafts afterwards. -/
structure Draft.Attempt.Corresponds (a b : Draft.Attempt) : Prop where
  result : Agree (Draft.Corresponds R) a.result b.result
  after : a.after.Corresponds R b.after

variable {R}

/-! ## Documents -/

namespace Document

theorem numbered_corresponds {as bs : List Binding} (h : List.Forall₂ (Binding.Corresponds R) as bs) :
    ∀ start, List.Forall₂ (fun v w => v.1 = w.1 ∧ v.2.Corresponds R w.2) (numbered start as) (numbered start bs) := by
  induction h with
  | nil => exact fun _ => .nil
  | cons hab _ ih => exact fun start => .cons ⟨rfl, hab⟩ (ih (start + 1))

theorem callText_corresponds (start : Nat) (aliasName : String) {a b : Call} (h : a.Corresponds R b) :
    callText start aliasName a = callText start aliasName b := by
  have hargs : (numbered start a.bindings).map argument = (numbered start b.bindings).map argument :=
    map_eq_of_forall₂ (fun hvw => by rw [argument, argument, hvw.1, hvw.2.name])
      (numbered_corresponds h.bindings start)
  rw [callText, callText, h.field, h.selection, hargs]

theorem callTexts_corresponds {as bs : List (String × Call)} (h : List.Forall₂ (SameName (Call.Corresponds R)) as bs) :
    ∀ start, callTexts start as = callTexts start bs := by
  induction h with
  | nil => exact fun _ => rfl
  | @cons x y _ _ hxy _ ih =>
    intro start
    obtain ⟨aliasName, a⟩ := x
    obtain ⟨_, b⟩ := y
    obtain ⟨rfl, hab⟩ := hxy
    have hlength : a.bindings.length = b.bindings.length := hab.bindings.length_eq
    rw [callTexts, callTexts, callText_corresponds start aliasName hab, hlength, ih]

theorem bindingsOf_corresponds {a b : Batch} (h : a.Corresponds R b) :
    List.Forall₂ (Binding.Corresponds R) (bindingsOf a) (bindingsOf b) :=
  List.rel_flatMap h fun _ _ hxy => hxy.2.bindings

/-- No value has a part in the text of a document. -/
theorem ofBatch_corresponds (kind : OperationKind) {a b : Batch} (h : a.Corresponds R b) :
    (ofBatch kind a).Corresponds R (ofBatch kind b) := by
  have hvars := numbered_corresponds (bindingsOf_corresponds h) 0
  have hdeclared : (numbered 0 (bindingsOf a)).map declaration = (numbered 0 (bindingsOf b)).map declaration :=
    map_eq_of_forall₂ (fun hvw => by rw [declaration, declaration, hvw.1, hvw.2.type]) hvars
  refine ⟨?_, ?_⟩
  · simp only [ofBatch, hdeclared, callTexts_corresponds h]
  · refine List.rel_map (fun v w hvw => ⟨?_, hvw.2.value⟩) hvars
    rw [hvw.1]

end Document

/-! ## Batches -/

theorem Batch.aliases_corresponds {a b : Batch} (h : a.Corresponds R b) : a.aliases = b.aliases :=
  map_eq_of_forall₂ (fun hxy => hxy.1) h

theorem Batch.insert_corresponds {a b : Batch} (h : a.Corresponds R b) (aliasName : String) {c d : Call}
    (hcd : c.Corresponds R d) : Agree (Batch.Corresponds R) (a.insert aliasName c) (b.insert aliasName d) := by
  by_cases ha : aliasName ∈ a.aliases
  · have hb : aliasName ∈ b.aliases := aliases_corresponds h ▸ ha
    rw [insert_of_mem ha, insert_of_mem hb]
    exact .error _
  · have hb : aliasName ∉ b.aliases := aliases_corresponds h ▸ ha
    rw [insert_of_not_mem ha, insert_of_not_mem hb]
    exact .ok (List.rel_append h (.cons ⟨rfl, hcd⟩ .nil))

/-! ## Drafts -/

namespace Draft

variable {d e : Draft}

theorem bind_corresponds (f : FieldDef) (field : String) {x y : String × Json} (h : SameName R x y) :
    Agree (Binding.Corresponds R) (bind f field x) (bind f field y) := by
  rw [bind, bind, h.1]
  cases f.arg? y.1 with
  | none => exact .error _
  | some a => exact .ok ⟨rfl, rfl, h.2⟩

/-- A call is planned by its names, whatever values it passes. -/
theorem call_corresponds (h : d.Corresponds R e) (field : String) {args args' : List (String × Json)}
    (hargs : List.Forall₂ (SameName R) args args') (selection : Option String) :
    Agree (Call.Corresponds R) (d.call field args selection) (e.call field args' selection) := by
  have hroot : d.rootField field = e.rootField field := by rw [rootField, rootField, h.registry, h.kind]
  rw [call, call, hroot]
  refine (Agree.of_eq (R := Eq) (fun _ => rfl) (e.rootField field)).bind ?_
  rintro f _ rfl
  refine (Agree.mapM (fun hxy => bind_corresponds f field hxy) hargs).bind fun hbs => ?_
  cases selection with
  | some s => exact .ok ⟨rfl, rfl, hbs⟩
  | none =>
    rw [h.registry]
    cases neededSelection e.registry f with
    | ok s => exact .ok ⟨rfl, rfl, hbs⟩
    | error err => exact .error _

theorem add_corresponds (h : d.Corresponds R e) (aliasName field : String) {args args' : List (String × Json)}
    (hargs : List.Forall₂ (SameName R) args args') (selection : Option String) :
    Agree (Draft.Corresponds R) (d.add aliasName field args selection) (e.add aliasName field args' selection) := by
  rw [add, add]
  refine (call_corresponds h field hargs selection).bind fun hc => ?_
  refine (Batch.insert_corresponds h.batch aliasName hc).bind fun hb => ?_
  exact .ok ⟨h.registry, h.kind, hb⟩

theorem attempt_corresponds (h : d.Corresponds R e) {v w : Wish} (hvw : v.Corresponds R w) :
    (d.attempt v).Corresponds R (e.attempt w) := by
  have hresult : Agree (Draft.Corresponds R) (d.attempt v).result (e.attempt w).result := by
    rw [attempt, attempt, hvw.aliasName, hvw.field, hvw.selection]
    exact add_corresponds h w.aliasName w.field hvw.args w.selection
  refine ⟨hresult, ?_⟩
  rw [Attempt.after, Attempt.after]
  generalize (d.attempt v).result = x, (e.attempt w).result = y at hresult
  cases hresult with
  | ok hde => exact hde
  | error _ => exact h

/-- Corresponding wishes, on drafts that correspond, go alike one after the
other. -/
theorem history_corresponds {vs ws : List Wish} (h : List.Forall₂ (Wish.Corresponds R) vs ws) :
    ∀ {d e : Draft}, d.Corresponds R e →
      List.Forall₂ (Attempt.Corresponds R) (d.history vs) (e.history ws) ∧ (d.finish vs).Corresponds R (e.finish ws) := by
  induction h with
  | nil => exact fun hde => ⟨.nil, hde⟩
  | cons hvw _ ih =>
    intro d e hde
    have hfirst := attempt_corresponds hde hvw
    obtain ⟨hrest, hfinish⟩ := ih hfirst.after
    exact ⟨.cons hfirst hrest, hfinish⟩

theorem start_corresponds (r : Registry) (kind : OperationKind) :
    Agree (Draft.Corresponds R) (start r kind) (start r kind) := by
  rw [start]
  cases r.rootType kind with
  | ok _ => exact .ok ⟨rfl, rfl, .nil⟩
  | error _ => exact .error _

end Draft
end GraphCalls
