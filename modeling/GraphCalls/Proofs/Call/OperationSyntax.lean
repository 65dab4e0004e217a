/-
Operations as syntax: the parts of a document's text, and the text of the
parts.

The text of a batch is that of its syntax (`query_ofBatch`), whatever the
names and types in it look like; the syntax has the lists of variables that
the text shows only run together. A call has its syntax in every batch, but for
the numbers of its variables (`raisedBy_of_split`).
-/
import GraphCalls.Call.Document
import GraphCalls.Entries
import Mathlib.Data.List.Forall2
import Std.Data.String.ToNat

namespace GraphCalls

/-- A call as a document writes it, its arguments with the variables that
they pass. -/
structure CallSyntax where
  aliasName : String
  field : String
  args : List (String × String)
  selection : Option String

/-- An operation as a document writes it, its variables with their types. -/
structure OperationSyntax where
  kind : OperationKind
  declared : List (String × String)
  calls : List CallSyntax

namespace CallSyntax

/-- A selection in braces, or nothing. -/
def selectionText : Option String → String
  | some s => "\x7b" ++ s ++ "\x7d"
  | none => ""

/-- An argument and its variable. -/
def argumentText (a : String × String) : String := a.1 ++ ":$" ++ a.2

/-- The text of a call: `alias:field(arg:$variable, …){selection}`, without
parentheses if there are no arguments. -/
def text (c : CallSyntax) : String :=
  c.aliasName ++ ":" ++ c.field ++ Document.parenthesised ", " (c.args.map argumentText) ++
    selectionText c.selection

theorem text_of_args_nil {c : CallSyntax} (h : c.args = []) :
    c.text = c.aliasName ++ ":" ++ c.field ++ selectionText c.selection := by
  simp [text, h, Document.parenthesised]

end CallSyntax

namespace OperationSyntax

/-- A declared variable and its type. -/
def declarationText (v : String × String) : String := "$" ++ v.1 ++ ":" ++ v.2

/-- The text of an operation: `kind queryName($variable:type,…){call,…}`,
without parentheses if there are no variables. -/
def text (op : OperationSyntax) : String :=
  op.kind.text ++ " " ++ "queryName" ++
    Document.parenthesised "," (op.declared.map declarationText) ++
    "\x7b" ++ String.intercalate "," (op.calls.map CallSyntax.text) ++ "\x7d"

/-- The variables that the calls pass, call by call. -/
def references (op : OperationSyntax) : List String := op.calls.flatMap (·.args.map Prod.snd)

end OperationSyntax

/-! ## The syntax of a batch -/

namespace Document

theorem map_snd_numbered : ∀ (start : Nat) (bs : List Binding), (numbered start bs).map Prod.snd = bs
  | _, [] => rfl
  | start, b :: bs => by rw [numbered, List.map_cons, map_snd_numbered]

theorem map_fst_numbered : ∀ (start : Nat) (bs : List Binding),
    (numbered start bs).map Prod.fst = List.range' start bs.length
  | _, [] => rfl
  | start, b :: bs => by
    rw [numbered, List.map_cons, map_fst_numbered, List.length_cons, List.range'_succ]

theorem numbered_append : ∀ (start : Nat) (as bs : List Binding),
    numbered start (as ++ bs) = numbered start as ++ numbered (start + as.length) bs
  | _, [], _ => rfl
  | start, a :: as, bs => by
    have hlen : start + (a :: as).length = start + 1 + as.length := by
      rw [List.length_cons]; omega
    rw [List.cons_append, numbered, numbered, numbered_append, List.cons_append, hlen]

/-- A call whose first variable has a given number. -/
def callSyntax (start : Nat) (aliasName : String) (call : Call) : CallSyntax :=
  ⟨aliasName, call.field, (numbered start call.bindings).map fun v => (v.2.name, variableName v.1),
    call.selection⟩

/-- Calls in order, the variables numbered from `start` on. -/
def callSyntaxes (start : Nat) : List (String × Call) → List CallSyntax
  | [] => []
  | (aliasName, call) :: rest =>
    callSyntax start aliasName call :: callSyntaxes (start + call.bindings.length) rest

/-- The operation of a batch. -/
def syntaxOf (kind : OperationKind) (b : Batch) : OperationSyntax :=
  ⟨kind, (numbered 0 (bindingsOf b)).map fun v => (variableName v.1, v.2.type.getD defaultType),
    callSyntaxes 0 b.items⟩

theorem callTexts_eq_map : ∀ (start : Nat) (items : List (String × Call)),
    callTexts start items = (callSyntaxes start items).map CallSyntax.text
  | _, [] => rfl
  | start, (aliasName, call) :: rest => by
    rw [callTexts, callSyntaxes, List.map_cons, callTexts_eq_map]
    congr 1
    simp only [callText, callSyntax, CallSyntax.text, CallSyntax.selectionText, List.map_map]
    rfl

/-- The text of a batch is the text of its operation. -/
theorem query_ofBatch (kind : OperationKind) (b : Batch) :
    (ofBatch kind b).query = (syntaxOf kind b).text := by
  simp only [ofBatch, OperationSyntax.text, syntaxOf, operationName, callTexts_eq_map, List.map_map]
  rfl

theorem callSyntaxes_append : ∀ (start : Nat) (before after : List (String × Call)),
    callSyntaxes start (before ++ after) =
      callSyntaxes start before ++ callSyntaxes (start + (before.flatMap (·.2.bindings)).length) after
  | _, [], _ => rfl
  | start, (aliasName, call) :: before, after => by
    rw [List.cons_append, callSyntaxes, callSyntaxes, callSyntaxes_append, List.flatMap_cons, List.length_append,
      ← Nat.add_assoc, List.cons_append]

theorem length_callSyntaxes : ∀ (start : Nat) (items : List (String × Call)),
    (callSyntaxes start items).length = items.length
  | _, [] => rfl
  | start, (aliasName, call) :: rest => by
    rw [callSyntaxes, List.length_cons, length_callSyntaxes, List.length_cons]

/-- Two arguments are written alike, but for the number of the variable: that
of the second is higher by `n`. -/
def RaisedArgument (n : Nat) (a a' : String × String) : Prop :=
  a'.1 = a.1 ∧ ∃ i, a.2 = variableName i ∧ a'.2 = variableName (i + n)

/-- Two calls are written alike, but for the numbers of their variables. -/
structure RaisedBy (n : Nat) (c c' : CallSyntax) : Prop where
  aliasName : c'.aliasName = c.aliasName
  field : c'.field = c.field
  selection : c'.selection = c.selection
  args : List.Forall₂ (RaisedArgument n) c.args c'.args

theorem raisedArguments_numbered (n : Nat) : ∀ (i : Nat) (bs : List Binding), List.Forall₂ (RaisedArgument n)
    ((numbered i bs).map fun v => (v.2.name, variableName v.1))
    ((numbered (i + n) bs).map fun v => (v.2.name, variableName v.1))
  | _, [] => .nil
  | i, b :: bs => by
    have hrest := raisedArguments_numbered n (i + 1) bs
    rw [Nat.add_right_comm] at hrest
    exact .cons ⟨rfl, i, rfl, rfl⟩ hrest

theorem raisedBy_callSyntax (n : Nat) (aliasName : String) (call : Call) :
    RaisedBy n (callSyntax 0 aliasName call) (callSyntax n aliasName call) := by
  have hargs := raisedArguments_numbered n 0 call.bindings
  rw [Nat.zero_add] at hargs
  exact ⟨rfl, rfl, rfl, hargs⟩

/-- A call is written in the document of a batch as in one of its own, its
variables raised by the number of bindings before it. -/
theorem raisedBy_of_split (kind : OperationKind) (before after : List (String × Call)) (item : String × Call) :
    ∃ c c', (syntaxOf kind ⟨[item]⟩).calls = [c] ∧
      (syntaxOf kind ⟨before ++ item :: after⟩).calls[before.length]? = some c' ∧
      RaisedBy (before.flatMap (·.2.bindings)).length c c' := by
  refine ⟨_, _, rfl, ?_, raisedBy_callSyntax _ item.1 item.2⟩
  simp only [syntaxOf]
  rw [callSyntaxes_append, callSyntaxes, List.getElem?_append_right (Nat.le_of_eq (length_callSyntaxes ..)),
    length_callSyntaxes, Nat.sub_self, Nat.zero_add]
  rfl

/-! ## Variables -/

theorem variableName_injective {m n : Nat} (h : variableName m = variableName n) : m = n := by
  simp only [variableName, String.append_right_inj] at h
  exact Nat.repr_injective h

/-- The names of the first `n` variables. -/
def variableNames (n : Nat) : List String := (List.range n).map variableName

theorem nodup_variableNames (n : Nat) : (variableNames n).Nodup := by
  refine List.Pairwise.map _ (fun i j hne h => hne (variableName_injective h)) List.nodup_range

theorem map_variableName_numbered (bs : List Binding) :
    (numbered 0 bs).map (fun v => variableName v.1) = variableNames bs.length := by
  rw [variableNames, List.range_eq_range', ← map_fst_numbered, List.map_map]
  rfl

theorem map_fst_declared_syntaxOf (kind : OperationKind) (b : Batch) :
    (syntaxOf kind b).declared.map Prod.fst = variableNames (bindingsOf b).length := by
  rw [← map_variableName_numbered, syntaxOf, List.map_map]
  rfl

theorem map_fst_variableValues_ofBatch (kind : OperationKind) (b : Batch) :
    (ofBatch kind b).variableValues.map Prod.fst = variableNames (bindingsOf b).length := by
  rw [← map_variableName_numbered, ofBatch, List.map_map]
  rfl

/-- An argument passes a binding: it has the binding's name, and a variable
with the binding's value and type. -/
def Passes (types : Entries String) (values : Entries Json) (arg : String × String) (b : Binding) : Prop :=
  arg.1 = b.name ∧ types.get? arg.2 = some (b.type.getD defaultType) ∧ values.get? arg.2 = some b.value

/-- A written call makes a call: all parts are the call's, and each argument
passes the binding in its place. -/
structure Makes (types : Entries String) (values : Entries Json) (item : String × Call) (c : CallSyntax) :
    Prop where
  aliasName : c.aliasName = item.1
  field : c.field = item.2.field
  selection : c.selection = item.2.selection
  args : List.Forall₂ (Passes types values) c.args item.2.bindings

theorem passes_of_mem {kind : OperationKind} {b : Batch} {v : Nat × Binding}
    (hv : v ∈ numbered 0 (bindingsOf b)) :
    Passes (syntaxOf kind b).declared (ofBatch kind b).variableValues (v.2.name, variableName v.1) v.2 := by
  refine ⟨rfl, Entries.get?_of_mem ?_ ?_, Entries.get?_of_mem ?_ ?_⟩
  · rw [map_fst_declared_syntaxOf]; exact nodup_variableNames _
  · exact List.mem_map.2 ⟨v, hv, rfl⟩
  · rw [map_fst_variableValues_ofBatch]; exact nodup_variableNames _
  · exact List.mem_map.2 ⟨v, hv, rfl⟩

theorem forall₂_map_numbered {R : String × String → Binding → Prop} : ∀ {start : Nat} {bs : List Binding},
    (∀ v ∈ numbered start bs, R (v.2.name, variableName v.1) v.2) →
      List.Forall₂ R ((numbered start bs).map fun v => (v.2.name, variableName v.1)) bs
  | _, [], _ => .nil
  | start, b :: bs, h => by
    simp only [numbered, List.mem_cons, forall_eq_or_imp] at h
    exact .cons h.1 (forall₂_map_numbered h.2)

/-- The numbers go on from one call to the next, so that each call passes the
variables of its own bindings. -/
theorem forall₂_callSyntaxes {types : Entries String} {values : Entries Json} :
    ∀ {start : Nat} {items : List (String × Call)},
      (∀ v ∈ numbered start (items.flatMap (·.2.bindings)),
        Passes types values (v.2.name, variableName v.1) v.2) →
      List.Forall₂ (Makes types values) items (callSyntaxes start items)
  | _, [], _ => .nil
  | start, (aliasName, call) :: rest, h => by
    simp only [List.flatMap_cons, numbered_append, List.mem_append] at h
    exact .cons ⟨rfl, rfl, rfl, forall₂_map_numbered fun v hv => h v (.inl hv)⟩
      (forall₂_callSyntaxes fun v hv => h v (.inr hv))

theorem makes_ofBatch (kind : OperationKind) (b : Batch) :
    List.Forall₂ (Makes (syntaxOf kind b).declared (ofBatch kind b).variableValues) b.items
      (syntaxOf kind b).calls :=
  forall₂_callSyntaxes fun _ hv => passes_of_mem hv

theorem flatMap_args_callSyntaxes : ∀ (start : Nat) (items : List (String × Call)),
    (callSyntaxes start items).flatMap (·.args.map Prod.snd) =
      (numbered start (items.flatMap (·.2.bindings))).map fun v => variableName v.1
  | _, [] => rfl
  | start, (aliasName, call) :: rest => by
    rw [callSyntaxes, List.flatMap_cons, flatMap_args_callSyntaxes, List.flatMap_cons, numbered_append,
      List.map_append, callSyntax, List.map_map]
    rfl

theorem references_syntaxOf (kind : OperationKind) (b : Batch) :
    (syntaxOf kind b).references = variableNames (bindingsOf b).length := by
  rw [OperationSyntax.references, syntaxOf, flatMap_args_callSyntaxes, ← map_variableName_numbered]
  rfl

end Document
end GraphCalls
