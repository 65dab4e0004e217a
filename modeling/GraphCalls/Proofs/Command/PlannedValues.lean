/-
Values of arguments, from what a command is given to what is planned.

The values of a command line stand behind the equals signs of its arguments,
those of a file in the arguments of its entries. Each is read on its own, as
JSON or else as text, and no check looks at what it is: inputs that differ in
values only are refused alike or planned alike, and then the two documents
have one text (`values_only_in_variables`).
-/
import GraphCalls.Command.Plan
import GraphCalls.Proofs.Call.OperationReader
import GraphCalls.Proofs.Call.ValuesApart

namespace GraphCalls

variable (R : Json → Json → Prop)

/-- Two words with one name, which is not empty, before the first equals sign;
the values of the texts after it correspond. -/
def Pair.Corresponds (v w : String) : Prop :=
  ∃ name text text', name ≠ "" ∧ '=' ∉ name.toList ∧ v = name ++ "=" ++ text ∧ w = name ++ "=" ++ text' ∧
    R (valueOf text) (valueOf text')

structure CallWords.Corresponds (v w : CallWords) : Prop where
  field : v.field = w.field
  args : List.Forall₂ (Pair.Corresponds R) v.args w.args
  aliasName : v.aliasName = w.aliasName
  selection : v.selection = w.selection

structure BatchEntry.Corresponds (e f : BatchEntry) : Prop where
  field : e.field = f.field
  args : List.Forall₂ (SameName R) e.args f.args
  selection : e.selection = f.selection

variable {R}

/-! ## Words -/

namespace Pair

theorem split?_append {name : String} (text : String) (h : '=' ∉ name.toList) :
    split? (name ++ "=" ++ text) = some (name, text) := by
  have hword : (name ++ "=" ++ text).toList = name.toList ++ '=' :: text.toList := by simp
  have hspan : (name ++ "=" ++ text).toList.span (· != '=') = (name.toList, '=' :: text.toList) := by
    rw [hword]
    refine span_append (fun c hc => bne_iff_ne.2 ?_) (by simp)
    rintro rfl
    exact h hc
  rw [split?, hspan]
  simp only [String.ofList_toList]

theorem parse_append {name : String} (text : String) (hne : name ≠ "") (h : '=' ∉ name.toList) :
    parse (name ++ "=" ++ text) = .ok (name, text) := by
  rw [parse, split?_append text h]
  simp [hne]

theorem argument_corresponds {v w : String} (h : Corresponds R v w) :
    Agree (SameName R) (argument v) (argument w) := by
  obtain ⟨name, text, text', hne, hname, rfl, rfl, hvalue⟩ := h
  rw [argument, argument, parse_append text hne hname, parse_append text' hne hname]
  exact .ok ⟨rfl, hvalue⟩

end Pair

/-! ## Plans -/

namespace Plan

/-- Batches that differ at most in values, and so do their documents. -/
def Planned (R : Json → Json → Prop) (kind : OperationKind) (a b : Batch) : Prop :=
  a.Corresponds R b ∧ (Document.ofBatch kind a).Corresponds R (Document.ofBatch kind b)

theorem planned_of_corresponds (kind : OperationKind) {a b : Batch} (h : a.Corresponds R b) : Planned R kind a b :=
  ⟨h, Document.ofBatch_corresponds kind h⟩

theorem ofCall_corresponds (r : Registry) (kind : OperationKind) {v w : CallWords} (h : v.Corresponds R w) :
    Agree (Planned R kind) (ofCall r kind v) (ofCall r kind w) := by
  have hargs : Agree (List.Forall₂ (SameName R)) (v.args.mapM Pair.argument) (w.args.mapM Pair.argument) :=
    Agree.mapM (fun hvw => Pair.argument_corresponds hvw) h.args
  have hstart : Agree (Draft.Corresponds R) (Draft.start r kind) (Draft.start r kind) := Draft.start_corresponds r kind
  rw [ofCall, ofCall, h.field, h.aliasName, h.selection]
  refine hargs.bind fun hargs => (hstart.mapError CommandError.call).bind fun hde => ?_
  have hadd := Draft.add_corresponds hde (w.aliasName.getD w.field) w.field hargs w.selection
  exact (hadd.mapError CommandError.call).bind fun hde => .ok (planned_of_corresponds kind hde.batch)

theorem ofEntries_corresponds (r : Registry) (kind : OperationKind) {es fs : Entries BatchEntry}
    (h : List.Forall₂ (SameName (BatchEntry.Corresponds R)) es fs) :
    Agree (Planned R kind) (ofEntries r kind es) (ofEntries r kind fs) := by
  have hstep : ∀ {d e : Draft} {x y : String × BatchEntry}, d.Corresponds R e →
      SameName (BatchEntry.Corresponds R) x y → Agree (Draft.Corresponds R)
        ((d.add x.1 x.2.field x.2.args x.2.selection).mapError CommandError.call)
        ((e.add y.1 y.2.field y.2.args y.2.selection).mapError CommandError.call) := by
    intro d e x y hde hxy
    rw [hxy.1, hxy.2.field, hxy.2.selection]
    exact (Draft.add_corresponds hde y.1 y.2.field hxy.2.args y.2.selection).mapError _
  have hstart : Agree (Draft.Corresponds R) (Draft.start r kind) (Draft.start r kind) := Draft.start_corresponds r kind
  rw [ofEntries, ofEntries]
  refine (hstart.mapError CommandError.call).bind fun hde => ?_
  have hloop := Agree.foldlM (R := SameName (BatchEntry.Corresponds R)) (fun hde hxy => hstep hde hxy) h hde
  exact hloop.bind fun hde => .ok (planned_of_corresponds kind hde.batch)

/-- **The values of arguments reach nothing but the variables.** Batches, runs
of a draft, entries of a file or words of a command line that differ only in
the values that they pass are refused for one reason or planned alike, and the
documents have one text and the same variables in the same order. Where `R`
relates the values passed, it relates those of the variables, position by
position; with an `R` that always holds the values are any at all. -/
theorem values_only_in_variables (R : Json → Json → Prop) (r : Registry) (kind : OperationKind) :
    (∀ {a b : Batch}, a.Corresponds R b → (Document.ofBatch kind a).Corresponds R (Document.ofBatch kind b)) ∧
      (∀ {vs ws : List Draft.Wish}, List.Forall₂ (Draft.Wish.Corresponds R) vs ws →
        Agree (fun d e => List.Forall₂ (Draft.Attempt.Corresponds R) (d.history vs) (e.history ws) ∧
          Planned R kind (d.finish vs).batch (e.finish ws).batch) (Draft.start r kind) (Draft.start r kind)) ∧
      (∀ {es fs : Entries BatchEntry}, List.Forall₂ (SameName (BatchEntry.Corresponds R)) es fs →
        Agree (Planned R kind) (ofEntries r kind es) (ofEntries r kind fs)) ∧
      (∀ {v w : CallWords}, v.Corresponds R w → Agree (Planned R kind) (ofCall r kind v) (ofCall r kind w)) := by
  refine ⟨fun h => Document.ofBatch_corresponds kind h, fun h => ?_, fun h => ofEntries_corresponds r kind h,
    fun h => ofCall_corresponds r kind h⟩
  have hstart : Agree (Draft.Corresponds R) (Draft.start r kind) (Draft.start r kind) := Draft.start_corresponds r kind
  refine hstart.imp fun hde => ?_
  obtain ⟨hhistory, hfinish⟩ := Draft.history_corresponds h hde
  exact ⟨hhistory, planned_of_corresponds kind hfinish.batch⟩

/-- A schema with a field that takes an argument. -/
def lookupRegistry : Registry :=
  ⟨[Roster.object "Query" [⟨"user", none, [⟨"id", none, .named .scalar "String", none⟩],
    .named .scalar "String", false, none⟩], Roster.text], "Query", none, none⟩

/-- The second value looks like a part of a document. -/
theorem values_only_in_variables_lookup :
    CallWords.Corresponds (fun _ _ => True) ⟨"user", ["id=1"], none, none⟩
        ⟨"user", ["id=) \x7b a \x7d, b: user(id: $v0"], none, none⟩ ∧
      ∃ a b, ofCall lookupRegistry .query ⟨"user", ["id=1"], none, none⟩ = .ok a ∧
        ofCall lookupRegistry .query ⟨"user", ["id=) \x7b a \x7d, b: user(id: $v0"], none, none⟩ = .ok b ∧
        a ≠ b ∧ (Document.ofBatch .query a).query = (Document.ofBatch .query b).query := by
  have hvw : CallWords.Corresponds (fun _ _ => True) ⟨"user", ["id=1"], none, none⟩
      ⟨"user", ["id=) \x7b a \x7d, b: user(id: $v0"], none, none⟩ :=
    ⟨rfl, .cons ⟨"id", "1", ") \x7b a \x7d, b: user(id: $v0", by decide, by decide, rfl, rfl, trivial⟩ .nil, rfl, rfl⟩
  have hv : ofCall lookupRegistry .query ⟨"user", ["id=1"], none, none⟩ =
      .ok ⟨[("user", ⟨"user", none, [⟨"id", .number (.int 1), some "String"⟩]⟩)]⟩ := by decide +kernel
  have hw : ofCall lookupRegistry .query ⟨"user", ["id=) \x7b a \x7d, b: user(id: $v0"], none, none⟩ =
      .ok ⟨[("user", ⟨"user", none, [⟨"id", .string ") \x7b a \x7d, b: user(id: $v0", some "String"⟩]⟩)]⟩ := by
    decide +kernel
  have hplanned := (values_only_in_variables (fun _ _ => True) lookupRegistry .query).2.2.2 hvw
  rw [hv, hw] at hplanned
  cases hplanned with
  | ok h => exact ⟨hvw, _, _, hv, hw, by decide, h.2.query⟩

end Plan
end GraphCalls
