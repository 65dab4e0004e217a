/-
What comes of a server's answer: the schema, whole.

A reference with more modifiers than are asked for ends in one without a type
inside, at a level where that can only mean that it was cut, and is reported
as too deep; all others are read as they are. So a registry is made of the
server's own types or not at all (`ofJson_answer`).
-/
import GraphCalls.Proofs.Call.RequestBody
import GraphCalls.Proofs.Schema.AnswerPayload

namespace GraphCalls

/-- The references inside a field. -/
def FieldDef.references (f : FieldDef) : List TypeRef := f.type :: f.args.map (·.type)

theorem TypeKind.parse_text (kind : TypeKind) : TypeKind.parse kind.text = .ok kind := by cases kind <;> rfl

namespace Introspection

/-- A reading that is only too deep or right. -/
def fitting {α : Type} (fits : Prop) [Decidable fits] (a : α) : Except SchemaError α :=
  if fits then .ok a else .error .tooDeep

section
variable {α β γ : Type} {p q : Prop} [Decidable p] [Decidable q]

theorem fitting_congr (h : p ↔ q) (a : α) : fitting p a = fitting q a := by simp [fitting, h]

theorem fitting_bind (a : α) (b : β) (f : α → β → γ) :
    (do let x ← fitting p a; let y ← fitting q b; return f x y) = fitting (p ∧ q) (f a b) := by
  by_cases hp : p
  · by_cases hq : q
    · simp only [fitting, if_pos hp, if_pos hq, if_pos (And.intro hp hq)]
      rfl
    · simp only [fitting, if_pos hp, if_neg hq, if_neg fun h : p ∧ q => hq h.2]
      rfl
  · simp only [fitting, if_neg hp, if_neg fun h : p ∧ q => hp h.1]
    rfl

variable {f : β → Except SchemaError α} {g : α → β} {fits : α → Prop} [DecidablePred fits]

theorem mapM_fitting : ∀ {l : List α}, (∀ a ∈ l, f (g a) = fitting (fits a) a) →
    (l.map g).mapM f = fitting (∀ a ∈ l, fits a) l
  | [], _ => rfl
  | a :: l, h => by
    rw [List.map_cons, List.mapM_cons, h a (List.mem_cons_self ..),
      mapM_fitting fun b hb => h b (List.mem_cons_of_mem _ hb), fitting_bind]
    exact fitting_congr List.forall_mem_cons.symm _

theorem checkAll_fitting {o : Option (List α)} (h : ∀ a ∈ o.getD [], f (g a) = fitting (fits a) a) :
    checkAll f (o.map (·.map g)) = fitting (∀ a ∈ o.getD [], fits a) o := by
  cases o with
  | none => rfl
  | some l =>
    rw [Option.getD_some] at h
    rw [Option.map_some, checkAll, mapM_fitting h]
    by_cases hl : ∀ a ∈ l, fits a
    · simp only [fitting, Option.getD_some, if_pos hl]
      rfl
    · simp only [fitting, Option.getD_some, if_neg hl]
      rfl

end

namespace RefPayload

variable (level : Nat) (kind : String) (name : Option String) (inner : RefPayload)

theorem check_some : (RefPayload.mk kind name (some inner)).check level =
    (TypeKind.parse kind).bind fun kind =>
      if kind.isWrapper then
        if maxWrapperDepth ≤ level then .error .tooDeep
        else (inner.check (level + 1)).bind fun ref => .ok (if kind = .list then .list ref else .nonNull ref)
      else match name with
        | none => .error (.malformed (.unnamedReference kind))
        | some name => .ok (.named kind name) := by
  rfl

theorem check_none : (RefPayload.mk kind name none).check level =
    (TypeKind.parse kind).bind fun kind =>
      if kind.isWrapper then
        if maxWrapperDepth ≤ level then .error .tooDeep else .error (.malformed (.emptyWrapper kind))
      else match name with
        | none => .error (.malformed (.unnamedReference kind))
        | some name => .ok (.named kind name) := by
  rfl

end RefPayload

/-- A reference of which `depth` levels are asked for, below as many as make
up the rest of what can be asked for. Where it is cut, the level is the
deepest, and so the missing type is not taken for a fault. -/
theorem check_reference : ∀ {level depth : Nat} {ref : TypeRef}, level + depth = maxWrapperDepth →
    ref.unwrapped.kind.isWrapper = false → (ref.payload depth).check level = fitting (ref.depth ≤ depth) ref
  | level, depth, .named kind name, _, hn => by
    have hkind : kind.isWrapper = false := hn
    rw [TypeRef.payload, RefPayload.check_none, TypeKind.parse_text]
    simp [fitting, Except.bind, hkind, TypeRef.depth]
  | level, 0, .list inner, h, _ | level, 0, .nonNull inner, h, _ => by
    rw [TypeRef.payload, RefPayload.check_none, TypeKind.parse_text]
    simp [fitting, Except.bind, TypeKind.isWrapper, TypeRef.depth, ← h]
  | level, depth + 1, .list inner, h, hn | level, depth + 1, .nonNull inner, h, hn => by
    have hlevel : ¬ maxWrapperDepth ≤ level := by omega
    rw [TypeRef.payload, RefPayload.check_some, TypeKind.parse_text,
      check_reference (by omega : level + 1 + depth = maxWrapperDepth)
        (show inner.unwrapped.kind.isWrapper = false from hn)]
    by_cases hfits : inner.depth ≤ depth <;>
      simp [fitting, Except.bind, TypeKind.isWrapper, hlevel, hfits, TypeRef.depth]

theorem check_inputValue {i : InputValue} (h : i.type.unwrapped.kind.isWrapper = false) :
    i.payload.check = fitting (i.type.depth ≤ maxWrapperDepth) i := by
  simp only [InputValue.payload, InputPayload.check, check_reference (Nat.zero_add _) h]
  by_cases hfits : i.type.depth ≤ maxWrapperDepth <;> simp only [fitting, hfits] <;> rfl

theorem check_fieldDef {f : FieldDef} (h : ∀ ref ∈ f.references, ref.unwrapped.kind.isWrapper = false) :
    f.payload.check = fitting (∀ ref ∈ f.references, ref.depth ≤ maxWrapperDepth) f := by
  obtain ⟨htype, hargs⟩ := List.forall_mem_cons.1 h
  rw [List.forall_mem_map] at hargs
  simp only [FieldDef.payload, FieldPayload.check]
  rw [mapM_fitting fun i hi => check_inputValue (hargs i hi), check_reference (Nat.zero_add _) htype, fitting_bind]
  refine fitting_congr ?_ f
  rw [FieldDef.references, List.forall_mem_cons, List.forall_mem_map, and_comm]

theorem forall_mem_references {t : TypeDef} {p : TypeRef → Prop} : (∀ ref ∈ t.references, p ref) ↔
    (∀ f ∈ t.fields.getD [], ∀ ref ∈ f.references, p ref) ∧ ∀ i ∈ t.inputFields.getD [], p i.type := by
  simp only [TypeDef.references, FieldDef.references, List.forall_mem_append, List.forall_mem_flatMap,
    List.forall_mem_map]

theorem check_typeDef {t : TypeDef} (hkind : t.kind.isWrapper = false)
    (h : ∀ ref ∈ t.references, ref.unwrapped.kind.isWrapper = false) :
    t.payload.check = fitting (∀ ref ∈ t.references, ref.depth ≤ maxWrapperDepth) t := by
  obtain ⟨hfields, hinputs⟩ := forall_mem_references.1 h
  rw [TypeDef.payload, TypePayload.check, TypeKind.parse_text]
  change (if t.kind.isWrapper = true then Except.error _ else _) = _
  rw [if_neg (by simp [hkind]), checkAll_fitting fun f hf => check_fieldDef (hfields f hf),
    checkAll_fitting fun i hi => check_inputValue (hinputs i hi), fitting_bind]
  exact fitting_congr forall_mem_references.symm t

end Introspection

open Introspection

/-- **A server's answer, read back.** What is sent is the text of the document
that the server answers. If no reference of the schema has more modifiers than
are asked for, the registry of the answer is that of the schema's types, or
fails as that does; else the schema is too deep. A single reference is answered
down to the levels that are asked for, and read as the whole reference or as too
deep. -/
theorem ServerSchema.ofJson_answer (s : ServerSchema) :
    (∀ headers, Executor.introspectionRequest headers =
      .ok ⟨(RequestBody.toJson ⟨Block.text document, none⟩).compact, headers⟩) ∧
    (Registry.ofJson s.answer =
      if ∀ t ∈ s.types, ∀ ref ∈ t.references, ref.depth ≤ maxWrapperDepth then
        Registry.ofTypes s.queryType s.mutationType s.subscriptionType s.types
      else .error .tooDeep) ∧
    ∀ t ∈ s.types, ∀ ref ∈ t.references, ∃ p,
      RefPayload.ofJson? ((Asked.reference maxWrapperDepth).answer ref.tree) = some p ∧
        p.levels = min ref.depth maxWrapperDepth ∧
        p.check 0 = if ref.depth ≤ maxWrapperDepth then .ok ref else .error .tooDeep := by
  refine ⟨Executor.introspectionRequest_eq, ?_, fun t ht ref href => ⟨_, ofJson?_reference maxWrapperDepth ref, ref.levels_payload maxWrapperDepth,
    check_reference (Nat.zero_add _) (s.references_named t ht ref href)⟩⟩
  have htypes := mapM_fitting fun t ht => check_typeDef (s.kind_named t ht) (s.references_named t ht)
  rw [Registry.ofJson, ofJson?_answer]
  simp only [Payload.check, payload]
  rw [htypes]
  by_cases hfits : ∀ t ∈ s.types, ∀ ref ∈ t.references, ref.depth ≤ maxWrapperDepth
  · simp only [fitting, if_pos hfits]
    rfl
  · simp only [fitting, if_neg hfits]
    rfl

namespace ServerSchema

/-- An integer inside a number of lists. -/
def lists : (depth : Nat) → TypeRef
  | 0 => .named .scalar "Int"
  | depth + 1 => .list (lists depth)

theorem unwrapped_lists : ∀ depth : Nat, (lists depth).unwrapped = .named .scalar "Int"
  | 0 => rfl
  | depth + 1 => unwrapped_lists depth

theorem depth_lists : ∀ depth : Nat, (lists depth).depth = depth
  | 0 => rfl
  | depth + 1 => congrArg (· + 1) (depth_lists depth)

/-- A schema with one field, of a number of lists. -/
def nested (depth : Nat) : ServerSchema where
  queryType := "Query"
  mutationType := none
  subscriptionType := none
  types := [⟨.object, "Query", none, some [⟨"table", none, [], lists depth, false, none⟩], none, none⟩,
    ⟨.scalar, "Int", none, none, none, none⟩]
  interfaces _ := .null
  possibleTypes _ := .null
  directives := .null
  kind_named := by simp [TypeKind.isWrapper]
  references_named := by simp [TypeDef.references, unwrapped_lists, TypeRef.kind, TypeKind.isWrapper]

theorem forall_references_nested {depth m : Nat} :
    (∀ t ∈ (nested depth).types, ∀ ref ∈ t.references, ref.depth ≤ m) ↔ depth ≤ m := by
  simp [nested, TypeDef.references, depth_lists]

/-- Seven lists are read whole; eight are reported as too deep. -/
theorem ofJson_answer_nested :
    Registry.ofJson (nested 7).answer = .ok ⟨(nested 7).types, "Query", none, none⟩ ∧
      Registry.ofJson (nested 8).answer = .error .tooDeep := by
  obtain ⟨-, hseven, -⟩ := ofJson_answer (nested 7)
  obtain ⟨-, height, -⟩ := ofJson_answer (nested 8)
  constructor
  · rw [hseven, if_pos (forall_references_nested.2 (by decide))]
    rfl
  · rw [height, if_neg (mt forall_references_nested.1 (by decide))]

end ServerSchema
end GraphCalls
