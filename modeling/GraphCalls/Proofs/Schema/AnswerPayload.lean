/-
What a server's answer reads as: the schema with its references cut.

An answer is read as records of the expected shape, every list as the server
has it and every reference down to the deepest level that is asked for
(`ofJson?_answer`).
-/
import GraphCalls.Proofs.Schema.Answer

namespace GraphCalls

namespace Json

theorem get?_object (ms : List (String × Json)) (l : String) : (Json.object ms).get? l = Entries.get? ms l := rfl

theorem get?_insertMember {α : Type} (k l : String) (a : α) (ms : List (String × α)) :
    Entries.get? (insertMember k a ms) l = if k = l then some a else Entries.get? ms l := by
  induction ms with
  | nil => rw [insertMember, Entries.get?_cons]
  | cons m ms ih =>
    obtain ⟨n, b⟩ := m
    rw [insertMember]
    split
    · rw [Entries.get?_cons]
    split
    next h =>
      subst h
      simp only [Entries.get?_cons]
      by_cases hl : k = l <;> simp [hl]
    next h =>
      rw [Entries.get?_cons, Entries.get?_cons, ih]
      by_cases hn : n = l
      · have hk : k ≠ l := fun hk => h (hk.trans hn.symm)
        simp [hn, hk]
      · simp [hn]

theorem get?_foldl_insertMember {α : Type} (l : String) : ∀ {ms acc : List (String × α)}, (ms.map Prod.fst).Nodup →
    Entries.get? (ms.foldl (fun acc m => insertMember m.1 m.2 acc) acc) l = (Entries.get? ms l).or (Entries.get? acc l)
  | [], acc, _ => rfl
  | m :: ms, acc, h => by
    simp only [List.map_cons, List.nodup_cons] at h
    rw [List.foldl_cons, get?_foldl_insertMember l h.2, get?_insertMember, Entries.get?_cons]
    by_cases hm : m.1 = l
    · have hnone : Entries.get? ms l = none := by
        simp only [Entries.get?, Option.map_eq_none_iff, List.find?_eq_none, beq_iff_eq]
        exact fun n hn he => h.1 (hm ▸ he ▸ List.mem_map_of_mem hn)
      simp [hm, hnone]
    · simp [hm]

/-- Members with names of their own are all there, in whatever order. -/
theorem get?_ofMembers {ms : List (String × Json)} (h : (ms.map Prod.fst).Nodup) (l : String) :
    (ofMembers ms).get? l = Entries.get? ms l :=
  (get?_foldl_insertMember l h).trans (Option.or_none ..)

end Json

/-! ## Payloads -/

open Introspection

/-- A reference as the answer writes it if `depth` levels are asked for. -/
def TypeRef.payload : (depth : Nat) → TypeRef → RefPayload
  | _, .named kind name => .mk kind.text (some name) none
  | 0, .list _ => .mk TypeKind.list.text none none
  | 0, .nonNull _ => .mk TypeKind.nonNull.text none none
  | depth + 1, .list inner => .mk TypeKind.list.text none (some (inner.payload depth))
  | depth + 1, .nonNull inner => .mk TypeKind.nonNull.text none (some (inner.payload depth))

def InputValue.payload (i : InputValue) : InputPayload :=
  ⟨i.name, i.description, i.type.payload maxWrapperDepth, i.defaultValue⟩

def FieldDef.payload (f : FieldDef) : FieldPayload :=
  ⟨f.name, f.description, f.args.map InputValue.payload, f.type.payload maxWrapperDepth, f.isDeprecated,
    f.deprecationReason⟩

def TypeDef.payload (t : TypeDef) : TypePayload :=
  ⟨t.kind.text, some t.name, t.description, t.fields.map (·.map FieldDef.payload),
    t.inputFields.map (·.map InputValue.payload), t.enumValues⟩

def ServerSchema.payload (s : ServerSchema) : SchemaPayload :=
  ⟨some s.queryType, s.mutationType, s.subscriptionType, s.types.map TypeDef.payload⟩

/-- The levels of `ofType` in a reference. -/
def Introspection.RefPayload.levels : RefPayload → Nat
  | .mk _ _ none => 0
  | .mk _ _ (some inner) => inner.levels + 1

theorem TypeRef.levels_payload : ∀ (depth : Nat) (ref : TypeRef), (ref.payload depth).levels = min ref.depth depth
  | depth, .named kind name => by cases depth <;> simp [payload, RefPayload.levels, TypeRef.depth]
  | 0, .list inner | 0, .nonNull inner => by simp [payload, RefPayload.levels]
  | depth + 1, .list inner | depth + 1, .nonNull inner => by
    simp only [payload, RefPayload.levels, levels_payload depth inner, TypeRef.depth]
    omega

namespace Introspection

theorem fieldsOf_ofMembers (shape : List FieldShape) {ms : List (String × Json)} (h : (ms.map Prod.fst).Nodup) :
    fieldsOf shape (.ofMembers ms) = some (shape.map fun f => Entries.get? ms f.name) :=
  congrArg some (List.map_congr_left fun f _ => Json.get?_ofMembers h f.name)

namespace RefPayload

theorem member_eq : ∀ ms : List (String × Json),
    ofJson?.member ms = optional ofJson? ((Json.object ms).get? "ofType")
  | [] => rfl
  | (k, v) :: ms => by
    by_cases h : k = "ofType"
    · cases v <;> simp [ofJson?.member, Json.get?_object, Entries.get?_cons, h, optional]
    · have hrest := member_eq ms
      rw [Json.get?_object] at hrest
      cases v <;> simp [ofJson?.member, Json.get?_object, Entries.get?_cons, h, hrest]

theorem ofJson?_ofMembers {ms : List (String × Json)} (h : (ms.map Prod.fst).Nodup) :
    ofJson? (.ofMembers ms) = do
      let kind ← required string? (Entries.get? ms "kind")
      let name ← optional string? (Entries.get? ms "name")
      let inner ← optional ofJson? (Entries.get? ms "ofType")
      return .mk kind name inner := by
  rw [← Json.get?_ofMembers h, ← Json.get?_ofMembers h, ← Json.get?_ofMembers h, Json.ofMembers, ofJson?, member_eq]

end RefPayload

namespace Asked

@[simp] theorem answer_string (asked : Asked) (t : String) : asked.answer (.string t) = .string t := rfl

@[simp] theorem answer_bool (asked : Asked) (b : Bool) : asked.answer (.bool b) = .bool b := rfl

theorem answer_object (asked : Asked) (ms : List (String × Json)) :
    asked.answer (.object ms) = .ofMembers (asked.members (.object ms)) := rfl

@[simp] theorem members_done (v : Json) : members .done v = [] := rfl

@[simp] theorem members_field (name : String) (withDeprecated : Bool) (body rest : Asked) (v : Json) :
    members (.field name withDeprecated body rest) v =
      (name, body.answer (if withDeprecated then (v.get? name).getD .null
        else withoutDeprecated ((v.get? name).getD .null))) :: members rest v := by
  cases withDeprecated <;> rfl

@[simp] theorem answer_ofOption_string (asked : Asked) (o : Option String) :
    asked.answer (.ofOption .string o) = .ofOption .string o := by cases o <;> rfl

@[simp] theorem withoutDeprecated_string (t : String) : withoutDeprecated (.string t) = .string t := rfl

@[simp] theorem withoutDeprecated_bool (b : Bool) : withoutDeprecated (.bool b) = .bool b := rfl

@[simp] theorem withoutDeprecated_ofOption_string (o : Option String) :
    withoutDeprecated (.ofOption .string o) = .ofOption .string o := by cases o <;> rfl

@[simp] theorem withoutDeprecated_tree (ref : TypeRef) : withoutDeprecated ref.tree = ref.tree := by cases ref <;> rfl

/-- A list of objects is answered object by object. -/
theorem answer_objects (asked : Asked) {α : Type} {tree : α → Json} (h : ∀ a, (tree a).IsObject) (l : List α) :
    asked.answer (.array (l.map tree)) = .array (l.map fun a => asked.answer (tree a)) := by
  simp only [answer, complete, List.map_map, Json.array.injEq]
  refine List.map_congr_left fun a _ => ?_
  obtain ⟨ms, hms⟩ := h a
  simp only [Function.comp_apply, hms]

/-- Nothing is left out of a list of what cannot be deprecated. -/
theorem withoutDeprecated_objects {α : Type} (tree : α → Json) (h : ∀ a, (tree a).get? "isDeprecated" = none)
    (l : List α) : withoutDeprecated (.array (l.map tree)) = .array (l.map tree) := by
  simp only [withoutDeprecated, Json.array.injEq, List.filter_eq_self, List.mem_map]
  rintro v ⟨a, -, rfl⟩
  simp [h a]

theorem withoutDeprecated_ofOption {α : Type} (tree : α → Json) (h : ∀ a, (tree a).get? "isDeprecated" = none)
    (o : Option (List α)) : withoutDeprecated (.ofOption (fun l => .array (l.map tree)) o) =
      .ofOption (fun l => .array (l.map tree)) o := by
  cases o with
  | none => rfl
  | some l => exact withoutDeprecated_objects tree h l

/-! ## Records of the answer -/

theorem answer_inputValue (i : InputValue) : inputValue.answer i.tree =
    .ofMembers [("name", .string i.name), ("description", .ofOption .string i.description),
      ("type", (reference maxWrapperDepth).answer i.type.tree),
      ("defaultValue", .ofOption .string i.defaultValue)] := by
  simp [inputValue, InputValue.tree, answer_object, Json.get?_object, Entries.get?_cons]

theorem answer_fieldDef (f : FieldDef) : fieldDef.answer f.tree =
    .ofMembers [("name", .string f.name), ("description", .ofOption .string f.description),
      ("args", inputValue.answer (.array (f.args.map InputValue.tree))),
      ("type", (reference maxWrapperDepth).answer f.type.tree), ("isDeprecated", .bool f.isDeprecated),
      ("deprecationReason", .ofOption .string f.deprecationReason)] := by
  have hargs := withoutDeprecated_objects InputValue.tree (fun _ => by simp [InputValue.tree, Json.get?]) f.args
  simp [fieldDef, FieldDef.tree, plain, answer_object, Json.get?_object, Entries.get?_cons, hargs]

theorem answer_enumValue (v : EnumValue) : enumValue.answer v.tree =
    .ofMembers [("name", .string v.name), ("description", .ofOption .string v.description),
      ("isDeprecated", .bool v.isDeprecated), ("deprecationReason", .ofOption .string v.deprecationReason)] := by
  simp [enumValue, EnumValue.tree, plain, answer_object, Json.get?_object, Entries.get?_cons]

theorem answer_typeDef (s : ServerSchema) (t : TypeDef) : typeDef.answer (s.typeTree t) =
    .ofMembers [("kind", .string t.kind.text), ("name", .string t.name),
      ("description", .ofOption .string t.description),
      ("fields", fieldDef.answer (.ofOption (fun fs => .array (fs.map FieldDef.tree)) t.fields)),
      ("inputFields", inputValue.answer (.ofOption (fun is => .array (is.map InputValue.tree)) t.inputFields)),
      ("interfaces", (reference maxWrapperDepth).answer (withoutDeprecated (s.interfaces t))),
      ("enumValues", enumValue.answer (.ofOption (fun vs => .array (vs.map EnumValue.tree)) t.enumValues)),
      ("possibleTypes", (reference maxWrapperDepth).answer (withoutDeprecated (s.possibleTypes t)))] := by
  have hinput :=
    withoutDeprecated_ofOption InputValue.tree (fun _ => by simp [InputValue.tree, Json.get?]) t.inputFields
  simp [typeDef, ServerSchema.typeTree, plain, append, answer_object, Json.get?_object, Entries.get?_cons, hinput]

theorem answer_root (name : String) :
    (plain ["name"]).answer (ServerSchema.rootTree name) = .ofMembers [("name", .string name)] := by
  simp [plain, ServerSchema.rootTree, answer_object, Json.get?_object, Entries.get?_cons]

theorem answer_schema (s : ServerSchema) : schema.answer s.schemaTree =
    .ofMembers [("queryType", (plain ["name"]).answer (ServerSchema.rootTree s.queryType)),
      ("mutationType", (plain ["name"]).answer (.ofOption ServerSchema.rootTree s.mutationType)),
      ("subscriptionType", (plain ["name"]).answer (.ofOption ServerSchema.rootTree s.subscriptionType)),
      ("types", typeDef.answer (.array (s.types.map s.typeTree))),
      ("directives", ((plain ["name", "description", "locations"]).append (.field "args" false inputValue .done)).answer
        (withoutDeprecated s.directives))] := by
  have htypes := withoutDeprecated_objects s.typeTree (fun _ => by simp [ServerSchema.typeTree, Json.get?]) s.types
  have hroot : withoutDeprecated (ServerSchema.rootTree s.queryType) = ServerSchema.rootTree s.queryType := rfl
  have hroots : ∀ o, withoutDeprecated (.ofOption ServerSchema.rootTree o) = .ofOption ServerSchema.rootTree o := by
    intro o
    cases o <;> rfl
  simp [schema, ServerSchema.schemaTree, answer_object, Json.get?_object, Entries.get?_cons, htypes, hroot, hroots]

theorem answer_tree (s : ServerSchema) : (Asked.field "__schema" false schema .done).answer s.tree =
    .ofMembers [("__schema", schema.answer s.schemaTree)] := by
  have hschema : withoutDeprecated s.schemaTree = s.schemaTree := rfl
  simp [ServerSchema.tree, answer_object, Json.get?_object, Entries.get?_cons, hschema]

end Asked

/-! ## Reading the answer -/

@[simp] theorem optional_string (o : Option String) : optional string? (some (.ofOption .string o)) = some o := by
  cases o <;> rfl

@[simp] theorem required_some {α : Type} (f : Json → Option α) (v : Json) : required f (some v) = f v := rfl

@[simp] theorem defaulting_some {α : Type} (a : α) (f : Json → Option α) (v : Json) :
    defaulting a f (some v) = f v := rfl

@[simp] theorem string?_string (t : String) : string? (.string t) = some t := rfl

@[simp] theorem optional_some_string (t : String) : optional string? (some (.string t)) = some (some t) := rfl

@[simp] theorem bool?_bool (b : Bool) : bool? (.bool b) = some b := rfl

@[simp] theorem optional_none {α : Type} (f : Json → Option α) : optional f none = some none := rfl

/-- A field that is read as something is not null. -/
theorem optional_eq_some {α : Type} {f : Json → Option α} {v : Json} {a : α} (hnull : f .null = none)
    (h : f v = some a) : optional f (some v) = some (some a) := by
  cases v with
  | null => simp [hnull] at h
  | _ => simp [optional, h]

namespace RefPayload

variable (kind : String) (name : Option String) (below : Json)

theorem ofJson?_zero :
    ofJson? ((Asked.reference 0).answer
      (.object [("kind", .string kind), ("name", .ofOption .string name), ("ofType", below)])) =
      some (.mk kind name none) := by
  simp only [Asked.reference, Asked.plain, Asked.answer_object, Asked.members_field, Asked.members_done,
    Json.get?_object, Entries.get?_cons]
  rw [ofJson?_ofMembers (by simp)]
  simp [Entries.get?_cons, Entries.get?_nil]

theorem ofJson?_succ (depth : Nat) :
    ofJson? ((Asked.reference (depth + 1)).answer
      (.object [("kind", .string kind), ("name", .ofOption .string name), ("ofType", below)])) =
      (optional ofJson? (some ((Asked.reference depth).answer (Asked.withoutDeprecated below)))).map
        (.mk kind name) := by
  simp only [Asked.reference, Asked.plain, Asked.append, Asked.answer_object, Asked.members_field, Asked.members_done,
    Json.get?_object, Entries.get?_cons]
  rw [ofJson?_ofMembers (by simp)]
  cases h : optional ofJson? (some ((Asked.reference depth).answer (Asked.withoutDeprecated below))) <;>
    simp [Entries.get?_cons, h]

end RefPayload

theorem ofJson?_reference : ∀ (depth : Nat) (ref : TypeRef),
    RefPayload.ofJson? ((Asked.reference depth).answer ref.tree) = some (ref.payload depth)
  | 0, .named kind name => RefPayload.ofJson?_zero kind.text (some name) .null
  | 0, .list inner => RefPayload.ofJson?_zero TypeKind.list.text none inner.tree
  | 0, .nonNull inner => RefPayload.ofJson?_zero TypeKind.nonNull.text none inner.tree
  | depth + 1, .named kind name => RefPayload.ofJson?_succ kind.text (some name) .null depth
  | depth + 1, .list inner => by
    refine (RefPayload.ofJson?_succ TypeKind.list.text none inner.tree depth).trans ?_
    rw [Asked.withoutDeprecated_tree, optional_eq_some rfl (ofJson?_reference depth inner)]
    rfl
  | depth + 1, .nonNull inner => by
    refine (RefPayload.ofJson?_succ TypeKind.nonNull.text none inner.tree depth).trans ?_
    rw [Asked.withoutDeprecated_tree, optional_eq_some rfl (ofJson?_reference depth inner)]
    rfl

/-- A list is read item by item. -/
theorem list?_map {α β : Type} {f : Json → Option β} {v : α → Json} {p : α → β} (h : ∀ a, f (v a) = some (p a))
    (l : List α) : list? f (.array (l.map v)) = some (l.map p) := by
  rw [list?]
  induction l with
  | nil => rfl
  | cons a l ih =>
    rw [List.map_cons, List.mapM_cons, h a, ih]
    rfl

/-- A list that may be absent is read as the one that the server has, if its
items are. -/
theorem optional_list? {α β : Type} {asked : Asked} {tree : α → Json} {f : Json → Option β} {p : α → β}
    (htree : ∀ a, (tree a).IsObject) (h : ∀ a, f (asked.answer (tree a)) = some (p a)) (o : Option (List α)) :
    optional (list? f) (some (asked.answer (.ofOption (fun l => .array (l.map tree)) o))) = some (o.map (·.map p)) := by
  cases o with
  | none => rfl
  | some l =>
    rw [Json.ofOption, Asked.answer_objects asked htree]
    exact optional_eq_some rfl (list?_map h l)

theorem ofJson?_inputValue (i : InputValue) :
    InputPayload.ofJson? (Asked.inputValue.answer i.tree) = some i.payload := by
  rw [Asked.answer_inputValue, InputPayload.ofJson?, fieldsOf_ofMembers _ (by simp)]
  simp [Entries.get?_cons, ofJson?_reference, InputValue.payload]

theorem ofJson?_fieldDef (f : FieldDef) : FieldPayload.ofJson? (Asked.fieldDef.answer f.tree) = some f.payload := by
  have hargs : list? InputPayload.ofJson? (Asked.inputValue.answer (.array (f.args.map InputValue.tree))) =
      some (f.args.map InputValue.payload) := by
    rw [Asked.answer_objects _ InputValue.tree_isObject]
    exact list?_map ofJson?_inputValue f.args
  rw [Asked.answer_fieldDef, FieldPayload.ofJson?, fieldsOf_ofMembers _ (by simp)]
  simp [Entries.get?_cons, ofJson?_reference, hargs, FieldDef.payload]

theorem enumValue?_answer (v : EnumValue) : enumValue? (Asked.enumValue.answer v.tree) = some v := by
  rw [Asked.answer_enumValue, enumValue?, fieldsOf_ofMembers _ (by simp)]
  simp [Entries.get?_cons]

theorem ofJson?_typeDef (s : ServerSchema) (t : TypeDef) :
    TypePayload.ofJson? (Asked.typeDef.answer (s.typeTree t)) = some t.payload := by
  have hfields := optional_list? FieldDef.tree_isObject ofJson?_fieldDef t.fields
  have hinputs := optional_list? InputValue.tree_isObject ofJson?_inputValue t.inputFields
  have hvalues := optional_list? (p := id) EnumValue.tree_isObject enumValue?_answer t.enumValues
  rw [Asked.answer_typeDef, TypePayload.ofJson?, fieldsOf_ofMembers _ (by simp)]
  simp [Entries.get?_cons, hfields, hinputs, hvalues, TypeDef.payload]

theorem soleString?_root (name : String) :
    soleString? "name" ((Asked.plain ["name"]).answer (ServerSchema.rootTree name)) = some name := by
  rw [Asked.answer_root, soleString?, fieldsOf_ofMembers _ (by simp)]
  simp [Entries.get?_cons]

theorem optional_root (name : Option String) :
    optional (soleString? "name") (some ((Asked.plain ["name"]).answer (.ofOption ServerSchema.rootTree name))) =
      some name := by
  cases name with
  | none => rfl
  | some name => exact optional_eq_some rfl (soleString?_root name)

end Introspection

namespace ServerSchema

variable (s : ServerSchema)

theorem ofJson?_schema : SchemaPayload.ofJson? (Asked.schema.answer s.schemaTree) = some s.payload := by
  have hquery := optional_root (some s.queryType)
  have htypes : list? TypePayload.ofJson? (Asked.typeDef.answer (.array (s.types.map s.typeTree))) =
      some (s.types.map TypeDef.payload) := by
    rw [Asked.answer_objects _ s.typeTree_isObject]
    exact list?_map (ofJson?_typeDef s) s.types
  rw [Json.ofOption] at hquery
  rw [Asked.answer_schema, SchemaPayload.ofJson?, fieldsOf_ofMembers _ (by simp)]
  simp [Entries.get?_cons, hquery, optional_root, htypes, payload]

/-- The answer has the shape of a result, and the data of it is the schema. -/
theorem ofJson?_answer : Payload.ofJson? s.answer = some ⟨some s.payload, []⟩ := by
  have hdata : data? ((Asked.ofDocument document).answer s.tree) = some (some s.payload) := by
    rw [Asked.ofDocument_document, Asked.answer_tree, data?, fieldsOf_ofMembers _ (by simp)]
    simp [Entries.get?_cons, optional_eq_some rfl s.ofJson?_schema]
  rw [answer, Payload.ofJson?, fieldsOf_ofMembers _ (by simp)]
  simp [Entries.get?_cons, Entries.get?_nil, optional_eq_some rfl hdata]

end ServerSchema
end GraphCalls
