/-
Schemas have no numbers.

Nothing that is read of an introspection result is a number, so that results
which differ in numbers only, wherever these stand, have one schema or are
refused for one reason (`ofJson_mapNumbers`).
-/
import GraphCalls.Proofs.Json.RoundTrip
import GraphCalls.Schema.Introspection

namespace GraphCalls

namespace Json

theorem get?_mapNumbers (g : Number → Number) (name : String) :
    ∀ ms : List (String × Json), ((Json.object ms).mapNumbers g).get? name =
      ((Json.object ms).get? name).map (mapNumbers g)
  | [] => rfl
  | m :: ms => by
    have ih := get?_mapNumbers g name ms
    simp only [get?, mapNumbers, mapNumbers.members, List.find?_cons] at ih ⊢
    cases m.1 == name with
    | true => rfl
    | false => exact ih

theorem mapNumbers_eq_null_iff {g : Number → Number} {v : Json} : v.mapNumbers g = .null ↔ v = .null := by
  cases v <;> simp [mapNumbers]

end Json

namespace Introspection

open Json

variable {α : Type} {g : Number → Number}

/-- A reader that gives the same for a value whose numbers are changed. -/
def Blind (g : Number → Number) (f : Json → Option α) : Prop := ∀ v, f (v.mapNumbers g) = f v

theorem blind_string : Blind g string?
  | .null | .bool _ | .number _ | .string _ | .array _ | .object _ => rfl

theorem blind_bool : Blind g bool?
  | .null | .bool _ | .number _ | .string _ | .array _ | .object _ => rfl

theorem Blind.list {f : Json → Option α} (h : Blind g f) : Blind g (list? f)
  | .null | .bool _ | .number _ | .string _ | .object _ => rfl
  | .array vs => items vs
where
  items : ∀ vs : List Json, (mapNumbers.items g vs).mapM f = vs.mapM f
    | [] => rfl
    | v :: vs => by rw [mapNumbers.items, List.mapM_cons, List.mapM_cons, h v, items vs]

theorem Blind.required {f : Json → Option α} (h : Blind g f) : ∀ x : Option Json,
    required f (x.map (mapNumbers g)) = required f x
  | none => rfl
  | some v => h v

theorem optional_of_ne_null {f : Json → Option α} {v : Json} (h : v ≠ .null) :
    optional f (some v) = (f v).map some := by
  cases v <;> first | rfl | exact absurd rfl h

theorem Blind.optional {f : Json → Option α} (h : Blind g f) : ∀ x : Option Json,
    optional f (x.map (mapNumbers g)) = optional f x
  | none => rfl
  | some v => by
    by_cases hv : v = .null
    · subst hv
      rfl
    · rw [Option.map_some, optional_of_ne_null hv, optional_of_ne_null (mapNumbers_eq_null_iff.not.2 hv), h v]

theorem Blind.defaulting {a : α} {f : Json → Option α} (h : Blind g f) : ∀ x : Option Json,
    defaulting a f (x.map (mapNumbers g)) = defaulting a f x
  | none => rfl
  | some v => h v

/-! ## Records -/

theorem positional_mapNumbers : ∀ (shape : List FieldShape) (vs : List Json),
    fieldsOf.positional shape (mapNumbers.items g vs) =
      (fieldsOf.positional shape vs).map (List.map (Option.map (mapNumbers g)))
  | [], [] => rfl
  | [], _ :: _ => rfl
  | f :: fs, [] => by
    have ih : fieldsOf.positional fs [] =
        (fieldsOf.positional fs []).map (List.map (Option.map (mapNumbers g))) := positional_mapNumbers fs []
    simp only [mapNumbers.items, fieldsOf.positional]
    split
    · cases hfs : fieldsOf.positional fs [] with
      | none => rfl
      | some xs =>
        rw [hfs] at ih
        exact congrArg (some ∘ List.cons none) (Option.some.inj ih)
    · rfl
  | f :: fs, v :: vs => by
    rw [mapNumbers.items, fieldsOf.positional, fieldsOf.positional, positional_mapNumbers fs vs]
    cases fieldsOf.positional fs vs <;> rfl

theorem fieldsOf_mapNumbers (shape : List FieldShape) : ∀ v : Json,
    fieldsOf shape (v.mapNumbers g) = (fieldsOf shape v).map (List.map (Option.map (mapNumbers g)))
  | .null | .bool _ | .number _ | .string _ => rfl
  | .array vs => positional_mapNumbers shape vs
  | .object ms => by
    have hget := fun f : FieldShape => get?_mapNumbers g f.name ms
    simp only [mapNumbers] at hget
    simp only [fieldsOf, mapNumbers, hget, Option.map_some, List.map_map, Function.comp_def]

/-- A record is read from its fields. -/
theorem blind_of_fields {shape : List FieldShape} {k : List (Option Json) → Option α}
    (h : ∀ fs, k (fs.map (Option.map (mapNumbers g))) = k fs) : Blind g fun v => fieldsOf shape v >>= k := by
  intro v
  simp only [fieldsOf_mapNumbers]
  cases fieldsOf shape v with
  | none => rfl
  | some fs => exact h fs

theorem ofJson?_array_of_ne_null {kind name inner : Json} (h : inner ≠ .null) :
    RefPayload.ofJson? (.array [kind, name, inner]) = do
      let kind ← string? kind
      let name ← optional string? (some name)
      let inner ← RefPayload.ofJson? inner
      return .mk kind name (some inner) := by
  rw [RefPayload.ofJson?]
  exact h

theorem member_cons_of_ne_null {k : String} {v : Json} (h : v ≠ .null) (ms : List (String × Json)) :
    RefPayload.ofJson?.member ((k, v) :: ms) =
      if k = "ofType" then (RefPayload.ofJson? v).map some else RefPayload.ofJson?.member ms := by
  rw [RefPayload.ofJson?.member]
  exact h

theorem blind_reference : Blind g RefPayload.ofJson?
  | .null | .bool _ | .number _ | .string _ => rfl
  | .object ms => by
    have hget := fun name => get?_mapNumbers g name ms
    simp only [mapNumbers] at hget
    simp only [mapNumbers, RefPayload.ofJson?, hget, blind_string.required, blind_string.optional, member ms]
  | .array [kind, name, inner] => by
    have hkind : string? (kind.mapNumbers g) = string? kind := blind_string kind
    have hname : optional string? (some (name.mapNumbers g)) = optional string? (some name) :=
      blind_string.optional (some name)
    have hinner : RefPayload.ofJson? (inner.mapNumbers g) = RefPayload.ofJson? inner := blind_reference inner
    simp only [mapNumbers, mapNumbers.items]
    by_cases h : inner = .null
    · subst h
      simp only [mapNumbers, RefPayload.ofJson?, hkind, hname]
    · rw [ofJson?_array_of_ne_null h, ofJson?_array_of_ne_null (mapNumbers_eq_null_iff.not.2 h), hkind, hname, hinner]
  | .array [] | .array [_] | .array [_, _] => rfl
  | .array (_ :: _ :: _ :: _ :: _) => by simp [mapNumbers, mapNumbers.items, RefPayload.ofJson?]
where
  member : ∀ ms : List (String × Json), RefPayload.ofJson?.member (mapNumbers.members g ms) =
      RefPayload.ofJson?.member ms
    | [] => rfl
    | (k, v) :: ms => by
      have hv : RefPayload.ofJson? (v.mapNumbers g) = RefPayload.ofJson? v := blind_reference v
      have hms := member ms
      rw [mapNumbers.members]
      by_cases h : v = .null
      · subst h
        simp only [mapNumbers, RefPayload.ofJson?.member, hms]
      · rw [member_cons_of_ne_null h, member_cons_of_ne_null (mapNumbers_eq_null_iff.not.2 h), hv, hms]

theorem blind_inputValue : Blind g InputPayload.ofJson? :=
  blind_of_fields fun
    | [name, description, type, defaultValue] => by
      simp only [List.map_cons, List.map_nil, blind_string.required, blind_string.optional, blind_reference.required]
    | [] | [_] | [_, _] | [_, _, _] | _ :: _ :: _ :: _ :: _ :: _ => rfl

theorem blind_fieldDef : Blind g FieldPayload.ofJson? :=
  blind_of_fields fun
    | [name, description, args, type, isDeprecated, deprecationReason] => by
      simp only [List.map_cons, List.map_nil, blind_string.required, blind_string.optional,
        blind_inputValue.list.defaulting, blind_reference.required, blind_bool.defaulting]
    | [] | [_] | [_, _] | [_, _, _] | [_, _, _, _] | [_, _, _, _, _] | _ :: _ :: _ :: _ :: _ :: _ :: _ :: _ => rfl

theorem blind_enumValue : Blind g enumValue? :=
  blind_of_fields fun
    | [name, description, isDeprecated, deprecationReason] => by
      simp only [List.map_cons, List.map_nil, blind_string.required, blind_string.optional, blind_bool.defaulting]
    | [] | [_] | [_, _] | [_, _, _] | _ :: _ :: _ :: _ :: _ :: _ => rfl

theorem blind_typeDef : Blind g TypePayload.ofJson? :=
  blind_of_fields fun
    | [kind, name, description, fields, inputFields, enumValues] => by
      simp only [List.map_cons, List.map_nil, blind_string.required, blind_string.optional,
        blind_fieldDef.list.optional, blind_inputValue.list.optional, blind_enumValue.list.optional]
    | [] | [_] | [_, _] | [_, _, _] | [_, _, _, _] | [_, _, _, _, _] | _ :: _ :: _ :: _ :: _ :: _ :: _ :: _ => rfl

theorem blind_soleString (name : String) : Blind g (soleString? name) :=
  blind_of_fields fun
    | [s] => blind_string.required s
    | [] | _ :: _ :: _ => rfl

theorem blind_schema : Blind g SchemaPayload.ofJson? :=
  blind_of_fields fun
    | [queryType, mutationType, subscriptionType, types] => by
      simp only [List.map_cons, List.map_nil, (blind_soleString "name").optional, blind_typeDef.list.required]
    | [] | [_] | [_, _] | [_, _, _] | _ :: _ :: _ :: _ :: _ :: _ => rfl

theorem blind_data : Blind g data? :=
  blind_of_fields fun
    | [schema] => blind_schema.optional schema
    | [] | _ :: _ :: _ => rfl

theorem blind_payload : Blind g Payload.ofJson? :=
  blind_of_fields fun
    | [data, errors] => by
      simp only [List.map_cons, List.map_nil, blind_data.optional, (blind_soleString "message").list.optional]
    | [] | [_] | _ :: _ :: _ :: _ => rfl

end Introspection

/-- Numbers have no part in a schema. -/
theorem Registry.ofJson_mapNumbers (g : Number → Number) (v : Json) : ofJson (v.mapNumbers g) = ofJson v := by
  rw [ofJson, ofJson, Introspection.blind_payload v]

end GraphCalls
