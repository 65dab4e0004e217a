/-
What the declared type of a variable says.

The text of a reference puts a list around its items and a non-null after its
type, so its last character tells the outermost modifier, as long as the name
has no such character in it. Hence the text has all of the reference but the
kind of the named type, and so has the declared type of a variable, which is
this text (`text_determines`).
-/
import GraphCalls.Proofs.Call.DraftHistory
import GraphCalls.Proofs.Call.ReadBack

namespace GraphCalls

namespace Document

/-- The type of a variable, as it is read off the declaration. -/
def declaredType? (v : Nat × Binding) : Option String :=
  (OperationSyntax.readDeclaration (declaration v).toList).map Prod.snd

theorem declaredType?_eq (v : Nat × Binding) : declaredType? v = some (v.2.type.getD defaultType) := by
  have hread : OperationSyntax.readDeclaration (declaration v).toList =
      some (variableName v.1, v.2.type.getD defaultType) :=
    OperationSyntax.readDeclaration_text (v := (variableName v.1, v.2.type.getD defaultType)) (plain_variableName v.1)
  rw [declaredType?, hread]
  rfl

end Document

/-- A binding of an argument that some field declares with a reference. -/
def Binding.BoundAs (b : Binding) (r : TypeRef) : Prop :=
  ∃ (f : FieldDef) (field : String) (arg : String × Json) (i : InputValue),
    f.arg? arg.1 = some i ∧ i.type = r ∧ Draft.bind f field arg = .ok b

theorem Binding.BoundAs.type_eq {b : Binding} {r : TypeRef} (h : b.BoundAs r) : b.type = some r.text := by
  obtain ⟨f, field, arg, i, hi, rfl, hb⟩ := h
  rw [Draft.bind_of_some hi] at hb
  cases hb
  rfl

namespace TypeRef

/-- The characters that write modifiers. -/
def marks : List Char := ['[', ']', '!']

/-- The name at the bottom has no mark in it. It may be empty. -/
def Unmarked (r : TypeRef) : Prop := ∀ c ∈ r.name.toList, c ∉ marks

instance (r : TypeRef) : Decidable r.Unmarked := List.decidableBAll (· ∉ marks) r.name.toList

variable {r s : TypeRef}

theorem unmarked_list {r : TypeRef} : (list r).Unmarked ↔ r.Unmarked := Iff.rfl

theorem unmarked_nonNull {r : TypeRef} : (nonNull r).Unmarked ↔ r.Unmarked := Iff.rfl

theorem toList_text_list (r : TypeRef) : (list r).text.toList = '[' :: (r.text.toList ++ [']']) := by simp [text]

theorem toList_text_nonNull (r : TypeRef) : (nonNull r).text.toList = r.text.toList ++ ['!'] := by simp [text]

/-! ## The end of a text -/

theorem not_suffix_named {k : TypeKind} {n : String} (h : (named k n).Unmarked) {c : Char} (hc : c ∈ marks) :
    ¬[c] <:+ (named k n).text.toList :=
  fun hsuffix => h c (hsuffix.subset (List.mem_singleton_self c)) hc

/-- The outermost modifier is a list exactly if the text ends in its bracket. -/
theorem suffix_bracket_iff (h : r.Unmarked) : [']'] <:+ r.text.toList ↔ ∃ t, r = .list t := by
  cases r with
  | named k n => simp [not_suffix_named h (c := ']') (by decide)]
  | list t => simp [toList_text_list]
  | nonNull t => simp [toList_text_nonNull]

theorem suffix_bang_iff (h : r.Unmarked) : ['!'] <:+ r.text.toList ↔ ∃ t, r = .nonNull t := by
  cases r with
  | named k n => simp [not_suffix_named h (c := '!') (by decide)]
  | list t => simp [toList_text_list]
  | nonNull t => simp [toList_text_nonNull]

theorem suffix_bracket_bang_iff (h : r.Unmarked) : [']', '!'] <:+ r.text.toList ↔ ∃ t, r = .nonNull (.list t) := by
  constructor
  · intro hsuffix
    obtain ⟨t, rfl⟩ := (suffix_bang_iff h).1 ((List.suffix_append [']'] ['!']).trans hsuffix)
    rw [toList_text_nonNull, ← List.singleton_append, List.suffix_append_self_iff] at hsuffix
    obtain ⟨t, rfl⟩ := (suffix_bracket_iff (unmarked_nonNull.1 h)).1 hsuffix
    exact ⟨t, rfl⟩
  · rintro ⟨t, rfl⟩
    rw [toList_text_nonNull, ← List.singleton_append, List.suffix_append_self_iff]
    exact (suffix_bracket_iff (unmarked_nonNull.1 h)).2 ⟨t, rfl⟩

theorem isRequired_iff_suffix (h : r.Unmarked) : r.isRequired = true ↔ ['!'] <:+ r.text.toList := by
  rw [suffix_bang_iff h]
  cases r <;> simp [isRequired]

theorem isList_iff_suffix (h : r.Unmarked) :
    r.isList = true ↔ [']'] <:+ r.text.toList ∨ [']', '!'] <:+ r.text.toList := by
  rw [suffix_bracket_iff h, suffix_bracket_bang_iff h]
  cases r with
  | named k n => simp [isList]
  | list t => simp [isList]
  | nonNull t => cases t <;> simp [isList]

/-! ## The whole text -/

/-- From the end of the text inwards: the modifiers are the same one by one. -/
theorem eq_of_text_eq (hr : r.Unmarked) (hs : s.Unmarked) (h : r.text = s.text) :
    r.wrappers = s.wrappers ∧ r.name = s.name := by
  induction r generalizing s with
  | named k n =>
    cases s with
    | named l m => exact ⟨rfl, h⟩
    | list t => exact absurd (h ▸ (suffix_bracket_iff hs).2 ⟨t, rfl⟩) (not_suffix_named hr (by decide))
    | nonNull t => exact absurd (h ▸ (suffix_bang_iff hs).2 ⟨t, rfl⟩) (not_suffix_named hr (by decide))
  | list r ih =>
    obtain ⟨t, rfl⟩ := (suffix_bracket_iff hs).1 (h ▸ (suffix_bracket_iff hr).2 ⟨r, rfl⟩)
    have hlist := congrArg String.toList h
    rw [toList_text_list, toList_text_list, List.cons.injEq, List.append_left_inj, String.toList_inj] at hlist
    obtain ⟨hwrappers, hname⟩ := ih (unmarked_list.1 hr) (unmarked_list.1 hs) hlist.2
    exact ⟨congrArg (TypeKind.list :: ·) hwrappers, hname⟩
  | nonNull r ih =>
    obtain ⟨t, rfl⟩ := (suffix_bang_iff hs).1 (h ▸ (suffix_bang_iff hr).2 ⟨r, rfl⟩)
    have hlist := congrArg String.toList h
    rw [toList_text_nonNull, toList_text_nonNull, List.append_left_inj, String.toList_inj] at hlist
    obtain ⟨hwrappers, hname⟩ := ih (unmarked_nonNull.1 hr) (unmarked_nonNull.1 hs) hlist
    exact ⟨congrArg (TypeKind.nonNull :: ·) hwrappers, hname⟩

/-- The kind of the named type has no part in the text. -/
theorem text_congr (hwrappers : r.wrappers = s.wrappers) (hname : r.name = s.name) : r.text = s.text := by
  induction r generalizing s with
  | named k n =>
    cases s with
    | named l m => exact hname
    | list t | nonNull t => cases hwrappers
  | list r ih =>
    cases s with
    | list t =>
      obtain ⟨-, hwrappers⟩ := List.cons.inj hwrappers
      rw [text, text, ih hwrappers hname]
    | named l m | nonNull t => cases hwrappers
  | nonNull r ih =>
    cases s with
    | nonNull t =>
      obtain ⟨-, hwrappers⟩ := List.cons.inj hwrappers
      rw [text, text, ih hwrappers hname]
    | named l m | list t => cases hwrappers

theorem count_name (h : r.Unmarked) {c : Char} (hc : c ∈ marks) : r.name.toList.count c = 0 :=
  List.count_eq_zero.2 fun hm => h c hm hc

/-- Every modifier writes one opening bracket or one bang. -/
theorem count_marks (h : r.Unmarked) : r.text.toList.count '[' + r.text.toList.count '!' = r.depth := by
  induction r with
  | named k n =>
    have hopen : n.toList.count '[' = 0 := count_name h (by decide)
    have hbang : n.toList.count '!' = 0 := count_name h (by decide)
    rw [text, depth, hopen, hbang]
  | list r ih =>
    rw [toList_text_list, depth, ← ih h]
    simp [List.count_append]
    omega
  | nonNull r ih =>
    rw [toList_text_nonNull, depth, ← ih h]
    simp [List.count_append]
    omega

theorem filter_marks (h : r.Unmarked) : r.text.toList.filter (· ∉ marks) = r.unwrapped.name.toList := by
  induction r with
  | named k n => exact List.filter_eq_self.2 fun c hc => decide_eq_true (h c hc)
  | list r ih =>
    rw [toList_text_list, unwrapped, ← ih h]
    simp [marks]
  | nonNull r ih =>
    rw [toList_text_nonNull, unwrapped, ← ih h]
    simp [marks]

/-- **The text determines the reference.** References whose names have no
marks are written alike exactly if they have the same modifiers over the same
name; so variables that are declared with the same type, whatever their
numbers, come from arguments with the same reference. Of each such reference
the text tells the number of modifiers, whether it is required, whether it is a
list, and the name. -/
theorem text_determines :
    (∀ r s : TypeRef, r.Unmarked → s.Unmarked → (r.text = s.text ↔ r.wrappers = s.wrappers ∧ r.name = s.name)) ∧
      (∀ (r s : TypeRef) (v w : Nat × Binding), r.Unmarked → s.Unmarked → v.2.BoundAs r → w.2.BoundAs s →
        Document.declaredType? v = Document.declaredType? w → r.wrappers = s.wrappers ∧ r.name = s.name) ∧
      ∀ r : TypeRef, r.Unmarked →
        r.text.toList.count '[' + r.text.toList.count '!' = r.depth ∧
        (r.isRequired = true ↔ ['!'] <:+ r.text.toList) ∧
        (r.isList = true ↔ [']'] <:+ r.text.toList ∨ [']', '!'] <:+ r.text.toList) ∧
        String.ofList (r.text.toList.filter (· ∉ marks)) = r.unwrapped.name := by
  refine ⟨fun r s hr hs => ⟨eq_of_text_eq hr hs, fun h => text_congr h.1 h.2⟩, ?_, fun r hr => ?_⟩
  · intro r s v w hr hs hv hw h
    rw [Document.declaredType?_eq, Document.declaredType?_eq, hv.type_eq, hw.type_eq] at h
    exact eq_of_text_eq hr hs (Option.some.inj h)
  · refine ⟨count_marks hr, isRequired_iff_suffix hr, isList_iff_suffix hr, ?_⟩
    rw [filter_marks hr, String.ofList_toList]

/-- A list that is required, of items that are; the kind is that of the name. -/
def ids (kind : TypeKind) : TypeRef := .nonNull (.list (.nonNull (.named kind "ID")))

theorem boundAs_ids (kind : TypeKind) : Binding.BoundAs ⟨"ids", .null, some "[ID!]!"⟩ (ids kind) :=
  ⟨⟨"users", none, [⟨"ids", none, ids kind, none⟩], .named .scalar "Int", false, none⟩, "users", ("ids", .null), _,
    rfl, rfl, rfl⟩

/-- Two references that differ in the kind of the named type only, of variables
with different numbers. -/
theorem text_determines_ids :
    (ids .scalar).Unmarked ∧ (ids .enum).Unmarked ∧ ids .scalar ≠ ids .enum ∧
      (ids .scalar).text = "[ID!]!" ∧ (ids .scalar).text = (ids .enum).text ∧
      (ids .scalar).wrappers = (ids .enum).wrappers ∧ (ids .scalar).name = (ids .enum).name ∧
      (ids .scalar).text.toList.count '[' + (ids .scalar).text.toList.count '!' = 3 ∧
      [']', '!'] <:+ (ids .scalar).text.toList ∧ (ids .scalar).isList = true ∧ (ids .scalar).isRequired = true ∧
      String.ofList ((ids .scalar).text.toList.filter (· ∉ marks)) = "ID" := by
  have hscalar : (ids .scalar).Unmarked := by decide
  have henum : (ids .enum).Unmarked := by decide
  obtain ⟨htext, hdeclared, hread⟩ := text_determines
  obtain ⟨hwrappers, hname⟩ := hdeclared (ids .scalar) (ids .enum) (0, _) (1, _) hscalar henum (boundAs_ids .scalar)
    (boundAs_ids .enum) (by simp only [Document.declaredType?_eq])
  obtain ⟨hcount, hrequired, hlist, hfilter⟩ := hread (ids .scalar) hscalar
  have hsuffix : [']', '!'] <:+ (ids .scalar).text.toList := by decide
  exact ⟨hscalar, henum, by decide, by decide, (htext _ _ hscalar henum).2 ⟨hwrappers, hname⟩, hwrappers, hname, hcount,
    hsuffix, hlist.2 (.inr hsuffix), hrequired.2 ((List.suffix_append [']'] ['!']).trans hsuffix), hfilter⟩

end TypeRef
end GraphCalls
