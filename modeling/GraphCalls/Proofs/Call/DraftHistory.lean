/-
What a draft makes of the calls that are wished for.

A wish is granted by one call at the end of the batch, or refused for the
first of four reasons, and then the draft is as it was. For every wish there
is one verdict (`verdict_iff`), and so, after any wishes, the batch lists what
the granted ones stand for, in order (`history_grants`).
-/
import GraphCalls.Call.Operation
import GraphCalls.Proofs.Call.Aliases
import GraphCalls.Proofs.Schema.Accepted
import GraphCalls.Proofs.Traversal

namespace GraphCalls

namespace Registry

/-- The root type for a kind of operation declares a field; of several fields
of one name the first counts. -/
def Declares (r : Registry) (kind : OperationKind) (field : String) (f : FieldDef) : Prop :=
  ∃ root, r.rootType kind = .ok root ∧ root.field? field = some f

/-- How a call of a field comes to its selection: by the one that is given, or
else, where the field's values need one, by the default one. -/
inductive Selects (r : Registry) (f : FieldDef) : (given selection : Option String) → Prop
  | given (s : String) : Selects r f (some s) (some s)
  | default {t : TypeDef} {s : String} (ht : r.resolve f.type = .ok t) (hc : r.classify t = .object)
      (hs : r.defaultSelection t.name = .ok s) : Selects r f none (some s)
  | leaf {t : TypeDef} (ht : r.resolve f.type = .ok t) (hc : r.classify t ≠ .object) : Selects r f none none

end Registry

namespace FieldDef

/-- A binding of a field's argument, typed as the field declares it. -/
def Binds (f : FieldDef) (arg : String × Json) (b : Binding) : Prop :=
  b.name = arg.1 ∧ b.value = arg.2 ∧ ∃ a, f.arg? arg.1 = some a ∧ b.type = some a.type.text

end FieldDef

namespace Draft

/-- A call that is wished for: an alias, a root field with arguments, and a
selection if not the default one. -/
structure Wish where
  aliasName : String
  field : String
  args : List (String × Json)
  selection : Option String
deriving DecidableEq

/-- The call that a wish stands for. -/
structure Plans (r : Registry) (kind : OperationKind) (w : Wish) (f : FieldDef) (c : Call) : Prop where
  declared : r.Declares kind w.field f
  field : c.field = w.field
  bindings : List.Forall₂ f.Binds w.args c.bindings
  selection : r.Selects f w.selection c.selection

/-- What a wish leads to: the batch with one more call at its end, or the
first reason against it. -/
inductive Verdict (r : Registry) (kind : OperationKind) (b : Batch) (w : Wish) : Except CallError Batch → Prop
  | unknownField (hf : ∀ f, ¬ r.Declares kind w.field f) : Verdict r kind b w (.error (.unknownField kind w.field))
  | unknownArgument {f before arg after} (hf : r.Declares kind w.field f) (hargs : w.args = before ++ arg :: after)
      (hbefore : ∀ a ∈ before, (f.arg? a.1).isSome) (harg : f.arg? arg.1 = none) :
      Verdict r kind b w (.error (.unknownArgument w.field arg.1))
  | schema {f t e} (hf : r.Declares kind w.field f) (hargs : ∀ a ∈ w.args, (f.arg? a.1).isSome)
      (hs : w.selection = none) (ht : r.resolve f.type = .ok t) (hc : r.classify t = .object)
      (he : r.defaultSelection t.name = .error e) : Verdict r kind b w (.error (.schema e))
  | duplicateAlias {f c} (hc : Plans r kind w f c) (ha : w.aliasName ∈ b.aliases) :
      Verdict r kind b w (.error (.duplicateAlias w.aliasName))
  | granted {f c} (hc : Plans r kind w f c) (ha : w.aliasName ∉ b.aliases) :
      Verdict r kind b w (.ok ⟨b.items ++ [(w.aliasName, c)]⟩)

/-- A wish as it went. -/
structure Attempt where
  before : Draft
  wish : Wish
  result : Except CallError Draft

def attempt (d : Draft) (w : Wish) : Attempt := ⟨d, w, d.add w.aliasName w.field w.args w.selection⟩

/-- The draft afterwards; that of before if the wish was refused. -/
def Attempt.after (a : Attempt) : Draft :=
  match a.result with
  | .ok d => d
  | .error _ => a.before

def Attempt.isGranted (a : Attempt) : Bool := a.result.isOk

/-- Wishes, one after the other. -/
def history : Draft → List Wish → List Attempt
  | _, [] => []
  | d, w :: ws => d.attempt w :: history (d.attempt w).after ws

/-- The draft after wishes. -/
def finish (d : Draft) (ws : List Wish) : Draft := ws.foldl (fun d w => (d.attempt w).after) d

/-- The wishes that were granted, in order. -/
def granted (d : Draft) (ws : List Wish) : List Wish := ((d.history ws).filter Attempt.isGranted).map (·.wish)

variable {r : Registry} {kind : OperationKind} {d : Draft} {w : Wish} {f : FieldDef} {b : Batch}
variable {queryType : String} {mutationType subscriptionType : Option String} {types : List TypeDef}

/-! ## Root fields -/

theorem rootField_of_declares {field : String} (h : d.registry.Declares d.kind field f) :
    d.rootField field = .ok f := by
  obtain ⟨root, hroot, hf⟩ := h
  cases hfields : root.fields with
  | none => simp [TypeDef.field?, hfields] at hf
  | some fs =>
    rw [TypeDef.field?, hfields] at hf
    simp only [rootField, Registry.rootFields, hroot, hfields, Option.getD_some]
    rw [show fs.find? (·.name == field) = some f from hf]

theorem rootField_of_not_declares {field : String} (h : ∀ f, ¬ d.registry.Declares d.kind field f) :
    d.rootField field = .error (.unknownField d.kind field) := by
  rw [rootField]
  split
  next f hf =>
    rw [Registry.rootFields] at hf
    split at hf
    next root hroot =>
      refine absurd ⟨root, hroot, ?_⟩ (h f)
      cases hfields : root.fields with
      | none => simp [hfields] at hf
      | some fs => simpa [TypeDef.field?, hfields] using hf
    · simp at hf
  · rfl

/-- The result type of a root field is there. -/
theorem exists_resolve_of_declares (hr : Registry.ofTypes queryType mutationType subscriptionType types = .ok r)
    {field : String} (hf : r.Declares kind field f) : ∃ t, r.resolve f.type = .ok t := by
  obtain ⟨root, hroot, hf⟩ := hf
  have hmem : root ∈ r.types := by
    have hget : ∀ {name}, r.get name = .ok root → root ∈ r.types := fun {name} h =>
      Registry.mem_types_of_resolve (show r.resolve (.named .object name) = .ok root from h)
    cases kind with
    | query => exact hget hroot
    | mutation =>
      rw [Registry.rootType] at hroot
      split at hroot
      · exact hget hroot
      · simp at hroot
  refine Registry.exists_resolve hr hmem (List.mem_append_left _ (List.mem_flatMap.2 ⟨f, ?_, List.mem_cons_self ..⟩))
  rw [TypeDef.field?] at hf
  obtain ⟨fs, hfs, hf⟩ := Option.bind_eq_some_iff.1 hf
  rw [hfs]
  exact List.mem_of_find?_eq_some hf

/-! ## Arguments -/

theorem bind_of_some {arg : String × Json} {a : InputValue} (h : f.arg? arg.1 = some a) (field : String) :
    bind f field arg = .ok ⟨arg.1, arg.2, some a.type.text⟩ := by rw [bind, h]

theorem bind_of_none {arg : String × Json} (h : f.arg? arg.1 = none) (field : String) :
    bind f field arg = .error (.unknownArgument field arg.1) := by rw [bind, h]

theorem mapM_bind_of_forall₂ {args : List (String × Json)} {bs : List Binding} (h : List.Forall₂ f.Binds args bs)
    (field : String) : args.mapM (bind f field) = .ok bs := by
  induction h with
  | nil => rfl
  | cons hb _ ih =>
    obtain ⟨hname, hvalue, a, ha, htype⟩ := hb
    rw [List.mapM_cons, bind_of_some ha, ih, ← hname, ← hvalue, ← htype]
    rfl

theorem exists_forall₂_binds {args : List (String × Json)} (h : ∀ a ∈ args, (f.arg? a.1).isSome) :
    ∃ bs, List.Forall₂ f.Binds args bs := by
  have hbinds : ∀ arg ∈ args, ∃ b, f.Binds arg b := by
    intro arg harg
    obtain ⟨a, ha⟩ := Option.isSome_iff_exists.1 (h arg harg)
    exact ⟨⟨arg.1, arg.2, some a.type.text⟩, rfl, rfl, a, ha, rfl⟩
  obtain ⟨bs, hbs⟩ := exists_forall₂ (R := fun b arg => f.Binds arg b) hbinds
  exact ⟨bs, hbs.flip⟩

theorem mapM_bind_of_undeclared {arg : String × Json} {after : List (String × Json)} (harg : f.arg? arg.1 = none)
    (field : String) : ∀ {before : List (String × Json)}, (∀ a ∈ before, (f.arg? a.1).isSome) →
    (before ++ arg :: after).mapM (bind f field) = .error (.unknownArgument field arg.1)
  | [], _ => by rw [List.nil_append, List.mapM_cons, bind_of_none harg]; rfl
  | first :: before, h => by
    obtain ⟨a, ha⟩ := Option.isSome_iff_exists.1 (h first (List.mem_cons_self ..))
    rw [List.cons_append, List.mapM_cons, bind_of_some ha,
      mapM_bind_of_undeclared harg field fun a ha => h a (List.mem_cons_of_mem _ ha)]
    rfl

/-- Either all arguments are declared, or there is a first that is not. -/
theorem declared_or_split (f : FieldDef) : ∀ args : List (String × Json), (∀ a ∈ args, (f.arg? a.1).isSome) ∨
    ∃ before arg after, args = before ++ arg :: after ∧ (∀ a ∈ before, (f.arg? a.1).isSome) ∧ f.arg? arg.1 = none
  | [] => .inl (by simp)
  | arg :: args => by
    cases harg : f.arg? arg.1 with
    | none => exact .inr ⟨[], arg, args, rfl, by simp, harg⟩
    | some a =>
      rcases declared_or_split f args with h | ⟨before, other, after, rfl, hbefore, hother⟩
      · exact .inl (by simpa [harg] using h)
      · exact .inr ⟨arg :: before, other, after, rfl, by simpa [harg] using hbefore, hother⟩

/-! ## Selections -/

theorem neededSelection_of_object {t : TypeDef} (ht : r.resolve f.type = .ok t) (hc : r.classify t = .object) :
    neededSelection r f = (r.defaultSelection t.name).map some := by
  simp only [neededSelection, ht, hc, if_true, Bind.bind, Except.bind]
  cases r.defaultSelection t.name <;> rfl

theorem neededSelection_of_ne_object {t : TypeDef} (ht : r.resolve f.type = .ok t) (hc : r.classify t ≠ .object) :
    neededSelection r f = .ok none := by
  simp only [neededSelection, ht, hc, if_false, Bind.bind, Except.bind]
  rfl

/-- A call of a field has its selection, or one that it needs fails. -/
theorem selects_or_fails (r : Registry) (f : FieldDef) : ∀ given : Option String,
    (∃ s, r.Selects f given s) ∨ given = none ∧ ∃ e, neededSelection r f = .error e
  | some s => .inl ⟨some s, .given s⟩
  | none => by
    cases ht : r.resolve f.type with
    | error e => exact .inr ⟨rfl, e, by rw [neededSelection, ht]; rfl⟩
    | ok t =>
      by_cases hc : r.classify t = .object
      · cases hd : r.defaultSelection t.name with
        | error e => exact .inr ⟨rfl, e, by rw [neededSelection_of_object ht hc, hd]; rfl⟩
        | ok s => exact .inl ⟨some s, .default ht hc hd⟩
      · exact .inl ⟨none, .leaf ht hc⟩

/-! ## One wish -/

/-- A wish stands for a call, or there is a first reason why it does not. -/
theorem plans_or_refused (r : Registry) (kind : OperationKind) (w : Wish) :
    (∃ f c, Plans r kind w f c) ∨ (∀ f, ¬ r.Declares kind w.field f) ∨
      (∃ f before arg after, r.Declares kind w.field f ∧ w.args = before ++ arg :: after ∧
        (∀ a ∈ before, (f.arg? a.1).isSome) ∧ f.arg? arg.1 = none) ∨
      ∃ f e, r.Declares kind w.field f ∧ (∀ a ∈ w.args, (f.arg? a.1).isSome) ∧ w.selection = none ∧
        neededSelection r f = .error e := by
  by_cases hf : ∃ f, r.Declares kind w.field f
  swap
  · exact .inr (.inl (not_exists.1 hf))
  obtain ⟨f, hf⟩ := hf
  rcases declared_or_split f w.args with hargs | ⟨before, arg, after, hargs, hbefore, harg⟩
  swap
  · exact .inr (.inr (.inl ⟨f, before, arg, after, hf, hargs, hbefore, harg⟩))
  obtain ⟨bs, hbs⟩ := exists_forall₂_binds hargs
  rcases selects_or_fails r f w.selection with ⟨s, hs⟩ | ⟨hs, e, he⟩
  · exact .inl ⟨f, ⟨w.field, s, bs⟩, hf, rfl, hbs, hs⟩
  · exact .inr (.inr (.inr ⟨f, e, hf, hargs, hs, he⟩))

theorem call_of_not_declares (hf : ∀ f, ¬ d.registry.Declares d.kind w.field f) :
    d.call w.field w.args w.selection = .error (.unknownField d.kind w.field) := by
  rw [call, rootField_of_not_declares hf]
  rfl

theorem call_of_undeclared (hf : d.registry.Declares d.kind w.field f) {before after : List (String × Json)}
    {arg : String × Json} (hargs : w.args = before ++ arg :: after) (hbefore : ∀ a ∈ before, (f.arg? a.1).isSome)
    (harg : f.arg? arg.1 = none) : d.call w.field w.args w.selection = .error (.unknownArgument w.field arg.1) := by
  rw [call, rootField_of_declares hf, hargs]
  simp only [Bind.bind, Except.bind]
  rw [show List.mapM _ _ = _ from mapM_bind_of_undeclared harg w.field hbefore]

theorem call_of_schema (hf : d.registry.Declares d.kind w.field f) (hargs : ∀ a ∈ w.args, (f.arg? a.1).isSome)
    (hs : w.selection = none) {e : SchemaError} (he : neededSelection d.registry f = .error e) :
    d.call w.field w.args w.selection = .error (.schema e) := by
  obtain ⟨bs, hbs⟩ := exists_forall₂_binds hargs
  rw [call, rootField_of_declares hf, hs]
  simp only [Bind.bind, Except.bind]
  rw [show List.mapM _ _ = _ from mapM_bind_of_forall₂ hbs w.field, he]
  rfl

theorem call_of_plans {c : Call} (hc : Plans d.registry d.kind w f c) :
    d.call w.field w.args w.selection = .ok c := by
  obtain ⟨field, selection, bs⟩ := c
  obtain ⟨hf, rfl, hbs, hsel⟩ := hc
  rw [call, rootField_of_declares hf]
  simp only [Bind.bind, Except.bind]
  rw [show List.mapM _ _ = _ from mapM_bind_of_forall₂ hbs w.field]
  generalize w.selection = given at hsel
  cases hsel with
  | given s => rfl
  | default ht hc hs => rw [neededSelection_of_object ht hc, hs]; rfl
  | leaf ht hc => rw [neededSelection_of_ne_object ht hc]; rfl

/-- A wish comes to the call that it stands for, or to the first reason why it does not. -/
theorem call_cases (d : Draft) (w : Wish) :
    (∃ f c, Plans d.registry d.kind w f c ∧ d.call w.field w.args w.selection = .ok c) ∨
      d.call w.field w.args w.selection = .error (.unknownField d.kind w.field) ∨
      (∃ arg, d.call w.field w.args w.selection = .error (.unknownArgument w.field arg)) ∨
      ∃ f e, d.registry.Declares d.kind w.field f ∧ neededSelection d.registry f = .error e ∧
        d.call w.field w.args w.selection = .error (.schema e) := by
  rcases plans_or_refused d.registry d.kind w with ⟨f, c, hc⟩ | hf |
    ⟨f, before, arg, after, hf, hargs, hbefore, harg⟩ | ⟨f, e, hf, hargs, hs, he⟩
  · exact .inl ⟨f, c, hc, call_of_plans hc⟩
  · exact .inr (.inl (call_of_not_declares hf))
  · exact .inr (.inr (.inl ⟨arg.1, call_of_undeclared hf hargs hbefore harg⟩))
  · exact .inr (.inr (.inr ⟨f, e, hf, he, call_of_schema hf hargs hs he⟩))

/-- A call that is made is one that the wish stands for. -/
theorem exists_plans_of_call {c : Call} (h : d.call w.field w.args w.selection = .ok c) :
    ∃ f, Plans d.registry d.kind w f c := by
  rcases call_cases d w with ⟨f, c', hc, h'⟩ | h' | ⟨arg, h'⟩ | ⟨f, e, -, -, h'⟩ <;> cases h.symm.trans h'
  exact ⟨f, hc⟩

/-- A call that fails for its schema fails for the selection that it needs. -/
theorem exists_declares_of_call_eq_schema {e : SchemaError}
    (h : d.call w.field w.args w.selection = .error (.schema e)) :
    ∃ f, d.registry.Declares d.kind w.field f ∧ neededSelection d.registry f = .error e := by
  rcases call_cases d w with ⟨f, c, -, h'⟩ | h' | ⟨arg, h'⟩ | ⟨f, e', hf, he, h'⟩ <;> cases h.symm.trans h'
  exact ⟨f, hf, he⟩

/-- Aliases are not looked at before a call is added. -/
theorem call_ne_duplicateAlias (aliasName : String) :
    d.call w.field w.args w.selection ≠ .error (.duplicateAlias aliasName) := by
  intro h
  rcases call_cases d w with ⟨f, c, -, h'⟩ | h' | ⟨arg, h'⟩ | ⟨f, e, -, -, h'⟩ <;> cases h.symm.trans h'

theorem attempt_of_error {e : CallError} (h : d.call w.field w.args w.selection = .error e) :
    (d.attempt w).result = .error e := by
  rw [attempt, add, h]
  rfl

theorem attempt_of_mem {c : Call} (h : d.call w.field w.args w.selection = .ok c) (ha : w.aliasName ∈ d.batch.aliases) :
    (d.attempt w).result = .error (.duplicateAlias w.aliasName) := by
  simp only [attempt, add, h, Bind.bind, Except.bind, Batch.insert_of_mem ha]

theorem attempt_of_not_mem {c : Call} (h : d.call w.field w.args w.selection = .ok c)
    (ha : w.aliasName ∉ d.batch.aliases) :
    (d.attempt w).result = .ok { d with batch := ⟨d.batch.items ++ [(w.aliasName, c)]⟩ } := by
  simp only [attempt, add, h, Bind.bind, Except.bind, Batch.insert_of_not_mem ha]
  rfl

/-- A verdict is what an attempt comes to. -/
theorem Verdict.result_eq {result : Except CallError Batch} (h : Verdict d.registry d.kind d.batch w result) :
    (d.attempt w).result = result.map fun b => { d with batch := b } := by
  cases h with
  | unknownField hf => exact attempt_of_error (call_of_not_declares hf)
  | unknownArgument hf hargs hbefore harg => exact attempt_of_error (call_of_undeclared hf hargs hbefore harg)
  | schema hf hargs hs ht hc he =>
    exact attempt_of_error (call_of_schema hf hargs hs (by rw [neededSelection_of_object ht hc, he]; rfl))
  | duplicateAlias hc ha => exact attempt_of_mem (call_of_plans hc) ha
  | granted hc ha => exact attempt_of_not_mem (call_of_plans hc) ha

/-- No wish is without a verdict. -/
theorem exists_verdict (hr : Registry.ofTypes queryType mutationType subscriptionType types = .ok r)
    (kind : OperationKind) (b : Batch) (w : Wish) : ∃ result, Verdict r kind b w result := by
  rcases plans_or_refused r kind w with ⟨f, c, hc⟩ | hf | ⟨f, before, arg, after, hf, hargs, hbefore, harg⟩ |
    ⟨f, e, hf, hargs, hs, he⟩
  · by_cases ha : w.aliasName ∈ b.aliases
    · exact ⟨_, .duplicateAlias hc ha⟩
    · exact ⟨_, .granted hc ha⟩
  · exact ⟨_, .unknownField hf⟩
  · exact ⟨_, .unknownArgument hf hargs hbefore harg⟩
  · obtain ⟨t, ht⟩ := exists_resolve_of_declares hr hf
    by_cases hc : r.classify t = .object
    · rw [neededSelection_of_object ht hc, map_eq_error_iff] at he
      exact ⟨_, .schema hf hargs hs ht hc he⟩
    · rw [neededSelection_of_ne_object ht hc] at he
      cases he

/-- For every wish there is one verdict, and an attempt comes to it. -/
theorem verdict_iff (hr : Registry.ofTypes queryType mutationType subscriptionType types = .ok d.registry)
    {result : Except CallError Batch} :
    Verdict d.registry d.kind d.batch w result ↔ (d.attempt w).result.map Draft.batch = result := by
  have hmap : ∀ {result}, Verdict d.registry d.kind d.batch w result →
      (d.attempt w).result.map Draft.batch = result := by
    intro result h
    rw [h.result_eq]
    cases result <;> rfl
  refine ⟨hmap, ?_⟩
  rintro rfl
  obtain ⟨result, h⟩ := exists_verdict hr d.kind d.batch w
  rwa [hmap h]

/-- How an attempt goes for a registry and a kind: as the verdict says, by one
more item at the end of the batch or else without any change. -/
structure Attempt.Sound (r : Registry) (kind : OperationKind) (a : Attempt) : Prop where
  verdict : ∀ result, Verdict r kind a.before.batch a.wish result ↔ a.result.map Draft.batch = result
  grows : a.isGranted = true → ∃ f c, Plans r kind a.wish f c ∧ a.wish.aliasName ∉ a.before.batch.aliases ∧
    a.after = { a.before with batch := ⟨a.before.batch.items ++ [(a.wish.aliasName, c)]⟩ }
  stays : a.isGranted = false → a.after = a.before

theorem attempt_sound (hr : Registry.ofTypes queryType mutationType subscriptionType types = .ok d.registry)
    (w : Wish) : (d.attempt w).Sound d.registry d.kind where
  verdict _ := verdict_iff hr
  grows h := by
    obtain ⟨result, hv⟩ := exists_verdict hr d.kind d.batch w
    have hres := hv.result_eq
    rw [Attempt.isGranted, hres] at h
    cases hv with
    | granted hc ha => exact ⟨_, _, hc, ha, by rw [Attempt.after, hres]; rfl⟩
    | _ => cases h
  stays h := by
    rw [Attempt.isGranted] at h
    rw [Attempt.after]
    cases hres : (d.attempt w).result with
    | ok d' => rw [hres] at h; cases h
    | error e => rfl

/-! ## Wishes -/

/-- An item of a batch that stands for a wish. -/
def Wish.Gives (r : Registry) (kind : OperationKind) (w : Wish) (item : String × Call) : Prop :=
  item.1 = w.aliasName ∧ ∃ f, Plans r kind w f item.2

/-- A wish is granted by an item that stands for it, under an alias that is
not taken. -/
theorem attempt_eq_ok_iff {after : Draft} : (d.attempt w).result = .ok after ↔
    ∃ item, w.Gives d.registry d.kind item ∧ item.1 ∉ d.batch.aliases ∧
      after = { d with batch := ⟨d.batch.items ++ [item]⟩ } := by
  constructor
  · intro h
    obtain ⟨c, hc, -⟩ := bind_eq_ok_iff.1 h
    obtain ⟨f, hf⟩ := exists_plans_of_call hc
    by_cases ha : w.aliasName ∈ d.batch.aliases
    · rw [attempt_of_mem hc ha] at h
      cases h
    · rw [attempt_of_not_mem hc ha] at h
      cases h
      exact ⟨(w.aliasName, c), ⟨rfl, f, hf⟩, ha, rfl⟩
  · rintro ⟨⟨aliasName, c⟩, ⟨rfl, f, hf⟩, ha, rfl⟩
    exact attempt_of_not_mem (call_of_plans hf) ha

/-- Wishes on a draft, from any batch on: the items that are added stand for
those that are granted. -/
theorem history_sound (hr : Registry.ofTypes queryType mutationType subscriptionType types = .ok r)
    (kind : OperationKind) (ws : List Wish) : ∀ b : Batch, b.aliases.Nodup →
    (∀ a ∈ history ⟨r, kind, b⟩ ws, a.Sound r kind) ∧
      ∃ items, finish ⟨r, kind, b⟩ ws = ⟨r, kind, ⟨b.items ++ items⟩⟩ ∧
        (⟨b.items ++ items⟩ : Batch).aliases.Nodup ∧
        List.Forall₂ (Wish.Gives r kind) (granted ⟨r, kind, b⟩ ws) items := by
  induction ws with
  | nil => exact fun b hb => ⟨by simp [history], [], by simp [finish], by simpa using hb, .nil⟩
  | cons w ws ih =>
    intro b hb
    have hsound := attempt_sound (d := ⟨r, kind, b⟩) hr w
    cases hw : (attempt ⟨r, kind, b⟩ w).isGranted with
    | true =>
      obtain ⟨f, c, hc, ha, hafter⟩ := hsound.grows hw
      have ha : w.aliasName ∉ b.aliases := ha
      have hafter : (attempt ⟨r, kind, b⟩ w).after = ⟨r, kind, ⟨b.items ++ [(w.aliasName, c)]⟩⟩ := hafter
      have hnodup : (⟨b.items ++ [(w.aliasName, c)]⟩ : Batch).aliases.Nodup := by
        rw [Batch.aliases_append, List.map_singleton, ← List.concat_eq_append]
        exact hb.concat ha
      obtain ⟨hrest, items, hfinish, hnodup, hgives⟩ := ih _ hnodup
      refine ⟨?_, (w.aliasName, c) :: items, ?_, ?_, ?_⟩
      · rw [history, hafter]
        exact List.forall_mem_cons.2 ⟨hsound, hrest⟩
      · rw [finish, List.foldl_cons, hafter]
        simpa [finish] using hfinish
      · simpa using hnodup
      · rw [granted, history, hafter, List.filter_cons_of_pos hw, List.map_cons]
        exact .cons ⟨rfl, f, hc⟩ hgives
    | false =>
      have hafter := hsound.stays hw
      obtain ⟨hrest, items, hfinish, hnodup, hgives⟩ := ih b hb
      refine ⟨?_, items, ?_, hnodup, ?_⟩
      · rw [history, hafter]
        exact List.forall_mem_cons.2 ⟨hsound, hrest⟩
      · rw [finish, List.foldl_cons, hafter]
        exact hfinish
      · rw [granted, history, hafter, List.filter_cons_of_neg (by simp [hw])]
        exact hgives

theorem start_eq_ok_iff : start r kind = .ok d ↔ (∃ root, r.rootType kind = .ok root) ∧ d = ⟨r, kind, .empty⟩ := by
  rw [start]
  cases r.rootType kind <;> simp [eq_comm]

/-- **What a draft holds.** Whatever is wished for, an attempt comes to its
one verdict: it adds one item at the end of the batch, or is refused for the
first reason that applies and changes nothing. The batch lists, in order and
under distinct aliases, what the granted wishes stand for. -/
theorem history_grants (hr : Registry.ofTypes queryType mutationType subscriptionType types = .ok r)
    (hd : start r kind = .ok d) (ws : List Wish) :
    (∀ a ∈ history d ws, a.Sound r kind) ∧
      List.Forall₂ (Wish.Gives r kind) (granted d ws) (finish d ws).batch.items ∧
      (finish d ws).batch.aliases.Nodup := by
  obtain ⟨-, rfl⟩ := start_eq_ok_iff.1 hd
  obtain ⟨hsound, items, hfinish, hnodup, hgives⟩ :=
    history_sound hr kind ws .empty (by simp [Batch.empty, Batch.aliases])
  rw [hfinish]
  exact ⟨hsound, hgives, hnodup⟩

/-- A call twice, one of a field that is not there, and one with an argument
that is not. -/
def rosterWishes : List Wish :=
  [⟨"me", "me", [], none⟩, ⟨"me", "me", [], none⟩, ⟨"you", "you", [], none⟩, ⟨"other", "me", [("id", .ofNat 1)], none⟩]

theorem history_grants_roster :
    Registry.ofTypes "Query" none none Roster.registry.types = .ok Roster.registry ∧
      start Roster.registry .query = .ok ⟨Roster.registry, .query, .empty⟩ ∧
      (finish ⟨Roster.registry, .query, .empty⟩ rosterWishes).batch.items =
        [("me", ⟨"me", some "name friends \x7b name team \x7b lead \x7b name \x7d title \x7d \x7d", []⟩)] ∧
      List.Forall₂ (Wish.Gives Roster.registry .query) [⟨"me", "me", [], none⟩]
        (finish ⟨Roster.registry, .query, .empty⟩ rosterWishes).batch.items := by
  have hr : Registry.ofTypes "Query" none none Roster.registry.types = .ok Roster.registry := rfl
  have hd : start Roster.registry .query = .ok ⟨Roster.registry, .query, .empty⟩ := rfl
  have hgranted : granted ⟨Roster.registry, .query, .empty⟩ rosterWishes = [⟨"me", "me", [], none⟩] := by decide
  exact ⟨hr, hd, by decide, hgranted ▸ (history_grants hr hd rosterWishes).2.1⟩

end Draft
end GraphCalls
