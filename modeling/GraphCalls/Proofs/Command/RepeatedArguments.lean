/-
Arguments that are supplied more than once.

A call binds its arguments one by one, as they are supplied: each name is
looked up in the declaration of the field, and none is compared with those
before it. So a call passes an argument as often as it was supplied, on the
command line as often as there are words for it (`passes_as_supplied`). Only
the entries of a batch file have each argument once, because of members with
one name reading leaves the last.
-/
import GraphCalls.Proofs.Command.SingleCalls

namespace GraphCalls

/-- The names of the arguments that a call binds, in order. -/
def Call.boundNames (c : Call) : List String := c.bindings.map (·.name)

/-- The names of the arguments that a written call passes, in order. -/
def CallSyntax.passedNames (c : CallSyntax) : List String := c.args.map Prod.fst

/-! ## Bindings -/

namespace Draft

variable {d : Draft} {field : String} {args args' : List (String × Json)} {selection : Option String} {c : Call}

theorem exists_plans (aliasName : String) (h : d.call field args selection = .ok c) :
    ∃ f, Plans d.registry d.kind ⟨aliasName, field, args, selection⟩ f c :=
  exists_plans_of_call (w := ⟨aliasName, field, args, selection⟩) h

theorem Plans.boundNames {r : Registry} {kind : OperationKind} {w : Wish} {f : FieldDef} (h : Plans r kind w f c) :
    c.boundNames = w.args.map Prod.fst :=
  map_eq_of_forall₂ (R := fun b a => f.Binds a b) (fun hb => hb.1) h.bindings.flip

theorem boundNames_of_call (h : d.call field args selection = .ok c) : c.boundNames = args.map Prod.fst := by
  obtain ⟨f, hf⟩ := exists_plans field h
  exact hf.boundNames

/-- What was bound can be bound any number of times, in any order. -/
theorem exists_call_of_names (h : d.call field args selection = .ok c) (hargs : ∀ a ∈ args', a.1 ∈ args.map Prod.fst) :
    ∃ c', d.call field args' selection = .ok c' := by
  obtain ⟨f, hf⟩ := exists_plans field h
  have hdeclared : ∀ a ∈ args', (f.arg? a.1).isSome := by
    intro a ha
    obtain ⟨a', ha', hname⟩ := List.mem_map.1 (hargs a ha)
    obtain ⟨_, -, -, -, i, hi, -⟩ := exists_mem_of_forall₂ hf.bindings ha'
    rw [← hname, hi]
    rfl
  obtain ⟨bs, hbs⟩ := exists_forall₂_binds hdeclared
  have hplans : Plans d.registry d.kind ⟨field, field, args', selection⟩ f ⟨field, c.selection, bs⟩ :=
    ⟨hf.declared, rfl, hbs, hf.selection⟩
  exact ⟨_, call_of_plans hplans⟩

end Draft

/-! ## Written calls -/

namespace Document

/-- A written call passes the arguments that the call binds. -/
theorem passedNames_syntaxOf (kind : OperationKind) (b : Batch) :
    List.Forall₂ (fun i c => c.passedNames = i.2.boundNames) b.items (syntaxOf kind b).calls :=
  (makes_ofBatch kind b).imp fun _ _ h => map_eq_of_forall₂ (fun hp => hp.1) h.args

end Document

/-! ## Batch files -/

namespace BatchEntry

theorem nodup_args_of_record {depth : Nat} {s : Source} {e : BatchEntry} (h : record.ofSource depth s = .ok e) :
    (e.args.map Prod.fst).Nodup := by
  have hkeeps : record.Keeps depth fun d => ((d.args.getD []).map Prod.fst).Nodup := by
    refine ⟨fun f hf n s d d' _ hd h => ?_, fun keep hk => absurd hk (Option.not_mem_none _)⟩
    simp only [record, List.mem_cons, List.not_mem_nil, or_false] at hf
    rcases hf with rfl | rfl | rfl <;> obtain ⟨a, ha, rfl⟩ := map_eq_ok_iff.1 h
    · exact hd
    · exact Reader.nodup_of_entries_ofSource ha
    · exact hd
  obtain ⟨d, hd, hfinish⟩ := Record.exists_draft_of_ofSource hkeeps (by simp [record]) h
  simp only [record, Option.bind_eq_bind, Option.bind_eq_some_iff] at hfinish
  obtain ⟨field, -, he⟩ := hfinish
  cases he
  exact hd

theorem nodup_args_of_ofText {text : String} {es : Entries BatchEntry} (h : ofText text = .ok es) :
    ∀ e ∈ es, (e.2.args.map Prod.fst).Nodup := by
  intro e he
  obtain ⟨n, x, -, hx⟩ := Reader.mem_of_entries_ofSource (Reader.ofText_eq_ok_iff.1 h).1 e he
  exact nodup_args_of_record hx

end BatchEntry

/-! ## Plans -/

namespace Plan

variable {r : Registry} {kind : OperationKind} {w : CallWords} {b : Batch}

theorem ofCall_eq_ok_iff : ofCall r kind w = .ok b ↔ ∃ args c, w.args.mapM Pair.argument = .ok args ∧
    (∃ root, r.rootType kind = .ok root) ∧ Draft.call ⟨r, kind, .empty⟩ w.field args w.selection = .ok c ∧
      b = single (w.aliasName.getD w.field, c) := by
  have hitem : ∀ {args root}, w.args.mapM Pair.argument = .ok args → r.rootType kind = .ok root →
      ofCall r kind w = (BatchEntry.item r kind (w.aliasName.getD w.field, ⟨w.field, args, w.selection⟩)).map single :=
    fun hargs hroot => ofCall_eq_item hroot ⟨rfl, rfl, hargs, rfl⟩
  constructor
  · intro h
    obtain ⟨args, hargs, hrest⟩ := bind_eq_ok_iff.1 h
    obtain ⟨_, hstart, -⟩ := bind_eq_ok_iff.1 hrest
    obtain ⟨⟨root, hroot⟩, -⟩ := Draft.start_eq_ok_iff.1 (mapError_eq_ok_iff.1 hstart)
    rw [hitem hargs hroot] at h
    obtain ⟨⟨aliasName, c⟩, hi, rfl⟩ := map_eq_ok_iff.1 h
    obtain ⟨rfl, hc⟩ := BatchEntry.item_eq_ok_iff.1 hi
    exact ⟨args, c, hargs, ⟨root, hroot⟩, hc, rfl⟩
  · rintro ⟨args, c, hargs, ⟨root, hroot⟩, hc, rfl⟩
    rw [hitem hargs hroot]
    exact map_eq_ok_iff.2 ⟨_, BatchEntry.item_eq_ok_iff.2 ⟨rfl, hc⟩, rfl⟩

/-- The words of a call that was planned can be given any number of times, in
any order. -/
theorem exists_ofCall_of_words (h : ofCall r kind w = .ok b) {words : List String} (hwords : ∀ x ∈ words, x ∈ w.args) :
    ∃ b', ofCall r kind { w with args := words } = .ok b' := by
  obtain ⟨args, c, hargs, hroot, hc, -⟩ := ofCall_eq_ok_iff.1 h
  have hread : ∀ x ∈ words, ∃ a ∈ args, Pair.argument x = .ok a :=
    fun x hx => exists_mem_of_forall₂ (mapM_eq_ok_iff.1 hargs) (hwords x hx)
  obtain ⟨args', hargs'⟩ := exists_mapM_eq_ok_iff.2 fun x hx => (hread x hx).imp fun _ ha => ha.2
  have hnames : ∀ a ∈ args', a.1 ∈ args.map Prod.fst := by
    refine forall_mem_of_mapM hargs' fun x hx a ha => ?_
    obtain ⟨a', hmem, ha'⟩ := hread x hx
    cases ha.symm.trans ha'
    exact List.mem_map_of_mem hmem
  obtain ⟨c', hc'⟩ := Draft.exists_call_of_names hc hnames
  exact ⟨_, ofCall_eq_ok_iff.2 ⟨args', c', hargs', hroot, hc', rfl⟩⟩

/-- **Arguments are passed as they are supplied.** The names that a call binds
are those supplied, in order, repeated ones included, so they are distinct
exactly if those are; and names that can be bound once can be bound any number
of times. A call of a command line is written with the names of its words, and
no repetition of words is refused. Of a batch file each call binds and passes
an argument at most once. -/
theorem passes_as_supplied (r : Registry) (kind : OperationKind) :
    (∀ (d : Draft) (field : String) (args : List (String × Json)) (selection : Option String) (c : Call),
      d.call field args selection = .ok c →
        c.boundNames = args.map Prod.fst ∧ (c.boundNames.Nodup ↔ (args.map Prod.fst).Nodup) ∧
        ∀ args', (∀ a ∈ args', a.1 ∈ args.map Prod.fst) → ∃ c', d.call field args' selection = .ok c') ∧
    (∀ w b, ofCall r kind w = .ok b →
      (∃ args i c, w.args.mapM Pair.argument = .ok args ∧ b = single i ∧ i.2.boundNames = args.map Prod.fst ∧
        (Document.ofBatch kind b).query = (Document.syntaxOf kind b).text ∧ (Document.syntaxOf kind b).calls = [c] ∧
        c.passedNames = args.map Prod.fst ∧ (c.passedNames.Nodup ↔ (args.map Prod.fst).Nodup)) ∧
      ∀ words, (∀ x ∈ words, x ∈ w.args) → ∃ b', ofCall r kind { w with args := words } = .ok b') ∧
    ∀ text es b, BatchEntry.ofText text = .ok es → ofEntries r kind es = .ok b →
      (∀ i ∈ b.items, i.2.boundNames.Nodup) ∧
      (Document.ofBatch kind b).query = (Document.syntaxOf kind b).text ∧
      ∀ c ∈ (Document.syntaxOf kind b).calls, c.passedNames.Nodup := by
  refine ⟨fun d field args selection c hc => ?_, fun w b hb => ⟨?_, fun words => exists_ofCall_of_words hb⟩,
    fun text es b hes hb => ?_⟩
  · have hnames := Draft.boundNames_of_call hc
    exact ⟨hnames, by rw [hnames], fun args' => Draft.exists_call_of_names hc⟩
  · obtain ⟨args, c, hargs, -, hc, rfl⟩ := ofCall_eq_ok_iff.1 hb
    have hnames := Draft.boundNames_of_call hc
    cases Document.passedNames_syntaxOf kind (single (w.aliasName.getD w.field, c)) with
    | cons hpassed _ =>
      have hpassed := hpassed.trans hnames
      exact ⟨args, _, _, hargs, rfl, hnames, Document.query_ofBatch kind _, rfl, hpassed, by rw [hpassed]⟩
  · have hitems : ∀ i ∈ b.items, i.2.boundNames.Nodup := by
      intro i hi
      obtain ⟨w, hw, -, f, hf⟩ := exists_mem_of_forall₂ (ofEntries_eq_ok_iff.1 hb).2.1.flip hi
      obtain ⟨e, he, rfl⟩ := List.mem_map.1 hw
      rw [hf.boundNames]
      exact BatchEntry.nodup_args_of_ofText hes e he
    refine ⟨hitems, Document.query_ofBatch kind b, fun c hc => ?_⟩
    obtain ⟨i, hi, hpassed⟩ := exists_mem_of_forall₂ (Document.passedNames_syntaxOf kind b).flip hc
    rw [hpassed]
    exact hitems i hi

/-- A call with two words for one argument. -/
def repeatedWords : CallWords := ⟨"user", ["id=1", "id=2"], none, none⟩

theorem ofCall_repeatedWords : ofCall lookupRegistry .query repeatedWords = .ok (single ("user", ⟨"user", none,
    [⟨"id", .number (.int 1), some "String"⟩, ⟨"id", .number (.int 2), some "String"⟩]⟩)) := by decide +kernel

/-- A file whose call lists one argument twice. -/
def repeatedFile : String :=
  "\x7b\"user\": \x7b\"field\": \"user\", \"args\": \x7b\"id\": 1, \"id\": 2\x7d\x7d\x7d"

/-- The words make two bindings, the file one. -/
theorem passes_as_supplied_lookup : ∃ (i : String × Call) (c : CallSyntax) (es : Entries BatchEntry) (b : Batch),
    ofCall lookupRegistry .query repeatedWords = .ok (single i) ∧
      (Document.syntaxOf .query (single i)).calls = [c] ∧ c.passedNames = ["id", "id"] ∧
      (∃ b', ofCall lookupRegistry .query ⟨"user", ["id=2", "id=2", "id=2"], none, none⟩ = .ok b') ∧
      BatchEntry.ofText repeatedFile = .ok es ∧ ofEntries lookupRegistry .query es = .ok b ∧
      b.items = [("user", ⟨"user", none, [⟨"id", .number (.int 2), some "String"⟩]⟩)] ∧
      ∀ c ∈ (Document.syntaxOf .query b).calls, c.passedNames.Nodup := by
  have hes : BatchEntry.ofText repeatedFile = .ok [("user", ⟨"user", [("id", .number (.int 2))], none⟩)] := by
    decide +kernel
  have hplan : ofEntries lookupRegistry .query [("user", ⟨"user", [("id", .number (.int 2))], none⟩)] =
      .ok ⟨[("user", ⟨"user", none, [⟨"id", .number (.int 2), some "String"⟩]⟩)]⟩ := by decide
  have hargs : repeatedWords.args.mapM Pair.argument =
      .ok [("id", .number (.int 1)), ("id", .number (.int 2))] := by decide +kernel
  obtain ⟨-, hcalls, hfiles⟩ := passes_as_supplied lookupRegistry .query
  obtain ⟨⟨args, i, c, hargs', hi, -, -, hc, hpassed, -⟩, hmore⟩ := hcalls _ _ ofCall_repeatedWords
  cases hargs.symm.trans hargs'
  exact ⟨i, c, _, _, hi ▸ ofCall_repeatedWords, hi ▸ hc, hpassed, hmore ["id=2", "id=2", "id=2"] (by decide), hes, hplan,
    rfl, (hfiles _ _ _ hes hplan).2.2⟩

/-- Not all calls that are planned bind distinct names: one argument is passed
twice. -/
theorem passes_as_supplied_twice :
    Registry.ofTypes "Query" none none lookupRegistry.types = .ok lookupRegistry ∧
      (∃ b, ofCall lookupRegistry .query repeatedWords = .ok b ∧
        (Document.ofBatch .query b).query =
          "query queryName($input0:String,$input1:String)\x7buser:user(id:$input0, id:$input1)\x7d") ∧
      ¬∀ (w : CallWords) (b : Batch), ofCall lookupRegistry .query w = .ok b →
        ∀ i ∈ b.items, i.2.boundNames.Nodup := by
  refine ⟨by decide, ⟨_, ofCall_repeatedWords, by decide +kernel⟩, fun h => ?_⟩
  have hnodup := h _ _ ofCall_repeatedWords _ (List.mem_singleton_self _)
  exact absurd hnodup (by decide)

end Plan
end GraphCalls
