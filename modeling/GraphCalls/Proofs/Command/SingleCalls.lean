/-
A batch file against single calls.

What is planned of an entry does not depend on the entries before it. So the
entries of a file are planned exactly if each of them is as a single call, and
the batch has the items of these calls, each written as in a document of its
own but for the numbers of its variables (`ofEntries_as_singles`).
-/
import GraphCalls.Proofs.Call.OperationSyntax
import GraphCalls.Proofs.Command.BatchFile
import GraphCalls.Proofs.Command.PlannedValues
import GraphCalls.Proofs.Json.Spelling

namespace GraphCalls

/-- Words that spell out an entry of a batch file: the same alias, field and
selection, and arguments that read as those of the entry, in order. -/
structure CallWords.Spells (w : CallWords) (e : String × BatchEntry) : Prop where
  aliasName : w.aliasName.getD w.field = e.1
  field : w.field = e.2.field
  args : w.args.mapM Pair.argument = .ok e.2.args
  selection : w.selection = e.2.selection

/-! ## Words for entries -/

namespace BatchEntry

/-- The values of an entry's arguments have texts. -/
theorem exists_text_of_record {depth : Nat} {s : Source} {e : BatchEntry} (h : record.ofSource depth s = .ok e)
    (hdepth : depth ≤ Json.maxDepth) : ∀ a ∈ e.args, ∃ text, Json.ofText text = .ok a.2 := by
  have hkeeps : record.Keeps depth fun d => ∀ a ∈ d.args.getD [], ∃ text, Json.ofText text = .ok a.2 := by
    refine ⟨fun f hf n s d d' hn hd h => ?_, fun keep hk => absurd hk (Option.not_mem_none _)⟩
    simp only [record, List.mem_cons, List.not_mem_nil, or_false] at hf
    -- Only the arguments have values; the other fields leave them as they were.
    rcases hf with rfl | rfl | rfl <;> obtain ⟨a, ha, rfl⟩ := map_eq_ok_iff.1 h
    · exact hd
    · intro e he
      obtain ⟨m, x, hm, hx⟩ := Reader.mem_of_entries_ofSource ha e he
      exact Json.exists_ofText_of_ofSource hx ((hm.trans hn).le.trans hdepth)
    · exact hd
  obtain ⟨d, hd, hfinish⟩ := Record.exists_draft_of_ofSource hkeeps (by simp [record]) h
  simp only [record, Option.bind_eq_bind, Option.bind_eq_some_iff] at hfinish
  obtain ⟨field, -, he⟩ := hfinish
  cases he
  exact hd

theorem exists_text_of_ofText {text : String} {es : Entries BatchEntry} (h : ofText text = .ok es) :
    ∀ e ∈ es, ∀ a ∈ e.2.args, ∃ text, Json.ofText text = .ok a.2 := by
  intro e he
  obtain ⟨n, x, hn, hx⟩ := Reader.mem_of_entries_ofSource (Reader.ofText_eq_ok_iff.1 h).1 e he
  exact exists_text_of_record hx hn.le

/-- An argument has a word if its value has a text, and its name can stand
before an equals sign. -/
theorem exists_word {a : String × Json} (hne : a.1 ≠ "") (hname : '=' ∉ a.1.toList)
    (h : ∃ text, Json.ofText text = .ok a.2) : ∃ word, Pair.argument word = .ok a := by
  obtain ⟨text, htext⟩ := h
  refine ⟨a.1 ++ "=" ++ text, ?_⟩
  rw [Pair.argument, Pair.parse_append text hne hname]
  simp only [Bind.bind, Except.bind, Pair.valueOf, htext]
  rfl

theorem exists_spells {e : String × BatchEntry} (h : ∀ a ∈ e.2.args, ∃ word, Pair.argument word = .ok a) :
    ∃ w : CallWords, w.Spells e := by
  obtain ⟨words, hwords⟩ := exists_forall₂ h
  exact ⟨⟨e.2.field, words, some e.1, e.2.selection⟩, rfl, rfl, mapM_eq_ok_iff.2 hwords, rfl⟩

/-! ## Entries on their own -/

/-- The item of an entry on its own. -/
def item (r : Registry) (kind : OperationKind) (e : String × BatchEntry) : Except CommandError (String × Call) :=
  ((Draft.call ⟨r, kind, .empty⟩ e.2.field e.2.args e.2.selection).map fun c => (e.1, c)).mapError .call

variable {r : Registry} {kind : OperationKind}

theorem item_eq_ok_iff {e : String × BatchEntry} {i : String × Call} : item r kind e = .ok i ↔
    i.1 = e.1 ∧ Draft.call ⟨r, kind, .empty⟩ e.2.field e.2.args e.2.selection = .ok i.2 := by
  rw [item, mapError_eq_ok_iff, map_eq_ok_iff]
  constructor
  · rintro ⟨c, hc, rfl⟩
    exact ⟨rfl, hc⟩
  · rintro ⟨he, hc⟩
    exact ⟨i.2, hc, by rw [← he]⟩

theorem item_ne_duplicateAlias {e : String × BatchEntry} (aliasName : String) :
    item r kind e ≠ .error (.call (.duplicateAlias aliasName)) := by
  have hcall := Draft.call_ne_duplicateAlias (d := ⟨r, kind, .empty⟩) (w := wish e) aliasName
  rw [item]
  cases hc : Draft.call ⟨r, kind, .empty⟩ e.2.field e.2.args e.2.selection with
  | ok c => exact fun h => nomatch h
  | error err =>
    rintro ⟨⟩
    exact hcall hc

end BatchEntry

namespace Plan

open BatchEntry

variable {r : Registry} {kind : OperationKind} {root : TypeDef}

/-- An entry with a new alias is added as it would be to no others. -/
theorem add_of_not_mem {b : Batch} {e : String × BatchEntry} (h : e.1 ∉ b.aliases) :
    ((Draft.mk r kind b).add e.1 e.2.field e.2.args e.2.selection).mapError CommandError.call =
      (item r kind e).map fun i => ⟨r, kind, ⟨b.items ++ [i]⟩⟩ := by
  have hcall : (Draft.mk r kind b).call e.2.field e.2.args e.2.selection =
      Draft.call ⟨r, kind, .empty⟩ e.2.field e.2.args e.2.selection := rfl
  rw [Draft.add, hcall, item]
  cases Draft.call ⟨r, kind, .empty⟩ e.2.field e.2.args e.2.selection with
  | error err => rfl
  | ok c =>
    simp only [Bind.bind, Except.bind, Batch.insert_of_not_mem h]
    rfl

/-- The batch so far only matters for the aliases that it has. -/
theorem foldlM_add_eq_mapM : ∀ {es : Entries BatchEntry} {b : Batch}, (b.aliases ++ es.map Prod.fst).Nodup →
    es.foldlM (fun (d : Draft) e => (d.add e.1 e.2.field e.2.args e.2.selection).mapError CommandError.call)
        ⟨r, kind, b⟩ = (es.mapM (item r kind)).map fun items => ⟨r, kind, ⟨b.items ++ items⟩⟩
  | [], b, _ => by
    rw [List.foldlM_nil, List.mapM_nil]
    simp [pure, Except.pure, Except.map]
  | e :: es, b, h => by
    have hnew : e.1 ∉ b.aliases := fun hmem => List.disjoint_of_nodup_append h hmem (List.mem_cons_self ..)
    rw [List.foldlM_cons, List.mapM_cons, add_of_not_mem hnew]
    cases he : item r kind e with
    | error err => rfl
    | ok i =>
      have hrest : ((⟨b.items ++ [i]⟩ : Batch).aliases ++ es.map Prod.fst).Nodup := by
        rw [Batch.aliases_append, List.map_singleton, (item_eq_ok_iff.1 he).1, List.append_assoc]
        exact h
      change es.foldlM _ (Draft.mk r kind ⟨b.items ++ [i]⟩) = (es.mapM (item r kind) >>= fun is => pure (i :: is)).map _
      rw [foldlM_add_eq_mapM hrest]
      cases es.mapM (item r kind) with
      | error err => rfl
      | ok items =>
        simp only [Except.map, Bind.bind, Except.bind, pure, Except.pure, List.append_assoc, List.singleton_append]

/-- What is planned of entries is what each of them comes to. -/
theorem ofEntries_eq_mapM (hroot : r.rootType kind = .ok root) {es : Entries BatchEntry}
    (hes : (es.map Prod.fst).Nodup) : ofEntries r kind es = (es.mapM (item r kind)).map Batch.mk := by
  have hstart : Draft.start r kind = .ok ⟨r, kind, .empty⟩ := Draft.start_eq_ok_iff.2 ⟨⟨root, hroot⟩, rfl⟩
  rw [ofEntries, hstart]
  have hfold : es.foldlM (fun (d : Draft) e => (d.add e.1 e.2.field e.2.args e.2.selection).mapError CommandError.call)
      ⟨r, kind, .empty⟩ = (es.mapM (item r kind)).map fun items => ⟨r, kind, ⟨items⟩⟩ :=
    foldlM_add_eq_mapM (b := .empty) hes
  change ((es.foldlM _ (Draft.mk r kind .empty) : Except CommandError Draft) >>= fun d => pure d.batch) = _
  rw [hfold]
  cases es.mapM (item r kind) <;> rfl

/-- The batch of a single call. -/
def single (i : String × Call) : Batch := ⟨[i]⟩

theorem ofCall_eq_item (hroot : r.rootType kind = .ok root) {w : CallWords} {e : String × BatchEntry}
    (h : w.Spells e) : ofCall r kind w = (item r kind e).map single := by
  have hstart : Draft.start r kind = .ok ⟨r, kind, .empty⟩ := Draft.start_eq_ok_iff.2 ⟨⟨root, hroot⟩, rfl⟩
  rw [ofCall, h.args, hstart, h.aliasName, h.field, h.selection]
  change (((Draft.mk r kind .empty).add e.1 e.2.field e.2.args e.2.selection).mapError CommandError.call >>=
    fun d => pure d.batch) = _
  rw [add_of_not_mem List.not_mem_nil]
  cases item r kind e <;> rfl

theorem ofCalls_eq_mapM (hroot : r.rootType kind = .ok root) {ws : List CallWords} {es : Entries BatchEntry}
    (h : List.Forall₂ CallWords.Spells ws es) :
    ws.mapM (ofCall r kind) = (es.mapM (item r kind)).map (List.map single) :=
  mapM_eq_map_of_forall₂ (h.imp fun _ _ hw => ofCall_eq_item hroot hw)

/-- **A batch is its calls on their own.** The entries of a file can be spelled
out as calls, and however they are, the file is planned exactly if each call is.
Then the items of the batch are those of the calls, under the aliases of the
file in their order; each is written as in its own document, with the numbers of
its variables raised by the number of bindings before it. Otherwise the error is
that of the first call that fails. It is never a clash of aliases. -/
theorem ofEntries_as_singles {text : String} {es : Entries BatchEntry} (hes : BatchEntry.ofText text = .ok es)
    (hnames : ∀ e ∈ es, ∀ a ∈ e.2.args, a.1 ≠ "" ∧ '=' ∉ a.1.toList) (hroot : r.rootType kind = .ok root) :
    (∃ ws, List.Forall₂ CallWords.Spells ws es) ∧ ∀ ws, List.Forall₂ CallWords.Spells ws es →
      ((∃ b, ofEntries r kind es = .ok b) ↔ ∀ w ∈ ws, ∃ b, ofCall r kind w = .ok b) ∧
      (∀ b, ofEntries r kind es = .ok b →
        b.aliases = es.map Prod.fst ∧
        List.Forall₂ (fun w i => ofCall r kind w = .ok (single i)) ws b.items ∧
        (Document.ofBatch kind b).query = (Document.syntaxOf kind b).text ∧
        ∀ before i after, b.items = before ++ i :: after → ∃ c c',
          (Document.syntaxOf kind (single i)).calls = [c] ∧
          (Document.ofBatch kind (single i)).query = (Document.syntaxOf kind (single i)).text ∧
          (Document.syntaxOf kind b).calls[before.length]? = some c' ∧
          Document.RaisedBy (before.flatMap (·.2.bindings)).length c c') ∧
      (∀ err, ofEntries r kind es = .error err ↔ ∃ before w after, ws = before ++ w :: after ∧
        (∀ v ∈ before, ∃ b, ofCall r kind v = .ok b) ∧ ofCall r kind w = .error err) ∧
      ∀ aliasName, ofEntries r kind es ≠ .error (.call (.duplicateAlias aliasName)) := by
  have hnodup : (es.map Prod.fst).Nodup := by
    obtain ⟨members, -, rfl⟩ := BatchEntry.ofText_eq_ok_iff.1 hes
    exact Entries.nodup_setAll_nil members
  refine ⟨exists_forall₂ fun e he => exists_spells fun a ha => ?_, fun ws hws => ?_⟩
  · exact exists_word (hnames e he a ha).1 (hnames e he a ha).2 (exists_text_of_ofText hes e he a ha)
  have hbatch := ofEntries_eq_mapM hroot hnodup
  have hcalls := ofCalls_eq_mapM hroot hws
  refine ⟨?_, fun b hb => ?_, fun err => ?_, fun aliasName hclash => ?_⟩
  · rw [← exists_mapM_eq_ok_iff, hbatch, hcalls]
    cases es.mapM (item r kind) <;> simp [Except.map]
  · obtain ⟨items, hitems, rfl⟩ := map_eq_ok_iff.1 (hbatch.symm.trans hb)
    rw [hitems] at hcalls
    refine ⟨?_, ?_, Document.query_ofBatch kind _, ?_⟩
    · have hfst : ∀ {e i}, item r kind e = .ok i → i.1 = e.1 := fun hi => (item_eq_ok_iff.1 hi).1
      exact map_eq_of_forall₂ (R := fun i e => item r kind e = .ok i) hfst (mapM_eq_ok_iff.1 hitems).flip
    · have hsingles := mapM_eq_ok_iff.1 hcalls
      rwa [List.forall₂_map_right_iff] at hsingles
    · rintro before i after rfl
      obtain ⟨c, c', hc, hc', hraised⟩ := Document.raisedBy_of_split kind before after i
      exact ⟨c, c', hc, Document.query_ofBatch kind _, hc', hraised⟩
  · rw [← mapM_eq_error_iff, hbatch, hcalls, map_eq_error_iff, map_eq_error_iff]
  · rw [hbatch, map_eq_error_iff] at hclash
    obtain ⟨e, -, he⟩ := exists_of_mapM_eq_error hclash
    exact item_ne_duplicateAlias aliasName he

/-- A file that lists two calls with an argument each. -/
def lookupFile : String :=
  "\x7b\"a\": \x7b\"field\": \"user\", \"args\": \x7b\"id\": 1\x7d\x7d, " ++
    "\"b\": \x7b\"field\": \"user\", \"args\": \x7b\"id\": \"two\"\x7d\x7d\x7d"

/-- The second call has the second variable, which is the first one in a
document of its own. -/
theorem ofEntries_as_singles_lookup : ∃ es b root, BatchEntry.ofText lookupFile = .ok es ∧
    (∀ e ∈ es, ∀ a ∈ e.2.args, a.1 ≠ "" ∧ '=' ∉ a.1.toList) ∧ lookupRegistry.rootType .query = .ok root ∧
    ofEntries lookupRegistry .query es = .ok b ∧
    ∃ ws c c', List.Forall₂ (fun w i => ofCall lookupRegistry .query w = .ok (single i)) ws b.items ∧
      (Document.syntaxOf .query b).calls[1]? = some c' ∧ Document.RaisedBy 1 c c' ∧
      c'.args = [("id", "input1")] ∧ c.args = [("id", "input0")] := by
  have hes : BatchEntry.ofText lookupFile =
      .ok [("a", ⟨"user", [("id", .number (.int 1))], none⟩), ("b", ⟨"user", [("id", .string "two")], none⟩)] := by
    decide +kernel
  have hnames : ∀ e ∈ [("a", BatchEntry.mk "user" [("id", .number (.int 1))] none),
      ("b", ⟨"user", [("id", .string "two")], none⟩)], ∀ a ∈ e.2.args, a.1 ≠ "" ∧ '=' ∉ a.1.toList := by decide
  obtain ⟨root, hroot⟩ : ∃ root, lookupRegistry.rootType .query = .ok root := ⟨_, rfl⟩
  have hb : ofEntries lookupRegistry .query
      [("a", ⟨"user", [("id", .number (.int 1))], none⟩), ("b", ⟨"user", [("id", .string "two")], none⟩)] =
      .ok ⟨[("a", ⟨"user", none, [⟨"id", .number (.int 1), some "String"⟩]⟩),
        ("b", ⟨"user", none, [⟨"id", .string "two", some "String"⟩]⟩)]⟩ := by decide
  obtain ⟨⟨ws, hws⟩, hall⟩ := ofEntries_as_singles hes hnames hroot
  obtain ⟨-, hitems, -, hbodies⟩ := (hall ws hws).2.1 _ hb
  obtain ⟨c, c', hc, -, hc', hraised⟩ := hbodies [_] _ [] rfl
  cases hc
  refine ⟨_, _, root, hes, hnames, hroot, hb, ws, _, c', hitems, hc', hraised, ?_, rfl⟩
  cases hc'
  rfl

end Plan
end GraphCalls
