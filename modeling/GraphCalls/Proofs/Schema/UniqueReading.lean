/-
Selections that can be read in one way only.

Names hold no blanks, so the words of a text are what stands between its
blanks. An opening brace is a word of its own that can follow a name only, a
closing brace ends the body it stands in, and a body without nodes has one
word, which is empty. So words have one tree (`items_unique`), and the text of
a default selection is that of one tree only (`synthesize_reads_uniquely`).
-/
import GraphCalls.Proofs.Call.Nesting
import GraphCalls.Proofs.Joined
import GraphCalls.Proofs.Schema.FirstOccurrence

namespace GraphCalls

namespace SelectionNode

/-- Names that are not empty and hold no blanks and no braces. -/
def PlainName (name : String) : Prop := name ≠ "" ∧ ∀ c ∈ [' ', '{', '}'], c ∉ name.toList

instance (name : String) : Decidable (PlainName name) :=
  have : Decidable (∀ c ∈ [' ', '{', '}'], c ∉ name.toList) := List.decidableBAll _ _
  inferInstanceAs (Decidable (name ≠ "" ∧ ∀ c ∈ [' ', '{', '}'], c ∉ name.toList))

/-- All names of a node are plain. -/
def Named : SelectionNode → Prop
  | .leaf f => PlainName f
  | .nested f body => PlainName f ∧ inBody body
where
  inBody : List SelectionNode → Prop
    | [] => True
    | n :: ns => Named n ∧ inBody ns

/-- How a tree is written: a node without a body by its name, one with a body
by its name and the body between braces, with a blank inside each, and nodes
with a blank between neighbours. -/
inductive Renders : List SelectionNode → String → Prop
  | nil : Renders [] ""
  | leaf (f : String) : Renders [.leaf f] f
  | nested {f body s} (h : Renders body s) : Renders [.nested f body] (f ++ " \x7b " ++ s ++ " \x7d")
  | more {n n' ns s s'} (h : Renders [n] s) (hs : Renders (n' :: ns) s') : Renders (n :: n' :: ns) (s ++ " " ++ s')

variable {n : SelectionNode} {ns ms : List SelectionNode} {s : String}

/-! ## The words of a text -/

/-- The words of a node, one for each name and brace. A body without nodes is
one word, which is empty. -/
def items : SelectionNode → List (List Char)
  | .leaf f => [f.toList]
  | .nested f body => f.toList :: ['{'] :: ((if body.isEmpty then [[]] else inBody body) ++ [['}']])
where
  inBody : List SelectionNode → List (List Char)
    | [] => []
    | n :: ns => items n ++ inBody ns

/-- The words of a body. -/
def words (ns : List SelectionNode) : List (List Char) := if ns.isEmpty then [[]] else items.inBody ns

theorem items_ne_nil : ∀ n : SelectionNode, items n ≠ []
  | .leaf _ => List.cons_ne_nil _ _
  | .nested _ _ => List.cons_ne_nil _ _

theorem words_ne_nil : ∀ ns : List SelectionNode, words ns ≠ []
  | [] => List.cons_ne_nil _ _
  | n :: _ => fun h => items_ne_nil n (List.append_eq_nil_iff.1 h).1

theorem words_singleton (n : SelectionNode) : words [n] = items n := List.append_nil _

/-- A rendered text has blanks between its words, and nowhere else. -/
theorem Renders.toList_eq (h : Renders ns s) : s.toList = [' '].intercalate (words ns) := by
  induction h with
  | nil => rfl
  | leaf f =>
    rw [words_singleton]
    exact (List.intercalate_singleton).symm
  | @nested f body s _ ih =>
    have hwords : words [.nested f body] = [f.toList, ['{']] ++ (words body ++ [['}']]) := words_singleton _
    rw [hwords, intercalate_append _ (by simp) (by simp), intercalate_append _ (words_ne_nil body) (by simp), ← ih]
    simp [List.intercalate_cons_cons]
  | @more n n' ns s s' _ _ ih ihs =>
    have hwords : words (n :: n' :: ns) = words [n] ++ words (n' :: ns) := by
      rw [words_singleton]
      rfl
    rw [hwords, intercalate_append _ (words_ne_nil _) (words_ne_nil _), ← ih, ← ihs]
    simp

mutual

theorem blank_not_mem_items : ∀ {n : SelectionNode}, Named n → ∀ w ∈ items n, ' ' ∉ w
  | .leaf f, h, w, hw => by
    obtain rfl := List.mem_singleton.1 hw
    exact h.2 ' ' (by simp)
  | .nested f body, h, w, hw => by
    simp only [items, List.mem_cons, List.mem_append, List.not_mem_nil, or_false] at hw
    rcases hw with rfl | rfl | hw | rfl
    · exact h.1.2 ' ' (by simp)
    · decide
    · split at hw
      · obtain rfl := List.mem_singleton.1 hw
        simp
      · exact blank_not_mem_inBody h.2 w hw
    · decide

theorem blank_not_mem_inBody : ∀ {ns : List SelectionNode}, Named.inBody ns → ∀ w ∈ items.inBody ns, ' ' ∉ w
  | n :: ns, h, w, hw => by
    rcases List.mem_append.1 hw with hw | hw
    · exact blank_not_mem_items h.1 w hw
    · exact blank_not_mem_inBody h.2 w hw

end

/-- The words of a rendered text are found again at its blanks. -/
theorem Renders.splitOn_eq (h : Renders ns s) (hns : Named.inBody ns) : s.toList.splitOn ' ' = words ns := by
  rw [h.toList_eq, List.splitOn_intercalate _ _ (words_ne_nil ns)]
  intro w hw
  cases ns with
  | nil =>
    obtain rfl := List.mem_singleton.1 hw
    simp
  | cons n ns => exact blank_not_mem_inBody hns w hw

/-! ## The tree of words -/

/-- Where nodes end: with the text, or before a closing brace. -/
def Ends (rest : List (List Char)) : Prop := rest = [] ∨ ∃ more, rest = ['}'] :: more

theorem ends_brace (more : List (List Char)) : Ends (['}'] :: more) := .inr ⟨more, rfl⟩

theorem PlainName.toList_ne {f : String} (h : PlainName f) {w : List Char} (hw : w = [] ∨ w = ['{'] ∨ w = ['}']) :
    f.toList ≠ w := by
  rintro rfl
  rcases hw with hw | hw | hw
  · exact h.1 (by simpa using hw)
  · exact h.2 '{' (by simp) (by simp [hw])
  · exact h.2 '}' (by simp) (by simp [hw])

/-- Nodes start with a name. -/
theorem exists_head_inBody (h : Named n) (ns : List SelectionNode) :
    ∃ f more, items.inBody (n :: ns) = String.toList f :: more ∧ PlainName f := by
  cases n with
  | leaf f => exact ⟨f, _, rfl, h⟩
  | nested f body => exact ⟨f, _, rfl, h.1⟩

/-- Nodes start with no brace and no empty word. -/
theorem inBody_append_ne {w : List Char} {rest more : List (List Char)} (h : Named n)
    (hw : w = [] ∨ w = ['{'] ∨ w = ['}']) : items.inBody (n :: ns) ++ rest ≠ w :: more := by
  obtain ⟨f, tail, hitems, hf⟩ := exists_head_inBody h ns
  rw [hitems]
  exact fun heq => hf.toList_ne hw (List.cons.inj heq).1

/-- No node starts where others end. -/
theorem inBody_append_ne_of_ends {rest rest' : List (List Char)} (h : Named n) (hrest : Ends rest') :
    items.inBody (n :: ns) ++ rest ≠ rest' := by
  rcases hrest with rfl | ⟨more, rfl⟩
  · exact fun heq => items_ne_nil n (List.append_eq_nil_iff.1 (List.append_eq_nil_iff.1 heq).1).1
  · exact inBody_append_ne h (.inr (.inr rfl))

/-- No brace opens where nodes stand or end. -/
theorem inBody_append_ne_brace {rest more : List (List Char)} (hns : Named.inBody ns) (hrest : Ends rest) :
    items.inBody ns ++ rest ≠ ['{'] :: more := by
  cases ns with
  | nil => rcases hrest with rfl | ⟨_, rfl⟩ <;> simp [items.inBody]
  | cons n ns => exact inBody_append_ne hns.1 (.inr (.inl rfl))

/-- Words are those of one list of nodes, whatever stands behind the brace that
ends them. -/
theorem inBody_unique : ∀ {ns ms : List SelectionNode} {rest rest' : List (List Char)}, Named.inBody ns →
    Named.inBody ms → Ends rest → Ends rest' → items.inBody ns ++ rest = items.inBody ms ++ rest' →
    ns = ms ∧ rest = rest'
  | [], [], _, _, _, _, _, _, heq => ⟨rfl, heq⟩
  | [], _ :: _, _, _, _, hms, hrest, _, heq => absurd heq.symm (inBody_append_ne_of_ends hms.1 hrest)
  | _ :: _, [], _, _, hns, _, _, hrest', heq => absurd heq (inBody_append_ne_of_ends hns.1 hrest')
  | .leaf f :: ns, .leaf g :: ms, _, _, hns, hms, hrest, hrest', heq => by
    obtain ⟨hname, heq⟩ := List.cons.inj heq
    obtain ⟨rfl, hends⟩ := inBody_unique hns.2 hms.2 hrest hrest' heq
    exact ⟨by rw [String.toList_inj.1 hname], hends⟩
  | .leaf f :: ns, .nested g body :: ms, _, _, hns, _, hrest, _, heq =>
    absurd (List.cons.inj heq).2 (inBody_append_ne_brace hns.2 hrest)
  | .nested f body :: ns, .leaf g :: ms, _, _, _, hms, _, hrest', heq =>
    absurd (List.cons.inj heq).2.symm (inBody_append_ne_brace hms.2 hrest')
  | .nested f b :: ns, .nested g c :: ms, rest, rest', hns, hms, hrest, hrest', heq => by
    obtain ⟨hname, hbodies⟩ := List.cons.inj heq
    have hwords : words b ++ ['}'] :: (items.inBody ns ++ rest) = words c ++ ['}'] :: (items.inBody ms ++ rest') := by
      simpa [words] using (List.cons.inj hbodies).2
    -- The bodies end at the same brace, and the nodes behind it are read on.
    have hbody : b = c ∧ items.inBody ns ++ rest = items.inBody ms ++ rest' := by
      match b, c, hns.1.2, hms.1.2 with
      | [], [], _, _ => exact ⟨rfl, (List.cons.inj (List.cons.inj hwords).2).2⟩
      | [], _ :: _, _, hc => exact absurd hwords.symm (inBody_append_ne hc.1 (.inl rfl))
      | _ :: _, [], hb, _ => exact absurd hwords (inBody_append_ne hb.1 (.inl rfl))
      | n :: b, m :: c, hb, hc =>
        obtain ⟨hbc, hafter⟩ := @inBody_unique (n :: b) (m :: c) _ _ hb hc (ends_brace _) (ends_brace _) hwords
        exact ⟨hbc, (List.cons.inj hafter).2⟩
    obtain ⟨rfl, hafter⟩ := hbody
    obtain ⟨rfl, hends⟩ := inBody_unique hns.2 hms.2 hrest hrest' hafter
    exact ⟨by rw [String.toList_inj.1 hname], hends⟩

/-- A text renders one tree at most. -/
theorem Renders.unique (h : Renders ns s) (h' : Renders ms s) (hns : Named.inBody ns) (hms : Named.inBody ms) :
    ns = ms := by
  have hwords : words ns = words ms := (h.splitOn_eq hns).symm.trans (h'.splitOn_eq hms)
  have hclosed : words ns ++ [['}']] = words ms ++ [['}']] := by rw [hwords]
  match ns, ms with
  | [], [] => rfl
  | [], _ :: _ => exact absurd hclosed.symm (inBody_append_ne hms.1 (.inl rfl))
  | _ :: _, [] => exact absurd hclosed (inBody_append_ne hns.1 (.inl rfl))
  | n :: ns, m :: ms => exact (@inBody_unique (n :: ns) (m :: ms) _ _ hns hms (ends_brace _) (ends_brace _) hclosed).1

/-! ## The text of a tree -/

theorem leafNames_ne_of_named : ∀ {ns : List SelectionNode}, Named.inBody ns → ∀ f ∈ leafNames ns, f ≠ ""
  | .leaf _ :: ns, h, f, hf => by
    rcases List.mem_cons.1 hf with rfl | hf
    · exact h.1.1
    · exact leafNames_ne_of_named h.2 f hf
  | .nested _ _ :: ns, h, f, hf => @leafNames_ne_of_named ns h.2 f hf

theorem bodyText_of_named (h : Named.inBody ns) : bodyText ns = String.intercalate " " (ns.map text) :=
  congrArg (String.intercalate " ") (tokens_eq_map (leafNames_ne_of_named h))

mutual

theorem renders_text : ∀ {n : SelectionNode}, Named n → Renders [n] n.text
  | .leaf f, _ => .leaf f
  | .nested _ _, h => .nested (renders_bodyText h.2)

/-- The text of a tree renders it. -/
theorem renders_bodyText : ∀ {ns : List SelectionNode}, Named.inBody ns → Renders ns (bodyText ns)
  | [], _ => .nil
  | [n], h => by
    rw [bodyText_of_named h]
    exact renders_text h.1
  | n :: n' :: ns, h => by
    rw [bodyText_of_named h, List.map_cons, List.map_cons, String.intercalate_cons_cons, ← List.map_cons,
      ← bodyText_of_named h.2]
    exact .more (renders_text h.1) (renders_bodyText h.2)

end

/-! ## Braces -/

theorem depthAfter_append : ∀ {d e : Nat} {cs : List Char} (rest : List Char), depthAfter d cs = some e →
    depthAfter d (cs ++ rest) = depthAfter e rest
  | d, e, [], rest, h => by
    simp only [depthAfter, Option.some.injEq] at h
    rw [h, List.nil_append]
  | d, e, c :: cs, rest, h => by
    rw [depthAfter] at h
    rw [List.cons_append, depthAfter]
    split at h
    next hopen => rw [if_pos hopen, depthAfter_append rest h]
    next hopen =>
      rw [if_neg hopen]
      split at h
      next hclose =>
        split at h
        · cases h
        next hd => rw [if_pos hclose, if_neg hd, depthAfter_append rest h]
      next hclose => rw [if_neg hclose, depthAfter_append rest h]

theorem depthAfter_of_not_mem {cs : List Char} (hopen : '{' ∉ cs) (hclose : '}' ∉ cs) (d : Nat) :
    depthAfter d cs = some d := by
  induction cs with
  | nil => rfl
  | cons c cs ih =>
    simp only [List.mem_cons, not_or] at hopen hclose
    rw [depthAfter, if_neg (Ne.symm hopen.1), if_neg (Ne.symm hclose.1), ih hopen.2 hclose.2]

theorem PlainName.not_mem_open {f : String} (h : PlainName f) : '{' ∉ f.toList := h.2 '{' (by simp)

theorem PlainName.depthAfter {f : String} (h : PlainName f) (d : Nat) : depthAfter d f.toList = some d :=
  depthAfter_of_not_mem h.not_mem_open (h.2 '}' (by simp)) d

/-- A rendered text ends as deep as it starts, from any depth. -/
theorem Renders.depthAfter (h : Renders ns s) (hns : Named.inBody ns) (d : Nat) : depthAfter d s.toList = some d := by
  induction h generalizing d with
  | nil => rfl
  | leaf f => exact PlainName.depthAfter hns.1 d
  | @nested f body s _ ih =>
    have hchars : (f ++ " \x7b " ++ s ++ " \x7d").toList = f.toList ++ ([' ', '{', ' '] ++ (s.toList ++ [' ', '}'])) := by
      simp
    have hopen : GraphCalls.depthAfter d [' ', '{', ' '] = some (d + 1) := by simp [GraphCalls.depthAfter]
    rw [hchars, depthAfter_append _ (PlainName.depthAfter hns.1.1 d), depthAfter_append _ hopen,
      depthAfter_append _ (ih hns.1.2 (d + 1))]
    simp [GraphCalls.depthAfter]
  | @more n n' ns s s' _ _ ih ihs =>
    have hchars : (s ++ " " ++ s').toList = s.toList ++ ([' '] ++ s'.toList) := by simp
    have hblank : GraphCalls.depthAfter d [' '] = some d := by simp [GraphCalls.depthAfter]
    rw [hchars, depthAfter_append _ (ih ⟨hns.1, trivial⟩ d), depthAfter_append _ hblank, ihs hns.2 d]

/-- Of opening braces there is one for each body. -/
theorem Renders.count_brace (h : Renders ns s) (hns : Named.inBody ns) : s.toList.count '{' = expansions ns := by
  induction h with
  | nil => simp [expansions]
  | leaf f =>
    rw [List.count_eq_zero_of_not_mem (PlainName.not_mem_open hns.1)]
    simp [expansions]
  | @nested f body s _ ih =>
    have hname : f.toList.count '{' = 0 := List.count_eq_zero_of_not_mem (PlainName.not_mem_open hns.1.1)
    simp [List.count_append, hname, ih hns.1.2, expansions]
  | @more n n' ns s s' _ _ ih ihs =>
    have hsum : expansions (n :: n' :: ns) = expansions [n] + expansions (n' :: ns) := by
      cases n <;> simp [expansions]
    simp [List.count_append, hsum, ih ⟨hns.1, trivial⟩, ihs hns.2]

end SelectionNode

/-! ## The tree of a walk -/

namespace Outline

open SelectionNode

variable {r : Registry} {ms : List (String × TypeRef)} {o : Outline}

theorem Lists.named (h : Lists r ms o) (hms : ∀ p ∈ ms, PlainName p.1)
    (hr : ∀ x ∈ r.types, ∀ p ∈ x.members, PlainName p.1) : Named.inBody o.nodes := by
  induction h with
  | done => trivial
  | leaf _ _ _ ih =>
    rw [List.forall_mem_cons] at hms
    exact ⟨hms.1, ih hms.2⟩
  | dropped _ _ _ ih => exact ih (List.forall_mem_cons.1 hms).2
  | opened ht _ _ _ ihb ih =>
    rw [List.forall_mem_cons] at hms
    exact ⟨⟨hms.1, ihb (hr _ (Registry.mem_types_of_resolve ht))⟩, ih hms.2⟩

/-- Every body but the outermost was recorded. -/
theorem expansions_nodes : ∀ o : Outline, SelectionNode.expansions o.nodes = o.recorded.length
  | done => by simp [nodes, SelectionNode.expansions]
  | leaf _ rest => by rw [nodes, SelectionNode.expansions, expansions_nodes rest, recorded_leaf]
  | dropped _ _ rest => expansions_nodes rest
  | opened f t body rest => by
    rw [nodes, SelectionNode.expansions, expansions_nodes body, expansions_nodes rest, recorded_opened,
      List.length_cons, List.length_append]
    omega

end Outline

/-- A memo grows by the pairs that are new to it. -/
theorem Memo.size_of_append {m m' : Memo} {es : List Expansion} (h : m'.expanded = m.expanded ++ es) (hnodup : es.Nodup)
    (hnew : ∀ e ∈ es, e ∉ m.expanded) : m'.size = m.size + es.length := by
  have hrest : es.removeAll m.expanded = es := by
    refine List.filter_eq_self.2 fun e he => ?_
    simpa using hnew e he
  rw [size, h, List.eraseDups_append, hrest, eraseDups_of_nodup hnodup, List.length_append, size]

namespace Registry

open SelectionNode

variable {r r' : Registry} {t t' : TypeDef} {m m' : Memo} {s : String} {ns : List SelectionNode}

theorem synthesize_result_eq_ok_iff :
    (r.synthesize t m).result = .ok s ↔ ∃ ns, (r.selectionTree t m).result = .ok ns ∧ bodyText ns = s := by
  rw [synthesize]
  cases (r.selectionTree t m).result <;> simp [Except.map]

/-- The tree of a walk over plain names has plain names, and as many bodies as
the memo gains pairs. -/
theorem selectionTree_named (hnames : ∀ x ∈ t :: r.types, ∀ p ∈ x.members, PlainName p.1)
    (h : (r.selectionTree t m).result = .ok ns) :
    Named.inBody ns ∧ (r.synthesize t m).memo.size = m.size + expansions ns := by
  obtain ⟨o, ho, -⟩ := synthesize_outline (synthesize_result_eq_ok_iff.2 ⟨ns, h, rfl⟩)
  obtain rfl := Except.ok.inj (h.symm.trans ho.result)
  obtain ⟨ht, hr⟩ := List.forall_mem_cons.1 hnames
  refine ⟨ho.lists.named ht hr, ?_⟩
  rw [Outline.expansions_nodes]
  exact Memo.size_of_append ho.memo ho.prunes.nodup_recorded fun e => ho.prunes.not_mem

/-- **A default selection can be read in one way only**, where all members have
plain names: its text renders the tree that the walk made, and no other. Its
braces are balanced, and there are as many pairs of them as the memo gains
pairs. No walk that makes another tree, from whatever memo, comes to the same
text. -/
theorem synthesize_reads_uniquely (hnames : ∀ x ∈ t :: r.types, ∀ p ∈ x.members, PlainName p.1)
    (h : (r.synthesize t m).result = .ok s) :
    (∃ ns, (r.selectionTree t m).result = .ok ns ∧ Named.inBody ns ∧ Renders ns s ∧
      ∀ ns', Named.inBody ns' → Renders ns' s → ns' = ns) ∧
    Balanced s ∧
    (r.synthesize t m).memo.size = m.size + s.toList.count '{' ∧
    ∀ (r' : Registry) t' m', (∀ x ∈ t' :: r'.types, ∀ p ∈ x.members, PlainName p.1) →
      (r'.synthesize t' m').result = .ok s → (r'.selectionTree t' m').result = (r.selectionTree t m).result := by
  obtain ⟨ns, hns, rfl⟩ := synthesize_result_eq_ok_iff.1 h
  obtain ⟨hnamed, hsize⟩ := selectionTree_named hnames hns
  have hrenders := renders_bodyText hnamed
  refine ⟨⟨ns, hns, hnamed, hrenders, fun ns' hnamed' h' => h'.unique hrenders hnamed' hnamed⟩,
    hrenders.depthAfter hnamed 0, ?_, fun r' t' m' hnames' h' => ?_⟩
  · rw [hrenders.count_brace hnamed, hsize]
  · obtain ⟨ns', hns', htext⟩ := synthesize_result_eq_ok_iff.1 h'
    obtain ⟨hnamed', -⟩ := selectionTree_named hnames' hns'
    have hrenders' := renders_bodyText hnamed'
    rw [htext] at hrenders'
    rw [hns', hns, hrenders'.unique hrenders hnamed' hnamed]

end Registry

namespace Chain

open Roster

/-- Links lead to links only. -/
def link : TypeDef := object "Link" [field "next" (.named .object "Link")]

def registry : Registry := ⟨[object "Query" [field "first" (.named .object "Link")], link], "Query", none, none⟩

end Chain

/-- The body of the one name is empty, and its braces stand all the same. -/
theorem Registry.synthesize_reads_uniquely_chain :
    (∀ x ∈ Chain.link :: Chain.registry.types, ∀ p ∈ x.members, SelectionNode.PlainName p.1) ∧
      (Chain.registry.synthesize Chain.link .empty).result = .ok "next \x7b  \x7d" ∧
      (Chain.registry.selectionTree Chain.link .empty).result = .ok [.nested "next" []] ∧
      (∀ ns, SelectionNode.Named.inBody ns → SelectionNode.Renders ns "next \x7b  \x7d" →
        ns = [.nested "next" []]) ∧
      Balanced "next \x7b  \x7d" ∧
      (Chain.registry.synthesize Chain.link .empty).memo.size = 1 := by
  have hnames : ∀ x ∈ Chain.link :: Chain.registry.types, ∀ p ∈ x.members, SelectionNode.PlainName p.1 := by decide
  have htext : (Chain.registry.synthesize Chain.link .empty).result = .ok "next \x7b  \x7d" := by decide +kernel
  have htree : (Chain.registry.selectionTree Chain.link .empty).result = .ok [.nested "next" []] := rfl
  obtain ⟨⟨ns, hns, -, -, hunique⟩, hbalanced, hsize, -⟩ := synthesize_reads_uniquely hnames htext
  obtain rfl := Except.ok.inj (hns.symm.trans htree)
  exact ⟨hnames, htext, htree, hunique, hbalanced, hsize⟩

end GraphCalls
