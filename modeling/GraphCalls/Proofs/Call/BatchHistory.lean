/-
What becomes of the calls that are put into batches.

Batches are used side by side: a call is added to one in place or in exchange
for the batch, and all calls of one can be moved to a new batch. Only a batch
that is handed over and refuses the call is gone, and its place stays empty.
Everything that a use can do is one of four outcomes (`step_outcome`); from
them it follows what each batch lists, and that the calls that were accepted
are those in the batches and those of the batches that are gone
(`history_keeps_calls`).
-/
import GraphCalls.Proofs.Call.Aliases
import GraphCalls.Proofs.Entries

namespace GraphCalls

/-- Batches by number; the place of one that is gone is empty. -/
structure Batches where
  slots : List (Option Batch)

namespace Batches

/-- Some number of batches without calls. -/
def start (n : Nat) : Batches := ⟨List.replicate n (some .empty)⟩

def size (s : Batches) : Nat := s.slots.length

/-- The batch with a number, unless it is gone. -/
def get? (s : Batches) (i : Nat) : Option Batch := s.slots[i]?.join

def put (s : Batches) (i : Nat) (b : Option Batch) : Batches := ⟨s.slots.set i b⟩

/-- One more batch, with the next number. -/
def push (s : Batches) (b : Batch) : Batches := ⟨s.slots ++ [some b]⟩

/-- How a call is added. -/
inductive Mode where
  | inPlace
  /-- The batch is handed over, to be given back with the call. -/
  | handedOver

/-- What is left of a batch that refuses a call. -/
def Mode.kept : Mode → Batch → Option Batch
  | .inPlace, b => some b
  | .handedOver, _ => none

/-- A use of one of the batches. -/
inductive Action where
  | add (mode : Mode) (i : Nat) (aliasName : String) (call : Call)
  | take (i : Nat)

def Action.target : Action → Nat
  | .add _ i _ _ => i
  | .take i => i

/-- What a use came to. -/
inductive Event where
  | added (result : Except CallError Unit)
  | moved (number : Nat)
  /-- There is no such batch. -/
  | absent

/-- One use. What is taken from a batch becomes a new one. -/
def act (s : Batches) (a : Action) : Batches × Event :=
  match s.get? a.target with
  | none => (s, .absent)
  | some b =>
    match a with
    | .add mode i aliasName call =>
      match b.insert aliasName call with
      | .ok b' => (s.put i (some b'), .added (.ok ()))
      | .error e => (s.put i (mode.kept b), .added (.error e))
    | .take i => ((s.put i (some b.take.2)).push b.take.1, .moved s.size)

/-- A use as it went. -/
structure Step where
  before : Batches
  action : Action
  after : Batches
  event : Event

def step (s : Batches) (a : Action) : Step := ⟨s, a, (s.act a).1, (s.act a).2⟩

/-- Uses, one after the other. -/
def history : Batches → List Action → List Step
  | _, [] => []
  | s, a :: rest => s.step a :: history (s.act a).1 rest

/-- The batches afterwards. -/
def finish (s : Batches) (actions : List Action) : Batches := actions.foldl (fun s a => (s.act a).1) s

/-- The calls in a place. -/
def itemsIn (slot : Option Batch) : List (String × Call) := slot.elim [] Batch.items

/-- The calls in all batches. -/
def held (s : Batches) : List (String × Call) := s.slots.flatMap itemsIn

namespace Step

/-- The call that was accepted, with the number of its batch. -/
def accepted? (st : Step) : Option (Nat × String × Call) :=
  match st.action, st.event with
  | .add _ i aliasName call, .added (.ok ()) => some (i, aliasName, call)
  | _, _ => none

/-- The calls that are gone with a batch. -/
def lost (st : Step) : List (String × Call) :=
  match st.action, st.event with
  | .add .handedOver i _ _, .added (.error _) => itemsIn (st.before.get? i)
  | _, _ => []

/-- What a batch lists right after a move that it has a part in: nothing if it
was taken from, and what there was if it is the new one. -/
def restart? (st : Step) (i : Nat) : Option (List (String × Call)) :=
  match st.action, st.event with
  | .take k, .moved j => if i = k then some [] else if i = j then some (itemsIn (st.before.get? k)) else none
  | _, _ => none

/-- The rule that a use keeps. A call is refused exactly if its alias is
taken; this changes nothing if it was to be added in place, and else costs the
batch. An accepted call joins the end. A move leaves the batch empty and lists
its calls, as they were, in a new one. No other batch is touched. -/
def Sound (st : Step) : Prop :=
  match st.before.get? st.action.target with
  | none => st.after = st.before ∧ st.event = .absent
  | some b =>
    match st.action with
    | .add mode i aliasName call =>
      (∀ j ≠ i, st.after.get? j = st.before.get? j) ∧
        if aliasName ∈ b.aliases then
          st.event = .added (.error (.duplicateAlias aliasName)) ∧
            match mode with
            | .inPlace => st.after = st.before
            | .handedOver => st.after.get? i = none
        else st.event = .added (.ok ()) ∧ st.after.get? i = some ⟨b.items ++ [(aliasName, call)]⟩
    | .take i =>
      ∃ j, st.event = .moved j ∧ st.before.get? j = none ∧ st.after.get? j = some b ∧
        st.after.get? i = some .empty ∧ ∀ k, k ≠ i → k ≠ j → st.after.get? k = st.before.get? k

/-- All that a use can do. -/
inductive Outcome : Step → Prop
  | absent {s : Batches} {a : Action} (h : s.get? a.target = none) : Outcome ⟨s, a, s, .absent⟩
  | refused {s : Batches} {i : Nat} {b : Batch} {aliasName : String} (mode : Mode) (call : Call)
      (hb : s.get? i = some b) (ha : aliasName ∈ b.aliases) :
      Outcome ⟨s, .add mode i aliasName call, s.put i (mode.kept b), .added (.error (.duplicateAlias aliasName))⟩
  | accepted {s : Batches} {i : Nat} {b : Batch} {aliasName : String} (mode : Mode) (call : Call)
      (hb : s.get? i = some b) (ha : aliasName ∉ b.aliases) :
      Outcome ⟨s, .add mode i aliasName call, s.put i (some ⟨b.items ++ [(aliasName, call)]⟩), .added (.ok ())⟩
  | moved {s : Batches} {i : Nat} {b : Batch} (hb : s.get? i = some b) :
      Outcome ⟨s, .take i, (s.put i (some .empty)).push b, .moved s.size⟩

end Step

/-- The calls that a batch accepted, in order. -/
def acceptedBy (i : Nat) (h : List Step) : List (String × Call) :=
  ((h.filterMap Step.accepted?).filter (·.1 = i)).map Prod.snd

/-- What a batch lists after a history: the calls that it accepted since the
last move that it had a part in, after what this left it with; all that it
accepted if there was no such move. -/
inductive Lists (h : List Step) (i : Nat) : List (String × Call) → Prop
  | sinceStart (hnone : ∀ st ∈ h, st.restart? i = none) : Lists h i (acceptedBy i h)
  | sinceMove {before after : List Step} {st : Step} {left : List (String × Call)} (heq : h = before ++ st :: after)
      (hst : st.restart? i = some left) (hnone : ∀ st ∈ after, st.restart? i = none) :
      Lists h i (left ++ acceptedBy i after)

variable {s : Batches} {i j : Nat} {b : Batch} {st : Step} {a : Action}

/-! ## Places -/

theorem lt_size_of_get? (h : s.get? i = some b) : i < s.size := by
  rw [get?, Option.join_eq_some_iff] at h
  exact (List.getElem?_eq_some_iff.1 h).1

theorem get?_size (s : Batches) : s.get? s.size = none := by simp [get?, size]

theorem get?_start {n : Nat} (h : (start n).get? i = some b) : b = .empty := by
  have hslot : (List.replicate n (some Batch.empty))[i]? = some (some b) := Option.join_eq_some_iff.1 h
  exact Option.some.inj (List.eq_of_mem_replicate (List.mem_of_getElem? hslot))

theorem size_put (s : Batches) (i : Nat) (slot : Option Batch) : (s.put i slot).size = s.size := List.length_set

theorem get?_put (h : s.get? i = some b) (slot : Option Batch) (j : Nat) :
    (s.put i slot).get? j = if j = i then slot else s.get? j := by
  by_cases hj : j = i
  · rw [hj, if_pos rfl, get?, put, List.getElem?_set_self (lt_size_of_get? h)]
    rfl
  · rw [if_neg hj, get?, put, List.getElem?_set_ne (Ne.symm hj), get?]

/-- A batch that is put back changes nothing. -/
theorem put_get? (h : s.get? i = some b) : s.put i (some b) = s := by
  obtain ⟨hlt, hget⟩ := List.getElem?_eq_some_iff.1 (Option.join_eq_some_iff.1 h)
  rw [put, ← hget, List.set_getElem_self]

theorem get?_push (s : Batches) (b : Batch) (j : Nat) :
    (s.push b).get? j = if j = s.size then some b else s.get? j := by
  rcases Nat.lt_trichotomy j s.size with hlt | rfl | hgt
  · rw [if_neg (Nat.ne_of_lt hlt), get?, push, List.getElem?_append_left hlt, get?]
  · simp [get?, push, size]
  · have hlength : (s.slots ++ [some b]).length ≤ j := by
      rw [List.length_append]
      exact hgt
    rw [if_neg (Nat.ne_of_gt hgt), get?, push, List.getElem?_eq_none hlength, get?,
      List.getElem?_eq_none (Nat.le_of_lt hgt)]

/-- Places after a move. -/
theorem get?_push_put (h : s.get? i = some b) (j : Nat) :
    ((s.put i (some .empty)).push b).get? j = if j = s.size then some b else if j = i then some .empty else s.get? j := by
  rw [get?_push, size_put, get?_put h]

/-! ## One use -/

theorem step_outcome (s : Batches) (a : Action) : (s.step a).Outcome := by
  cases hb : s.get? a.target with
  | none =>
    have hact : s.act a = (s, .absent) := by rw [act, hb]
    rw [step, hact]
    exact .absent hb
  | some b =>
    cases a with
    | add mode i aliasName call =>
      by_cases ha : aliasName ∈ b.aliases
      · have hact : s.act (.add mode i aliasName call) =
            (s.put i (mode.kept b), .added (.error (.duplicateAlias aliasName))) := by
          rw [act, hb]
          simp only [Batch.insert_of_mem ha]
        rw [step, hact]
        exact .refused mode call hb ha
      · have hact : s.act (.add mode i aliasName call) =
            (s.put i (some ⟨b.items ++ [(aliasName, call)]⟩), .added (.ok ())) := by
          rw [act, hb]
          simp only [Batch.insert_of_not_mem ha]
        rw [step, hact]
        exact .accepted mode call hb ha
    | take i =>
      have hact : s.act (.take i) = ((s.put i (some .empty)).push b, .moved s.size) := by
        rw [act, hb]
        rfl
      rw [step, hact]
      exact .moved hb

namespace Step.Outcome

theorem sound (h : st.Outcome) : st.Sound := by
  cases h with
  | absent h => simp only [Sound, h, and_self]
  | refused mode call hb ha =>
    simp only [Sound, Action.target, hb, ha, if_true, true_and]
    refine ⟨fun j hj => by rw [get?_put hb, if_neg hj], ?_⟩
    cases mode with
    | inPlace => exact put_get? hb
    | handedOver => rw [Mode.kept, get?_put hb, if_pos rfl]
  | accepted mode call hb ha =>
    simp only [Sound, Action.target, hb, ha, if_false, true_and]
    exact ⟨fun j hj => by rw [get?_put hb, if_neg hj], by rw [get?_put hb, if_pos rfl]⟩
  | @moved s i b hb =>
    have hne : i ≠ s.size := Nat.ne_of_lt (lt_size_of_get? hb)
    simp only [Sound, Action.target, hb]
    refine ⟨s.size, rfl, get?_size s, ?_, ?_, fun k hki hks => ?_⟩
    · rw [get?_push_put hb, if_pos rfl]
    · rw [get?_push_put hb, if_neg hne, if_pos rfl]
    · rw [get?_push_put hb, if_neg hks, if_neg hki]

/-- Aliases stay distinct. -/
theorem nodup_aliases (h : st.Outcome) (hs : ∀ i b, st.before.get? i = some b → b.aliases.Nodup) :
    ∀ i b, st.after.get? i = some b → b.aliases.Nodup := by
  intro j c hc
  cases h with
  | absent h => exact hs j c hc
  | @refused s i b aliasName mode call hb ha =>
    rw [get?_put hb] at hc
    split at hc
    · cases mode with
      | inPlace => exact Option.some.inj hc ▸ hs i b hb
      | handedOver => cases hc
    · exact hs j c hc
  | @accepted s i b aliasName mode call hb ha =>
    rw [get?_put hb] at hc
    split at hc
    · cases hc
      exact (Batch.nodup_aliases_concat_iff b (aliasName, call)).2 ⟨ha, hs i b hb⟩
    · exact hs j c hc
  | @moved s i b hb =>
    rw [get?_push_put hb] at hc
    split at hc
    · exact Option.some.inj hc ▸ hs i b hb
    split at hc
    · cases hc
      exact List.nodup_nil
    · exact hs j c hc

/-- A batch without a part in a move was there, and has at its end what it
accepted. -/
theorem exists_before (h : st.Outcome) (hnone : st.restart? i = none) (hb : st.after.get? i = some b) :
    ∃ c, st.before.get? i = some c ∧ b.items = c.items ++ acceptedBy i [st] := by
  cases h with
  | absent h => exact ⟨b, hb, by simp [acceptedBy, accepted?]⟩
  | @refused s k c aliasName mode call hc ha =>
    rw [get?_put hc] at hb
    split at hb
    next hi =>
      cases mode with
      | inPlace =>
        obtain rfl : c = b := Option.some.inj hb
        exact ⟨c, hi ▸ hc, by simp [acceptedBy, accepted?]⟩
      | handedOver => cases hb
    next => exact ⟨b, hb, by simp [acceptedBy, accepted?]⟩
  | @accepted s k c aliasName mode call hc ha =>
    rw [get?_put hc] at hb
    split at hb
    next hi =>
      cases hb
      subst hi
      exact ⟨c, hc, by simp [acceptedBy, accepted?]⟩
    next hi => exact ⟨b, hb, by simp [acceptedBy, accepted?, Ne.symm hi]⟩
  | @moved s k c hc =>
    -- Not the batch that was taken from, and not the new one.
    have hik : i ≠ k := fun hi => by simp [restart?, hi] at hnone
    have his : i ≠ s.size := fun hi => by
      have hne : s.size ≠ k := Nat.ne_of_gt (lt_size_of_get? hc)
      simp [restart?, hi, hne] at hnone
    rw [get?_push_put hc, if_neg his, if_neg hik] at hb
    exact ⟨b, hb, by simp [acceptedBy, accepted?]⟩

/-- A batch lists what the move left it with. -/
theorem items_of_restart {left : List (String × Call)} (h : st.Outcome) (hleft : st.restart? i = some left)
    (hb : st.after.get? i = some b) : b.items = left := by
  cases h with
  | @absent s a h => cases a <;> cases hleft
  | refused mode call hc ha => cases hleft
  | accepted mode call hc ha => cases hleft
  | @moved s k c hc =>
    have hne : k ≠ s.size := Nat.ne_of_lt (lt_size_of_get? hc)
    rw [get?_push_put hc] at hb
    simp only [restart?] at hleft
    split at hleft
    next hi =>
      subst hi
      cases hleft
      rw [if_neg hne, if_pos rfl] at hb
      cases hb
      rfl
    next =>
      split at hleft
      next hi =>
        cases hleft
        rw [if_pos hi] at hb
        cases hb
        rw [hc]
        rfl
      next => cases hleft

end Step.Outcome

/-! ## Histories -/

theorem history_outcome : ∀ (actions : List Action) (s : Batches), ∀ st ∈ history s actions, st.Outcome
  | [], _, _, hm => by cases hm
  | a :: rest, s, st, hm => by
    rcases List.mem_cons.1 hm with rfl | hm
    · exact step_outcome s a
    · exact history_outcome rest _ st hm

theorem finish_cons (s : Batches) (a : Action) (rest : List Action) :
    finish s (a :: rest) = finish (s.act a).1 rest := rfl

theorem nodup_aliases_finish : ∀ {actions : List Action} {s : Batches},
    (∀ i b, s.get? i = some b → b.aliases.Nodup) → ∀ i b, (finish s actions).get? i = some b → b.aliases.Nodup
  | [], _, hs => hs
  | a :: _, s, hs => nodup_aliases_finish (s := (s.act a).1) ((step_outcome s a).nodup_aliases hs)

theorem acceptedBy_cons (i : Nat) (st : Step) (h : List Step) :
    acceptedBy i (st :: h) = acceptedBy i [st] ++ acceptedBy i h := by
  simp only [acceptedBy, ← List.map_append, ← List.filter_append, ← List.filterMap_append, List.singleton_append]

/-- A batch after a history either was there before, if it had no part in a
move, or lists its calls since the last move. -/
theorem exists_before_or_move : ∀ {actions : List Action} {s : Batches}, (finish s actions).get? i = some b →
    (∃ c, s.get? i = some c ∧ (∀ st ∈ history s actions, st.restart? i = none) ∧
      b.items = c.items ++ acceptedBy i (history s actions)) ∨
    ∃ before st after left, history s actions = before ++ st :: after ∧ st.restart? i = some left ∧
      (∀ st ∈ after, st.restart? i = none) ∧ b.items = left ++ acceptedBy i after
  | [], s, hb => .inl ⟨b, hb, by simp [history], by simp [history, acceptedBy]⟩
  | a :: rest, s, hb => by
    rw [finish_cons] at hb
    -- A later move counts if there is one; else this use may be the last move.
    rcases exists_before_or_move hb with
      ⟨c, hc, hnone, hitems⟩ | ⟨before, st, after, left, heq, hst, hnone, hitems⟩
    · cases hst : (s.step a).restart? i with
      | none =>
        obtain ⟨d, hd, hcd⟩ := (step_outcome s a).exists_before hst hc
        refine .inl ⟨d, hd, List.forall_mem_cons.2 ⟨hst, hnone⟩, ?_⟩
        rw [hitems, hcd, history, acceptedBy_cons i _ (history _ _), List.append_assoc]
      | some left =>
        refine .inr ⟨[], s.step a, _, left, rfl, hst, hnone, ?_⟩
        rw [hitems, (step_outcome s a).items_of_restart hst hc]
    · exact .inr ⟨s.step a :: before, st, after, left, by rw [history, heq, List.cons_append], hst, hnone, hitems⟩

/-- What a batch lists after a history that began without calls. -/
theorem lists_finish {n : Nat} {actions : List Action} (hb : (finish (start n) actions).get? i = some b) :
    Lists (history (start n) actions) i b.items := by
  rcases exists_before_or_move hb with ⟨c, hc, hnone, hitems⟩ | ⟨before, st, after, left, heq, hst, hnone, hitems⟩
  · rw [hitems, get?_start hc]
    exact .sinceStart hnone
  · rw [hitems]
    exact .sinceMove heq hst hnone

/-! ## The calls in all batches -/

theorem held_start (n : Nat) : (start n).held = [] := by
  simp [start, held, itemsIn, Batch.empty]

theorem held_push (s : Batches) (b : Batch) : (s.push b).held = s.held ++ b.items := by
  simp [push, held, itemsIn]

/-- A place gives up what it has for what is put there. -/
theorem held_put (h : s.get? i = some b) (slot : Option Batch) :
    ((s.put i slot).held ++ b.items).Perm (s.held ++ itemsIn slot) := by
  obtain ⟨hlt, hget⟩ := List.getElem?_eq_some_iff.1 (Option.join_eq_some_iff.1 h)
  obtain ⟨before, after, hslots, -, hset⟩ : ∃ before after, s.slots = before ++ s.slots[i] :: after ∧
      before.length = i ∧ s.slots.set i slot = before ++ slot :: after := List.exists_of_set hlt
  rw [hget] at hslots
  rw [held, put, hset, held, hslots, List.perm_iff_count]
  intro item
  simp only [List.flatMap_append, List.flatMap_cons, List.count_append, itemsIn, Option.elim_some]
  omega

/-- No use loses a call but with a batch that is gone, and none comes twice. -/
theorem Step.Outcome.perm_held (h : st.Outcome) :
    (st.after.held ++ st.lost).Perm (st.before.held ++ (st.accepted?.map Prod.snd).toList) := by
  cases h with
  | @absent s a h => rcases a with ⟨_ | _, _, _, _⟩ | _ <;> exact .rfl
  | @refused s i b aliasName mode call hb ha =>
    cases mode with
    | inPlace =>
      rw [Mode.kept, put_get? hb]
      exact .rfl
    | handedOver =>
      have hput := held_put hb none
      simpa [lost, accepted?, hb, itemsIn, Mode.kept] using hput
  | @accepted s i b aliasName mode call hb ha =>
    have hput := held_put hb (some ⟨b.items ++ [(aliasName, call)]⟩)
    rw [List.perm_iff_count] at hput ⊢
    intro item
    have hcount := hput item
    simp only [itemsIn, Option.elim_some, List.count_append] at hcount
    simp only [lost, accepted?, Option.map_some, Option.toList_some, List.append_nil, List.count_append]
    omega
  | @moved s i b hb =>
    have hput := held_put hb (some .empty)
    simpa [lost, accepted?, held_push, itemsIn, Batch.empty] using hput

theorem map_accepted?_cons (st : Step) (h : List Step) : ((st :: h).filterMap Step.accepted?).map Prod.snd =
    (st.accepted?.map Prod.snd).toList ++ (h.filterMap Step.accepted?).map Prod.snd := by
  cases hst : st.accepted? <;> simp [hst]

theorem perm_held_finish : ∀ (actions : List Action) (s : Batches),
    ((finish s actions).held ++ (history s actions).flatMap Step.lost).Perm
      (s.held ++ ((history s actions).filterMap Step.accepted?).map Prod.snd)
  | [], s => by simp [finish, history]
  | a :: rest, s => by
    have hstep := (step_outcome s a).perm_held
    have hrest := perm_held_finish rest (s.act a).1
    rw [finish_cons, history, map_accepted?_cons, List.flatMap_cons]
    rw [List.perm_iff_count] at hstep hrest ⊢
    intro item
    have hcount := hstep item
    have hcounts := hrest item
    simp only [List.count_append, step] at hcount hcounts ⊢
    omega

/-- However batches that begin without calls are used, every use keeps the
rule, each batch lists what it accepted since the last move that it had a part
in, under distinct aliases, and the calls that were accepted are, each as
often, those in the batches and those that went with a batch. -/
theorem history_keeps_calls (n : Nat) (actions : List Action) :
    (∀ st ∈ history (start n) actions, st.Sound) ∧
    (∀ i b, (finish (start n) actions).get? i = some b →
      b.aliases.Nodup ∧ Lists (history (start n) actions) i b.items ∧ b.size = b.items.length ∧
        ∀ aliasName call, b.get? aliasName = some call ↔ (aliasName, call) ∈ b.items) ∧
    (((history (start n) actions).filterMap Step.accepted?).map Prod.snd).Perm
      ((finish (start n) actions).held ++ (history (start n) actions).flatMap Step.lost) := by
  have hstart : ∀ i b, (start n).get? i = some b → b.aliases.Nodup := by
    intro i b hb
    rw [get?_start hb]
    exact List.nodup_nil
  refine ⟨fun st hst => (history_outcome actions _ st hst).sound, fun i b hb => ?_, ?_⟩
  · have hnodup : b.aliases.Nodup := nodup_aliases_finish hstart i b hb
    exact ⟨hnodup, lists_finish hb, rfl, fun aliasName call => ⟨Entries.mem_of_get?, Entries.get?_of_mem hnodup⟩⟩
  · have hperm := perm_held_finish actions (start n)
    rw [held_start, List.nil_append] at hperm
    exact hperm.symm

-- A refused call is without effect, a move goes to the next number, and what
-- was moved is gone when the new batch is handed over with a taken alias.
example :
    let hero : Call := ⟨"hero", none, []⟩
    let ship : Call := ⟨"ship", none, []⟩
    let moves : List Action := [.add .inPlace 0 "a" hero, .add .inPlace 0 "a" ship, .add .handedOver 0 "b" ship, .take 0]
    (finish (start 1) moves).slots = [some .empty, some ⟨[("a", hero), ("b", ship)]⟩] ∧
      (finish (start 1) (moves ++ [.add .handedOver 1 "b" hero, .take 1])).slots = [some .empty, none] := by
  decide

end Batches
end GraphCalls
