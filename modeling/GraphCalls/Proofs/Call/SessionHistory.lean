/-
What becomes of the calls that are queued in a session.

A history lists the uses of a session in order. A call that is queued waits
until the next flush, which sends it in its one request and leaves nothing
waiting, whatever comes back. So at any time the calls that were accepted are
those of the requests, in order, followed by those that wait
(`history_accounts`).
-/
import GraphCalls.Call.Session
import GraphCalls.Proofs.Call.Aliases
import GraphCalls.Proofs.Call.RequestBody

namespace GraphCalls
namespace Session

/-- A use of a session; a flush comes with the reply that it will get. -/
inductive Action where
  | add (aliasName : String) (call : Call)
  | extend (b : Batch)
  | flush (reply : Reply)

/-- What a use came to. -/
inductive Event where
  | queued (result : Except CallError Unit)
  | sent (exchange : Exchange (Response Json))

/-- One use of a session. A call that is refused leaves the session as it was. -/
def act (deadline : Nat) (s : Session) : Action → Session × Event
  | .add aliasName call =>
    match s.addItem aliasName call with
    | .ok t => (t, .queued (.ok ()))
    | .error e => (s, .queued (.error e))
  | .extend b => ((s.extend b).1, .queued (s.extend b).2)
  | .flush reply => ((s.flush deadline reply).1, .sent (s.flush deadline reply).2)

/-- A use as it went. -/
structure Step where
  before : Session
  action : Action
  after : Session
  event : Event

def step (deadline : Nat) (s : Session) (a : Action) : Step := ⟨s, a, (s.act deadline a).1, (s.act deadline a).2⟩

/-- Uses of a session, one after the other. -/
def history (deadline : Nat) : Session → List Action → List Step
  | _, [] => []
  | s, a :: rest => s.step deadline a :: history deadline (s.act deadline a).1 rest

/-- The session afterwards. -/
def finish (deadline : Nat) (s : Session) (actions : List Action) : Session :=
  actions.foldl (fun s a => (s.act deadline a).1) s

namespace Step

/-- The calls that were accepted: those by which the queue has grown. -/
def accepted (st : Step) : List (String × Call) :=
  match st.action with
  | .flush _ => []
  | _ => st.after.queue.items.drop st.before.queue.items.length

/-- The request that was sent, if one was. -/
def request? (st : Step) : Option Request :=
  match st.event with
  | .queued _ => none
  | .sent x => x.request

/-- The rule that a use keeps. An added call is refused exactly if its alias
waits, and changes nothing then; of a batch, the calls before the first clash
are queued; a flush executes what waits, and every alias is free afterwards. -/
def Sound (deadline : Nat) (st : Step) : Prop :=
  match st.action with
  | .add aliasName call =>
    if aliasName ∈ st.before.queue.aliases then
      st.after = st.before ∧ st.event = .queued (.error (.duplicateAlias aliasName))
    else
      st.after.queue.items = st.before.queue.items ++ [(aliasName, call)] ∧ st.event = .queued (.ok ())
  | .extend b =>
    st.before.queue.Admits b.items st.accepted ∧
      ((b.items.map Prod.fst).Nodup → st.accepted = b.items.takeWhile (·.1 ∉ st.before.queue.aliases)) ∧
      st.after.queue.items = st.before.queue.items ++ st.accepted ∧
      st.event = .queued (Batch.extendResult b.items st.accepted)
  | .flush reply =>
    st.after.queue = .empty ∧
      st.event = .sent (Executor.execute deadline st.before.kind st.before.queue [] reply) ∧
      ∀ aliasName call, (st.after.act deadline (.add aliasName call)).2 = .queued (.ok ())

end Step

/-- The calls accepted up to each flush, and those after the last one;
`waiting` were accepted before. -/
def lots (waiting : List (String × Call)) : List Step → List (List (String × Call)) × List (String × Call)
  | [] => ([], waiting)
  | st :: rest =>
    match st.action with
    | .flush _ => (waiting :: (lots [] rest).1, (lots [] rest).2)
    | _ => lots (waiting ++ st.accepted) rest

variable {deadline : Nat} {s : Session}

/-! ## One use -/

theorem act_add_of_mem {aliasName : String} (h : aliasName ∈ s.queue.aliases) (call : Call) :
    s.act deadline (.add aliasName call) = (s, .queued (.error (.duplicateAlias aliasName))) := by
  simp [act, addItem, Batch.insert_of_mem h, Except.map]

theorem act_add_of_not_mem {aliasName : String} (h : aliasName ∉ s.queue.aliases) (call : Call) :
    s.act deadline (.add aliasName call) =
      ({ s with queue := ⟨s.queue.items ++ [(aliasName, call)]⟩ }, .queued (.ok ())) := by
  simp [act, addItem, Batch.insert_of_not_mem h, Except.map]

/-- Calls join the end of the queue. -/
theorem act_extend (deadline : Nat) (s : Session) (b : Batch) : ∃ accepted, s.queue.Admits b.items accepted ∧
    s.act deadline (.extend b) =
      ({ s with queue := ⟨s.queue.items ++ accepted⟩ }, .queued (Batch.extendResult b.items accepted)) := by
  obtain ⟨accepted, hadmits, heq⟩ := s.queue.extend_admits b.items
  exact ⟨accepted, hadmits, by simp [act, extend, heq]⟩

theorem act_flush (s : Session) (reply : Reply) :
    s.act deadline (.flush reply) =
      ({ s with queue := .empty }, .sent (Executor.execute deadline s.kind s.queue [] reply)) := rfl

/-- A flush sends the document of what waits. -/
theorem request?_flush (s : Session) (reply : Reply) : (s.step deadline (.flush reply)).request? =
    some ⟨(Document.ofBatch s.kind s.queue).toJson.compact, []⟩ := by
  rw [step, act_flush, Step.request?, Executor.execute, Executor.executeAs, Executor.batchRequest_eq, Executor.post_ok]

/-- Every use keeps the rule. -/
theorem step_sound (s : Session) (a : Action) : (s.step deadline a).Sound deadline := by
  cases a with
  | add aliasName call =>
    by_cases h : aliasName ∈ s.queue.aliases
    · simp [Step.Sound, step, h, act_add_of_mem]
    · simp [Step.Sound, step, h, act_add_of_not_mem]
  | extend b =>
    obtain ⟨accepted, hadmits, heq⟩ := act_extend deadline s b
    have hacc : (s.step deadline (.extend b)).accepted = accepted := by simp [Step.accepted, step, heq]
    simp only [Step.Sound, step]
    rw [← step, hacc]
    exact ⟨hadmits, hadmits.eq_takeWhile, by simp [heq], by simp [heq]⟩
  | flush reply =>
    refine ⟨rfl, rfl, fun aliasName call => ?_⟩
    have hfree : aliasName ∉ (s.act deadline (.flush reply)).1.queue.aliases := by
      simp [act_flush, Batch.empty, Batch.aliases]
    rw [step, act_add_of_not_mem hfree]

/-- A use that is no flush adds what is accepted to the queue and sends nothing. -/
theorem act_queues (deadline : Nat) (s : Session) {a : Action} (ha : ∀ reply, a ≠ .flush reply) :
    (s.act deadline a).1.queue.items = s.queue.items ++ (s.step deadline a).accepted ∧
      (s.act deadline a).1.kind = s.kind ∧ (s.step deadline a).request? = none := by
  cases a with
  | add aliasName call =>
    by_cases h : aliasName ∈ s.queue.aliases
    · simp [Step.accepted, Step.request?, step, act_add_of_mem h]
    · simp [Step.accepted, Step.request?, step, act_add_of_not_mem h]
  | extend b =>
    obtain ⟨accepted, -, heq⟩ := act_extend deadline s b
    simp [Step.accepted, Step.request?, step, heq]
  | flush reply => exact absurd rfl (ha reply)

theorem lots_cons_of_ne {a : Action} (ha : ∀ reply, a ≠ .flush reply) (waiting : List (String × Call))
    (rest : List Step) : lots waiting (s.step deadline a :: rest) =
      lots (waiting ++ (s.step deadline a).accepted) rest := by
  cases a with
  | add | extend => rfl
  | flush reply => exact absurd rfl (ha reply)

/-! ## Histories -/

theorem history_sound (actions : List Action) : ∀ s : Session,
    ∀ st ∈ history deadline s actions, st.Sound deadline := by
  induction actions with
  | nil => intro s st h; simp [history] at h
  | cons a rest ih =>
    intro s st h
    rcases List.mem_cons.1 h with rfl | h
    · exact step_sound s a
    · exact ih _ st h

/-- What a session has sent and what waits in it, from any queue on. -/
theorem history_lots (deadline : Nat) (actions : List Action) : ∀ s : Session,
    (history deadline s actions).filterMap Step.request? =
        (lots s.queue.items (history deadline s actions)).1.map
          (fun lot => ⟨(Document.ofBatch s.kind ⟨lot⟩).toJson.compact, []⟩) ∧
      (finish deadline s actions).queue.items = (lots s.queue.items (history deadline s actions)).2 ∧
      s.queue.items ++ (history deadline s actions).flatMap Step.accepted =
        (lots s.queue.items (history deadline s actions)).1.flatten ++ (finish deadline s actions).queue.items := by
  induction actions with
  | nil => intro s; simp [history, lots, finish]
  | cons a rest ih =>
    intro s
    obtain ⟨hreq, hfin, hall⟩ := ih (s.act deadline a).1
    by_cases ha : ∃ reply, a = .flush reply
    · obtain ⟨reply, rfl⟩ := ha
      rw [show (s.act deadline (.flush reply)).1.queue.items = [] from rfl] at hreq hfin hall
      refine ⟨(List.filterMap_cons_some (request?_flush s reply)).trans (congrArg _ hreq), hfin, ?_⟩
      show s.queue.items ++ ([] ++ _) = (s.queue.items ++ _) ++ _
      rw [List.append_assoc]
      exact congrArg (s.queue.items ++ ·) hall
    · have ha : ∀ reply, a ≠ .flush reply := fun reply h => ha ⟨reply, h⟩
      obtain ⟨hqueue, hkind, hno⟩ := act_queues deadline s ha
      rw [hqueue, hkind] at hreq
      rw [hqueue] at hfin hall
      rw [history, lots_cons_of_ne ha]
      refine ⟨?_, hfin, ?_⟩
      · rw [List.filterMap_cons_none hno, hreq]
      · rw [List.flatMap_cons, ← List.append_assoc, hall]
        rfl

/-- **The account of a session.** Every use keeps its rule. The flushes send
one request each, with the document of the calls that were accepted since the
flush before; what was accepted after the last one waits; and the calls sent
and those that wait are all that were accepted, once each and in order. -/
theorem history_accounts (kind : OperationKind) (deadline : Nat) (actions : List Action) :
    (∀ st ∈ history deadline (start kind) actions, st.Sound deadline) ∧
      (history deadline (start kind) actions).filterMap Step.request? =
        (lots [] (history deadline (start kind) actions)).1.map
          (fun lot => ⟨(Document.ofBatch kind ⟨lot⟩).toJson.compact, []⟩) ∧
      (finish deadline (start kind) actions).queue.items = (lots [] (history deadline (start kind) actions)).2 ∧
      (history deadline (start kind) actions).flatMap Step.accepted =
        (lots [] (history deadline (start kind) actions)).1.flatten ++
          (finish deadline (start kind) actions).queue.items := by
  obtain ⟨hreq, hfin, hall⟩ := history_lots deadline actions (start kind)
  exact ⟨history_sound actions (start kind), hreq, hfin, by simpa [start, Batch.empty] using hall⟩

end Session
end GraphCalls
