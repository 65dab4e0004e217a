/-
What comes of a call on an executor.

A reply that settles after the deadline, or never, is a timeout; else a
failure of the transport is passed on, a status from 400 on is a bad response
with its body as it came, and only what is left is read. Up to there nothing
depends on the entry point by which the executor is called
(`ExecutorCall.settled`).
-/
import GraphCalls.Proofs.Call.RequestBody

namespace GraphCalls

namespace Reply

/-- A reply that is not there at the deadline. -/
def Late (deadline : Nat) : Reply → Prop
  | .settles after _ => deadline < after
  | .hangs => True

instance (deadline : Nat) : (reply : Reply) → Decidable (reply.Late deadline)
  | .settles after _ => inferInstanceAs (Decidable (deadline < after))
  | .hangs => isTrue trivial

/-- The time for which a reply is waited. -/
def waited (deadline : Nat) : Reply → Nat
  | .settles after _ => min after deadline
  | .hangs => deadline

/-- The body that a reply delivers by the deadline, or why there is none. -/
def delivered (deadline : Nat) (reply : Reply) : Except CallError String := do
  Executor.bodyOf (← (reply.await deadline).result)

variable {deadline : Nat} {reply : Reply}

theorem late_settles_iff {after : Nat} {outcome : Outcome} :
    (Reply.settles after outcome).Late deadline ↔ deadline < after := Iff.rfl

theorem await_of_late (h : reply.Late deadline) :
    reply.await deadline = ⟨.error (.timeout deadline), deadline, true⟩ := by
  cases reply with
  | settles after outcome => simp only [await, if_neg (Nat.not_le.2 (late_settles_iff.1 h))]
  | hangs => rfl

theorem await_elapsed (deadline : Nat) (reply : Reply) : (reply.await deadline).elapsed = reply.waited deadline := by
  cases reply with
  | settles after outcome =>
    by_cases h : after ≤ deadline
    · simp [await, waited, h]
    · simp [await, waited, h]; omega
  | hangs => rfl

theorem await_dropped_iff : (reply.await deadline).dropped = true ↔ reply.Late deadline := by
  cases reply with
  | settles after outcome =>
    by_cases h : after ≤ deadline
    · simp [await, late_settles_iff, h]
    · simp [await, late_settles_iff, h, Nat.not_le.1 h]
  | hangs => simp [await, Late]

/-! ## Deliveries -/

/-- A reply that settles in a given way by the deadline. -/
def SettlesBy (deadline : Nat) (reply : Reply) (outcome : Outcome) : Prop :=
  ∃ after ≤ deadline, reply = .settles after outcome

theorem late_or_settles (deadline : Nat) (reply : Reply) :
    reply.Late deadline ∨ ∃ outcome, reply.SettlesBy deadline outcome := by
  cases reply with
  | settles after outcome =>
    by_cases h : after ≤ deadline
    · exact .inr ⟨outcome, after, h, rfl⟩
    · exact .inl (Nat.not_le.1 h)
  | hangs => exact .inl trivial

theorem SettlesBy.not_late {outcome : Outcome} (h : reply.SettlesBy deadline outcome) : ¬ reply.Late deadline := by
  obtain ⟨after, hle, rfl⟩ := h
  exact Nat.not_lt.2 hle

/-- A reply settles in one way only. -/
theorem SettlesBy.iff_eq {outcome other : Outcome} (h : reply.SettlesBy deadline outcome) :
    reply.SettlesBy deadline other ↔ other = outcome := by
  constructor
  · intro hother
    obtain ⟨after, -, rfl⟩ := h
    obtain ⟨_, -, heq⟩ := hother
    exact (Reply.settles.inj heq).2.symm
  · intro heq
    exact heq ▸ h

theorem delivered_of_late (h : reply.Late deadline) : reply.delivered deadline = .error (.timeout deadline) := by
  rw [delivered, await_of_late h]
  rfl

theorem delivered_of_failed {e : CallError} (h : reply.SettlesBy deadline (.failed e)) :
    reply.delivered deadline = .error e := by
  obtain ⟨after, hle, rfl⟩ := h
  simp [delivered, await, hle, bind, Except.bind]

theorem delivered_of_answered {a : Answer} (h : reply.SettlesBy deadline (.answered a)) :
    reply.delivered deadline = if 400 ≤ a.status then .error (.badResponse a.status a.body) else .ok a.body := by
  obtain ⟨after, hle, rfl⟩ := h
  simp [delivered, await, hle, Executor.bodyOf, Answer.isError, bind, Except.bind]

/-- The ways in which nothing is delivered. -/
theorem delivered_eq_error_iff {e : CallError} : reply.delivered deadline = .error e ↔
    reply.Late deadline ∧ e = .timeout deadline ∨ reply.SettlesBy deadline (.failed e) ∨
      ∃ a, reply.SettlesBy deadline (.answered a) ∧ 400 ≤ a.status ∧ e = .badResponse a.status a.body := by
  rcases late_or_settles deadline reply with h | ⟨outcome, h⟩
  · have hsettles : ∀ outcome, ¬ reply.SettlesBy deadline outcome := fun _ hs => hs.not_late h
    simp [delivered_of_late h, h, hsettles, eq_comm]
  · cases outcome with
    | failed e' => simp [delivered_of_failed h, h.not_late, h.iff_eq, eq_comm]
    | answered a =>
      by_cases hstatus : 400 ≤ a.status
      · simp [delivered_of_answered h, h.not_late, h.iff_eq, hstatus, eq_comm]
      · simp [delivered_of_answered h, h.not_late, h.iff_eq, hstatus]

end Reply

/-- A call on an executor, by its entry point. -/
inductive ExecutorCall where
  | execute (kind : OperationKind) (b : Batch)
  | executeWithHeaders (kind : OperationKind) (b : Batch) (headers : Entries String)
  | executeAs (δ : Type) (r : Reader δ) (kind : OperationKind) (b : Batch) (headers : Entries String)
  | introspect (headers : Entries String)
  | fetchSchema (headers : Entries String)

namespace ExecutorCall

/-- What a call gives if it succeeds. -/
def Value : ExecutorCall → Type
  | execute _ _ | executeWithHeaders _ _ _ => Response Json
  | executeAs δ _ _ _ _ => Response δ
  | introspect _ => Json
  | fetchSchema _ => Registry

/-- The call with a given reply. -/
def run (deadline : Nat) (reply : Reply) : (c : ExecutorCall) → Exchange c.Value
  | execute kind b => Executor.execute deadline kind b [] reply
  | executeWithHeaders kind b headers => Executor.execute deadline kind b headers reply
  | executeAs _ r kind b headers => Executor.executeAs r deadline kind b headers reply
  | introspect headers => Executor.introspect deadline headers reply
  | fetchSchema headers => Executor.fetchSchema deadline headers reply

/-- What a call posts. -/
def body : ExecutorCall → RequestBody
  | execute kind b | executeWithHeaders kind b _ | executeAs _ _ kind b _ =>
    ⟨(Document.ofBatch kind b).query, some (Document.ofBatch kind b).variableValues⟩
  | introspect _ | fetchSchema _ => ⟨Introspection.query, none⟩

def headers : ExecutorCall → Entries String
  | execute _ _ => []
  | executeWithHeaders _ _ headers | executeAs _ _ _ _ headers | introspect headers | fetchSchema headers => headers

/-- The request that a call makes. -/
def request (c : ExecutorCall) : Request := ⟨c.body.toJson.compact, c.headers⟩

/-- How a call reads the body of an answer. -/
def decode : (c : ExecutorCall) → String → Except CallError c.Value
  | execute _ _, body | executeWithHeaders _ _ _, body => Executor.readBody (Response.ofText .json) body
  | executeAs _ r _ _ _, body => Executor.readBody (Response.ofText r) body
  | introspect _, body => Executor.readBody Json.ofText body
  | fetchSchema _, body => do Executor.schemaOf (← Executor.readBody Json.ofText body)

variable {deadline : Nat} {reply : Reply}

/-- All entry points make one request and wait for its reply in the same way. -/
theorem run_eq_post (deadline : Nat) (reply : Reply) : ∀ c : ExecutorCall,
    c.run deadline reply = Executor.post deadline (Executor.requestOf c.body c.headers) c.decode reply
  | execute _ _ | executeWithHeaders _ _ _ | executeAs _ _ _ _ _ | introspect _ => rfl
  | fetchSchema headers => by
    simp only [run, Executor.fetchSchema, Executor.introspect, Executor.introspectionRequest, body, decode,
      ExecutorCall.headers, Executor.requestOf_eq, Executor.post_ok]
    cases (reply.await deadline).result with
    | error e => rfl
    | ok a =>
      simp only [bind, Except.bind]
      cases Executor.bodyOf a <;> rfl

theorem run_eq (deadline : Nat) (reply : Reply) (c : ExecutorCall) :
    c.run deadline reply =
      { result := (reply.delivered deadline).bind c.decode
        request := some c.request
        elapsed := (reply.await deadline).elapsed
        dropped := (reply.await deadline).dropped } := by
  rw [run_eq_post, Executor.requestOf_eq, Executor.post_ok, Reply.delivered, request]
  cases (reply.await deadline).result <;> rfl

theorem run_result (c : ExecutorCall) :
    (c.run deadline reply).result = (reply.delivered deadline).bind c.decode := by
  rw [run_eq]

/-- Reading a body fails as a response or as a schema, never as a transport does. -/
theorem decode_error : ∀ {c : ExecutorCall} {body : String} {e : CallError}, c.decode body = .error e →
    (∃ err, e = .invalidResponse err) ∨ ∃ err, e = .schema err := by
  have hread : ∀ {α : Type} {f : String → Except ReadError α} {body : String} {e : CallError},
      Executor.readBody f body = .error e → ∃ err, e = .invalidResponse err := by
    intro α f body e h
    rw [Executor.readBody] at h
    split at h
    · cases h
    · exact ⟨_, (Except.error.inj h).symm⟩
  intro c body e h
  cases c with
  | execute | executeWithHeaders | executeAs | introspect => exact .inl (hread h)
  | fetchSchema headers =>
    simp only [decode, bind, Except.bind] at h
    split at h
    next err herr => exact .inl (hread (Except.error.inj h ▸ herr))
    next v _ =>
      rw [Executor.schemaOf] at h
      split at h
      · cases h
      · exact .inr ⟨_, (Except.error.inj h).symm⟩

/-- A failure that is not one of reading was there before the body was read. -/
theorem result_eq_error_iff (c : ExecutorCall) {e : CallError} (hr : ∀ err, e ≠ .invalidResponse err)
    (hs : ∀ err, e ≠ .schema err) :
    (c.run deadline reply).result = .error e ↔
      reply.Late deadline ∧ e = .timeout deadline ∨ reply.SettlesBy deadline (.failed e) ∨
        ∃ a, reply.SettlesBy deadline (.answered a) ∧ 400 ≤ a.status ∧ e = .badResponse a.status a.body := by
  rw [← Reply.delivered_eq_error_iff, run_result]
  cases hd : reply.delivered deadline with
  | error e' => simp [Except.bind]
  | ok body =>
    simp only [Except.bind, reduceCtorEq, iff_false]
    intro h
    rcases decode_error h with ⟨err, he⟩ | ⟨err, he⟩
    · exact hr err he
    · exact hs err he

/-- What comes of a call with a given reply: the deadline comes before the
transport's failure, that before the status, and the status before the body. A
transport may fail as a call does that runs out of time; what tells them apart
is that only the latter drops its request. -/
structure Settled (deadline : Nat) (reply : Reply) (c : ExecutorCall) (x : Exchange c.Value) : Prop where
  request : x.request = some c.request
  elapsed : x.elapsed = reply.waited deadline
  dropped_iff : x.dropped = true ↔ reply.Late deadline
  late_iff : x.result = .error (.timeout deadline) ∧ x.dropped = true ↔ reply.Late deadline
  timeout_iff : ∀ ms, x.result = .error (.timeout ms) ↔
    reply.Late deadline ∧ ms = deadline ∨ reply.SettlesBy deadline (.failed (.timeout ms))
  failed : ∀ e, reply.SettlesBy deadline (.failed e) → x.result = .error e
  transport_iff : ∀ reason, x.result = .error (.transport reason) ↔
    reply.SettlesBy deadline (.failed (.transport reason))
  badResponse : ∀ a, reply.SettlesBy deadline (.answered a) → 400 ≤ a.status →
    x.result = .error (.badResponse a.status a.body)
  badResponse_iff : ∀ status body, x.result = .error (.badResponse status body) ↔
    400 ≤ status ∧ reply.SettlesBy deadline (.answered ⟨status, body⟩) ∨
      reply.SettlesBy deadline (.failed (.badResponse status body))
  invalidRequest_iff : ∀ e, x.result = .error (.invalidRequest e) ↔
    reply.SettlesBy deadline (.failed (.invalidRequest e))
  decoded : ∀ a, reply.SettlesBy deadline (.answered a) → a.status < 400 → x.result = c.decode a.body
  staged : x.result = (reply.delivered deadline).bind c.decode

theorem settled (deadline : Nat) (reply : Reply) (c : ExecutorCall) :
    c.Settled deadline reply (c.run deadline reply) where
  request := by rw [run_eq]
  elapsed := by rw [run_eq, Reply.await_elapsed]
  dropped_iff := by rw [run_eq, Reply.await_dropped_iff]
  late_iff := by
    rw [run_eq, Reply.await_dropped_iff]
    refine and_iff_right_of_imp fun h => ?_
    rw [Reply.delivered_of_late h]
    rfl
  timeout_iff ms := by
    rw [result_eq_error_iff c (by simp) (by simp)]
    simp
  failed e h := by
    rw [run_result, Reply.delivered_of_failed h]
    rfl
  transport_iff reason := by
    rw [result_eq_error_iff c (by simp) (by simp)]
    simp
  badResponse a h ha := by
    rw [run_result, Reply.delivered_of_answered h, if_pos ha]
    rfl
  badResponse_iff status body := by
    have hanswer : (∃ a : Answer, reply.SettlesBy deadline (.answered a) ∧ 400 ≤ a.status ∧
        CallError.badResponse status body = .badResponse a.status a.body) ↔
          400 ≤ status ∧ reply.SettlesBy deadline (.answered ⟨status, body⟩) := by
      constructor
      · intro h
        obtain ⟨a, ha, hstatus, ⟨⟩⟩ := h
        exact ⟨hstatus, ha⟩
      · exact fun h => ⟨_, h.2, h.1, rfl⟩
    rw [result_eq_error_iff c (by simp) (by simp), hanswer]
    simp [or_comm]
  invalidRequest_iff e := by
    rw [result_eq_error_iff c (by simp) (by simp)]
    simp
  decoded a h ha := by
    rw [run_result, Reply.delivered_of_answered h, if_neg (Nat.not_le.2 ha)]
    rfl
  staged := run_result c

end ExecutorCall
end GraphCalls
