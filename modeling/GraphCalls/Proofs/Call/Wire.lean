/-
Calls on an executor, one after the other, over a transport with a clock.

A request that is sent stays on its way until its reply is taken or the
request is dropped at the deadline, so what one call has left behind could
come in while another waits. It does not: no call leaves a request on its way,
and each is what the executor makes of the reply to its own request
(`calls_settle_apart`).
-/
import GraphCalls.Proofs.Call.Deadline
import Mathlib.Algebra.Ring.Nat

namespace GraphCalls

/-- A request on its way: its number, and when its reply comes in and what it
is, if there is to be one. -/
structure Flight where
  number : Nat
  arrival : Option (Nat × Outcome)

/-- A transport, with the course that each of its requests will take, a clock,
and what it was given so far. -/
structure Wire where
  course : Nat → Reply
  clock : Nat
  sent : List Request
  onWay : List Flight
  dropped : List Nat

/-- The arrival of a reply to a request that is sent now. -/
def Reply.arrival (now : Nat) : Reply → Option (Nat × Outcome)
  | .settles after outcome => some (now + after, outcome)
  | .hangs => none

namespace Wire

/-- A transport before its first request. -/
def fresh (course : Nat → Reply) : Wire := ⟨course, 0, [], [], []⟩

/-- Sends a request, which gets the next number. -/
def send (w : Wire) (r : Request) : Wire :=
  { w with
    sent := w.sent ++ [r]
    onWay := w.onWay ++ [⟨w.sent.length, (w.course w.sent.length).arrival w.clock⟩] }

/-- Takes the reply to a request as soon as it is there, or drops the request
when the clock stands at `limit`. -/
def receive (w : Wire) (number limit : Nat) : Option Outcome × Wire :=
  let others := w.onWay.filter (·.number ≠ number)
  match (w.onWay.find? (·.number = number)).bind Flight.arrival with
  | some (time, outcome) =>
    if time ≤ limit then (some outcome, { w with clock := time, onWay := others })
    else (none, { w with clock := limit, onWay := others, dropped := w.dropped ++ [number] })
  | none => (none, { w with clock := limit, onWay := others, dropped := w.dropped ++ [number] })

/-- What a call makes of what came in. -/
def conclude (deadline : Nat) (c : ExecutorCall) : Option Outcome → Except CallError c.Value
  | none => .error (.timeout deadline)
  | some (.failed e) => .error e
  | some (.answered a) => if 400 ≤ a.status then .error (.badResponse a.status a.body) else c.decode a.body

/-- One call: its request is written and sent, and waited for until the
deadline. -/
def call (w : Wire) (deadline : Nat) (c : ExecutorCall) : Except CallError c.Value × Wire :=
  match Executor.requestOf c.body c.headers with
  | .ok request =>
    let received := (w.send request).receive w.sent.length (w.clock + deadline)
    (conclude deadline c received.1, received.2)
  | .error e => (.error e, w)

/-- Calls one after the other, each with its result. -/
def calls (deadline : Nat) : Wire → List ExecutorCall → List ((c : ExecutorCall) × Except CallError c.Value) × Wire
  | w, [] => ([], w)
  | w, c :: cs =>
    let first := w.call deadline c
    let rest := calls deadline first.2 cs
    (⟨c, first.1⟩ :: rest.1, rest.2)

variable {w : Wire} {deadline : Nat}

/-! ## One call -/

/-- With nothing else on its way, a request is answered by its own reply. -/
theorem receive_send (hidle : w.onWay = []) (r : Request) (limit : Nat) :
    (w.send r).receive w.sent.length limit =
      match (w.course w.sent.length).arrival w.clock with
      | some (time, outcome) =>
        if time ≤ limit then (some outcome, { w with clock := time, sent := w.sent ++ [r] })
        else (none, { w with clock := limit, sent := w.sent ++ [r], dropped := w.dropped ++ [w.sent.length] })
      | none =>
        (none, { w with clock := limit, sent := w.sent ++ [r], dropped := w.dropped ++ [w.sent.length] }) := by
  simp only [send, receive, hidle, List.nil_append, List.find?_cons, decide_true, Option.bind_some,
    List.filter_cons, ne_eq, not_true_eq_false, decide_false, Bool.false_eq_true, if_false, List.filter_nil]

theorem delivered_eq_conclude {reply : Reply} {outcome : Outcome} (h : reply.SettlesBy deadline outcome)
    (c : ExecutorCall) : (reply.delivered deadline).bind c.decode = conclude deadline c (some outcome) := by
  cases outcome with
  | failed e =>
    rw [Reply.delivered_of_failed h]
    rfl
  | answered a =>
    rw [Reply.delivered_of_answered h, conclude]
    split <;> rfl

/-- A call on a transport on which nothing is on its way is what the executor
makes of the next reply; again nothing is on its way afterwards. -/
theorem call_eq (hidle : w.onWay = []) (deadline : Nat) (c : ExecutorCall) :
    w.call deadline c =
      ((c.run deadline (w.course w.sent.length)).result,
        { w with
          clock := w.clock + (w.course w.sent.length).waited deadline
          sent := w.sent ++ [c.request]
          dropped := w.dropped ++ if (w.course w.sent.length).Late deadline then [w.sent.length] else [] }) := by
  have hcall : w.call deadline c =
      (conclude deadline c ((w.send c.request).receive w.sent.length (w.clock + deadline)).1,
        ((w.send c.request).receive w.sent.length (w.clock + deadline)).2) := by
    rw [call, Executor.requestOf_eq]
    rfl
  rw [hcall, receive_send hidle, ExecutorCall.run_result]
  generalize w.course w.sent.length = reply
  rcases reply.late_or_settles deadline with h | ⟨outcome, h⟩
  · rw [Reply.delivered_of_late h, if_pos h]
    cases reply with
    | settles after outcome =>
      have hlate := Reply.late_settles_iff.1 h
      rw [Reply.arrival, Reply.waited, Nat.min_eq_right (Nat.le_of_lt hlate)]
      simp only [Nat.add_le_add_iff_left, if_neg (Nat.not_le.2 hlate)]
      rfl
    | hangs => rfl
  · rw [if_neg h.not_late, delivered_eq_conclude h]
    obtain ⟨after, hle, rfl⟩ := h
    simp only [Reply.arrival, Reply.waited, Nat.min_eq_left hle, Nat.add_le_add_iff_left, if_pos hle, List.append_nil]

/-! ## Many calls -/

/-- Calls on a transport on which nothing is on its way, from any request on. -/
theorem calls_eq (deadline : Nat) (cs : List ExecutorCall) : ∀ w : Wire, w.onWay = [] →
    w.calls deadline cs =
      ((cs.zipIdx w.sent.length).map fun p => ⟨p.1, (p.1.run deadline (w.course p.2)).result⟩,
        { w with
          clock := w.clock + ((List.range' w.sent.length cs.length).map fun k => (w.course k).waited deadline).sum
          sent := w.sent ++ cs.map ExecutorCall.request
          dropped := w.dropped ++
            (List.range' w.sent.length cs.length).filter fun k => (w.course k).Late deadline }) := by
  induction cs with
  | nil => intro w _; simp [calls]
  | cons c cs ih =>
    intro w hidle
    have hrest := ih (w.call deadline c).2 (by rw [call_eq hidle]; exact hidle)
    rw [calls]
    simp only [hrest]
    rw [call_eq hidle]
    simp only [List.length_append, List.zipIdx_cons, List.map_cons, List.length_cons,
      List.range'_succ, List.sum_cons, List.filter_cons, List.append_assoc, List.singleton_append, Nat.add_assoc]
    by_cases h : (w.course w.sent.length).Late deadline <;> simp [h]

/-- **Calls on one executor do not meet.** Over a transport that answers as it
may, each call sends its one request and gives what the executor makes of the
reply to that request, after the shorter of the reply's time and the deadline.
Requests whose replies are late are dropped, no others, and what their replies
would have been makes no difference to any call. -/
theorem calls_settle_apart (deadline : Nat) (course : Nat → Reply) (cs : List ExecutorCall) :
    ((fresh course).calls deadline cs).1 =
        cs.zipIdx.map (fun p => ⟨p.1, (p.1.run deadline (course p.2)).result⟩) ∧
      ((fresh course).calls deadline cs).2 =
        { course := course
          clock := ((List.range cs.length).map fun k => (course k).waited deadline).sum
          sent := cs.map ExecutorCall.request
          onWay := []
          dropped := (List.range cs.length).filter fun k => (course k).Late deadline } ∧
      (∀ (c : ExecutorCall) (reply : Reply), c.Settled deadline reply (c.run deadline reply)) ∧
      (∀ course' : Nat → Reply,
        (∀ k, course' k = course k ∨ (course k).Late deadline ∧ (course' k).Late deadline) →
          ((fresh course').calls deadline cs).1 = ((fresh course).calls deadline cs).1) ∧
      ∀ c : ExecutorCall, Executor.requestOf c.body c.headers = .ok c.request := by
  have hrun : ∀ course : Nat → Reply, (fresh course).calls deadline cs = _ := fun course =>
    calls_eq deadline cs (fresh course) rfl
  refine ⟨by rw [hrun]; rfl, ?_, fun c reply => c.settled deadline reply, fun course' hsame => ?_,
    fun c => Executor.requestOf_eq c.body c.headers⟩
  · rw [hrun]
    simp only [fresh, List.length_nil, List.nil_append, Nat.zero_add, List.range_eq_range']
    rfl
  · rw [hrun, hrun]
    refine List.map_congr_left fun p _ => ?_
    rcases hsame p.2 with h | ⟨h, h'⟩
    · simp only [fresh, h]
    · simp only [fresh, ExecutorCall.run_result, Reply.delivered_of_late h, Reply.delivered_of_late h']

end Wire
end GraphCalls
