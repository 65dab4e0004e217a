/-
Sending a request, and what may come back.

A transport carries one request body with its headers and settles with an
answer or a failure, after some time, or never. Time is counted in
milliseconds on a clock that moves only while something is waited for.
-/
import GraphCalls.Call.Error
import GraphCalls.Entries

namespace GraphCalls

/-- A request as it is handed to a transport. -/
structure Request where
  body : String
  headers : Entries String
deriving DecidableEq

/-- What a server answered. -/
structure Answer where
  status : Nat
  body : String
deriving DecidableEq

/-- Statuses from 400 on are errors. -/
def Answer.isError (a : Answer) : Bool := 400 ≤ a.status

/-- How a transport settles: with an answer, or with a failure. A transport may
fail in any way, also as a call does that runs out of time. -/
inductive Outcome where
  | answered (answer : Answer)
  | failed (error : CallError)
deriving DecidableEq

/-- The course of one request: how it settles and after which time, if it
ever does. -/
inductive Reply where
  | settles (after : Nat) (outcome : Outcome)
  | hangs
deriving DecidableEq

/-- A reply seen with a deadline: what the caller gets, how long it waited,
and whether the request was dropped. -/
structure Wait where
  result : Except CallError Answer
  elapsed : Nat
  dropped : Bool

namespace Reply

/-- A reply that settles by the deadline is taken, one that settles exactly
then too; any other is dropped at the deadline. -/
def await (deadline : Nat) : Reply → Wait
  | .settles after outcome =>
    if after ≤ deadline then
      { result := match outcome with
          | .answered a => .ok a
          | .failed e => .error e
        elapsed := after
        dropped := false }
    else ⟨.error (.timeout deadline), deadline, true⟩
  | .hangs => ⟨.error (.timeout deadline), deadline, true⟩

end Reply
end GraphCalls
