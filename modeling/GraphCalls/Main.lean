/-
The program at a command line.

It works on the files of the machine and sends over plain TCP, so that only
`http` endpoints can be reached.
-/
import GraphCalls.Command.Action
import GraphCalls.Http.Message
import Std.Async.DNS
import Std.Async.TCP
import Std.Async.Timer

namespace GraphCalls
namespace Program

open Std.Async

/-! ## Files -/

def faultOf : IO.Error → FileFault
  | .noFileOrDirectory .. => .missing
  | .alreadyExists .. => .alreadyThere
  | .inappropriateType _ code _ => if code = 20 then .notADirectory else .isADirectory
  | e => .other (toString e)

/-- An action of the machine, or why it failed. -/
def attempt {α : Type} (x : IO α) : IO (Except FileFault α) := do
  try return .ok (← x)
  catch e => return .error (faultOf e)

/-! ## Network -/

def addressesOf (u : Url) : Async (Array Std.Net.IPAddr) :=
  DNS.getAddrInfo ((u.host.map Host.text).getD "") ""

def socketAddress (port : UInt16) : Std.Net.IPAddr → Std.Net.SocketAddress
  | .v4 a => .v4 ⟨a, port⟩
  | .v6 a => .v6 ⟨a, port⟩

/-- Receives until the bytes make an answer or the server closes. -/
partial def receive (client : TCP.Socket.Client) (bytes : ByteArray) : Async (Option Answer) := do
  match Answer.ofBytes? false bytes.toList with
  | some a => return some a
  | none =>
    match ← client.recv? 65536 with
    | some more => receive client (bytes ++ more)
    | none => return Answer.ofBytes? true bytes.toList

/-- The answer of a server, if there is one. -/
def answerTo (r : HttpRequest) : Async (Option Answer) := do
  if r.target.scheme != "http" then return none
  let some address := (← addressesOf r.target)[0]? | return none
  let client ← TCP.Socket.Client.mk
  client.connect (socketAddress ((r.target.port.getD 80).toUInt16) address)
  client.send r.message.toUTF8
  receive client ByteArray.empty

/-- What came of a request by its deadline. -/
inductive Arrival where
  | inTime (answer : Option Answer)
  | late

instance : Inhabited Arrival := ⟨.late⟩

/-- Sends a request and waits for the answer until the deadline. -/
def network : Network IO := fun r deadline => do
  let started ← IO.monoMsNow
  let failed : Reply := .settles 0 (.failed (.transport (HttpTransport.unreachable r.target)))
  try
    let arrival ← (Async.race (do return Arrival.inTime (← answerTo r))
      (do sleep (.ofInt deadline); return Arrival.late)).block
    match arrival with
    | .inTime (some a) => return .settles (min deadline ((← IO.monoMsNow) - started)) (.answered a)
    | .inTime none => return failed
    | .late => return .hangs
  catch _ => return failed

/-! ## The program -/

def shell : IO (Shell IO) := do
  let home ← IO.getEnv "HOME"
  let terminal ← (← IO.getStdout).isTty
  return {
    home := home
    terminal := terminal
    network := network
    read := fun path => attempt (IO.FS.readFile path)
    write := fun path text => attempt (IO.FS.writeFile path text)
    contains := fun path => do
      match ← attempt (IO.FS.readFile path) with
      | .error .missing => return false
      | _ => return true
    makeDirectory := fun path => attempt (IO.FS.createDirAll path)
    print := fun line => IO.println line
    warn := fun line => IO.eprintln line }

/-- The variables of the environment that commands look at. -/
def environment : IO (Entries String) := do
  let values ← Action.relevantVariables.mapM fun name => do return (name, ← IO.getEnv name)
  return values.filterMap fun (name, value) => value.map (name, ·)

end Program
end GraphCalls

open GraphCalls in
/-- Runs the command that the arguments write. -/
def main (args : List String) : IO UInt32 := do
  let env ← Program.environment
  let status ← Action.runWords (← Program.shell) env.get? args
  return status.toUInt32
