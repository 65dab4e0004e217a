/-
HTTP messages as bytes.

A request states its length. Where an answer ends is read off its head: after
its chunks, after its stated length, or where the server closes.
-/
import GraphCalls.Call.Transport
import GraphCalls.Http.Transport
import GraphCalls.Http.Utf8
import GraphCalls.Number.Digits

namespace GraphCalls

abbrev Bytes := List UInt8

/-! ## Requests -/

namespace HttpRequest

/-- What is asked for: path and query of the target. -/
def resource (u : Url) : String := u.path.text ++ Url.marked "?" u.query

/-- The host that is asked, with the port if it is not the scheme's own. -/
def hostText (u : Url) : String :=
  (u.host.map Host.text).getD "" ++ Url.marked ":" (u.port.map toString)

def headLines (r : HttpRequest) : List String :=
  ["POST " ++ resource r.target ++ " HTTP/1.1", "host: " ++ hostText r.target] ++
    r.headers.map (fun h => String.ofList (Header.lowerName h.1) ++ ": " ++ h.2) ++
    ["accept: */*", "content-length: " ++ toString r.body.utf8ByteSize, "connection: close"]

/-- The whole message. -/
def message (r : HttpRequest) : String :=
  String.join (r.headLines.map (· ++ "\r\n")) ++ "\r\n" ++ r.body

end HttpRequest

/-! ## Answers -/

namespace Answer

def carriageReturn : UInt8 := 13

def lineFeed : UInt8 := 10

/-- The bytes before the first line end, and those after it. -/
def cutLine : Bytes → Option (Bytes × Bytes)
  | [] => none
  | a :: rest =>
    if a = carriageReturn ∧ rest.head? = some lineFeed then some ([], rest.drop 1)
    else (cutLine rest).map fun (line, rest) => (a :: line, rest)

/-- The lines of a head, up to the empty one, and the bytes after it. At most
`fuel` lines are read. -/
def cutHead : (fuel : Nat) → Bytes → Option (List Bytes × Bytes)
  | 0, _ => none
  | fuel + 1, bytes => do
    let (line, rest) ← cutLine bytes
    if line.isEmpty then return ([], rest)
    let (lines, rest) ← cutHead fuel rest
    return (line :: lines, rest)

/-- The characters of a line of the head. -/
def lineChars (line : Bytes) : List Char := line.map fun b => Char.ofNat b.toNat

/-- The status in the first line. -/
def status? (line : List Char) : Option Nat :=
  match line.span (· != ' ') with
  | (_, ' ' :: a :: b :: c :: _) => Digits.number? 10 [a, b, c]
  | _ => none

/-- Name and value of a line of the head. -/
def header? (line : List Char) : Option (List Char × List Char) :=
  match line.span (· != ':') with
  | (name, _ :: value) =>
    some (name.map Char.toLower, ((value.dropWhile (· == ' ')).reverse.dropWhile (· == ' ')).reverse)
  | (_, []) => none

/-- The bytes that chunks make up. At most `fuel` chunks are read. -/
def joinChunks : (fuel : Nat) → Bytes → Option Bytes
  | 0, _ => none
  | fuel + 1, bytes => do
    let (line, rest) ← cutLine bytes
    let size ← Digits.number? 16 ((lineChars line).takeWhile fun c => c != ';' && c != ' ')
    if size = 0 then return []
    if rest.length < size + 2 then none
    let more ← joinChunks fuel (rest.drop (size + 2))
    return rest.take size ++ more

/-- The body that the bytes after a head make; none if more are to come. -/
def body? (headers : List (List Char × List Char)) (closed : Bool) (bytes : Bytes) : Option Bytes :=
  let value? (name : String) := (headers.find? (·.1 == name.toList)).map Prod.snd
  if value? "transfer-encoding" == some "chunked".toList then joinChunks bytes.length bytes
  else
    match (value? "content-length").bind (Digits.number? 10) with
    | some n => if n ≤ bytes.length then some (bytes.take n) else none
    | none => if closed then some bytes else none

/-- The answer that bytes make; none if they are no answer yet. -/
def ofBytes? (closed : Bool) (bytes : Bytes) : Option Answer := do
  let (lines, rest) ← cutHead bytes.length bytes
  let first :: others := lines.map lineChars | none
  let status ← status? first
  if status = 204 ∨ status = 304 then return ⟨status, ""⟩
  let body ← body? (others.filterMap header?) closed rest
  return ⟨status, Utf8.text body⟩

end Answer
end GraphCalls
