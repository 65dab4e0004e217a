/-
Profiles: settings that are kept between commands, under a name.

What a command is given on its own comes before its profile. Headers are
those of the profile, changed by those of the command.
-/
import GraphCalls.Command.Pair
import GraphCalls.Http.ClientConfig
import GraphCalls.Toml.Printer

namespace GraphCalls

/-- The settings of a profile. -/
structure Profile where
  endpoint : Option String
  timeout : Option Nat
  headers : Entries String
deriving DecidableEq

namespace Profile

def empty : Profile := ⟨none, none, []⟩

/-- What the key of a header's setting starts with. -/
def headerMark : List Char := ['h', 'e', 'a', 'd', 'e', 'r', '.']

/-- The header that a key names. -/
def headerName? (key : String) : Option String :=
  let cs := key.toList
  if headerMark.isPrefixOf cs ∧ headerMark.length < cs.length then
    some (String.ofList (cs.drop headerMark.length))
  else none

/-- Changes one setting. -/
def set (p : Profile) (key value : String) : Except CommandError Profile :=
  if key = "endpoint" then .ok { p with endpoint := some value }
  else if key = "timeout_ms" then
    match Unsigned.parse value with
    | .ok n => .ok { p with timeout := some n }
    | .error fault => .error (.badTimeout value fault)
  else
    match headerName? key with
    | some name => .ok { p with headers := p.headers.set name value }
    | none => .error (.unknownSetting key)

/-- The configuration of a command with a profile. -/
def resolve (p : Profile) (endpoint : Option String) (timeout : Option Nat)
    (headers : List String) : Except CommandError ClientConfig :=
  match endpoint.or p.endpoint with
  | none => .error .noEndpoint
  | some endpoint => do
    let c ← (ClientConfig.parse endpoint).mapError ConfigFault.toCommandError
    let c := match timeout.or p.timeout with
      | some ms => c.withTimeout (.ofMilliseconds ms)
      | none => c
    let c := p.headers.foldl (fun c h => c.withHeader h.1 h.2) c
    let c ← headers.foldlM (fun c word => do
      let (name, value) ← Pair.parse word
      return c.withHeader name value) c
    c.checked.mapError ConfigFault.toCommandError

/-! ## As text -/

/-- The profile that a table holds, or an array of its settings in order, of
which the headers alone may be left out. -/
def ofToml? : Toml → Option Profile
  | .array (endpoint :: timeout :: rest) => do
    let headers ← match rest with
      | [] => some []
      | headers :: _ => headers.strings?
    return ⟨← endpoint.string?, ← timeout.natural?, headers⟩
  | t => do
    return ⟨← t.member? Toml.string? "endpoint", ← t.member? Toml.natural? "timeout_ms",
      (← t.member? Toml.strings? "headers").getD []⟩

/-- The settings beside the headers. -/
def ownSettings (p : Profile) : List (String × Toml.Setting) :=
  (p.endpoint.toList.map fun s => ("endpoint", .string s)) ++
    (p.timeout.toList.map fun n => ("timeout_ms", .integer n))

/-- A profile as the table at some path. Its own header is left out if there
are only headers below it. -/
def sections (path : List String) (p : Profile) : List Toml.Section :=
  let below : List Toml.Section :=
    if p.headers.isEmpty then []
    else [⟨path ++ ["headers"], p.headers.map fun (name, value) => (name, .string value)⟩]
  if p.ownSettings.isEmpty && !below.isEmpty then below else ⟨path, p.ownSettings⟩ :: below

/-- The text of a profile that stands alone. -/
def text (p : Profile) : String := Toml.textOf (p.sections [])

end Profile
end GraphCalls
