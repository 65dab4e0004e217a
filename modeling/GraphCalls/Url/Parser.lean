/-
Reading URLs.

Blanks around a URL and line breaks and tabs inside it do not count. After the
scheme, the web schemes expect a host whatever slashes stand before it, and
take a backslash for a slash; others have a host only after two slashes.
-/
import GraphCalls.Url.Basic
import GraphCalls.Url.Domain
import GraphCalls.Url.Percent

namespace GraphCalls
namespace Url

def isBlank (c : Char) : Bool := c.toNat ≤ 0x20

/-- The characters that count. -/
def significant (cs : List Char) : List Char :=
  let trimmed := ((cs.dropWhile isBlank).reverse.dropWhile isBlank).reverse
  trimmed.filter fun c => !(c == '\t' || c == '\n' || c == '\r')

def isSchemeChar (c : Char) : Bool := c.isAlphanum || c == '+' || c == '-' || c == '.'

/-- A scheme in lower case, and the text after its colon. -/
def scheme? (cs : List Char) : Option (List Char × List Char) :=
  match cs with
  | c :: _ =>
    if c.isAlpha then
      match cs.span isSchemeChar with
      | (name, ':' :: rest) => some (name.map Char.toLower, rest)
      | _ => none
    else none
  | [] => none

/-- The schemes whose URLs always have a host, but for files. -/
def isSpecial (scheme : String) : Bool := scheme ∈ ["http", "https", "ws", "wss", "ftp", "file"]

def defaultPort? (scheme : String) : Option Nat :=
  if scheme = "http" ∨ scheme = "ws" then some 80
  else if scheme = "https" ∨ scheme = "wss" then some 443
  else if scheme = "ftp" then some 21
  else none

/-- Whether a character divides a path. -/
def isSlash (special : Bool) (c : Char) : Bool := c == '/' || (special && c == '\\')

/-- Whether a character ends the part with the host. -/
def endsAuthority (special : Bool) (c : Char) : Bool := isSlash special c || c == '?' || c == '#'

/-- Splits at the last `@`, if there is one. -/
def splitUserinfo (cs : List Char) : Option (List Char) × List Char :=
  match cs.reverse.span (· != '@') with
  | (host, _ :: user) => (some user.reverse, host.reverse)
  | (_, []) => (none, cs)

/-- Name and password of the part before the host. -/
def parseUserinfo (cs : List Char) : String × String :=
  let (name, rest) := cs.span (· != ':')
  (String.ofList (Percent.encode Percent.inUserinfo name),
    String.ofList (Percent.encode Percent.inUserinfo (rest.drop 1)))

/-- Splits before the colon that starts a port; a colon in brackets does not. -/
def splitPort (inBrackets : Bool) : List Char → List Char × List Char
  | [] => ([], [])
  | c :: rest =>
    if c = ':' ∧ !inBrackets then ([], c :: rest)
    else
      let inside := if c = '[' then true else if c = ']' then false else inBrackets
      let (a, b) := splitPort inside rest
      (c :: a, b)

/-- An address between brackets. -/
def bracketed (cs : List Char) : Except UrlError Host :=
  if cs.getLast? = some ']' then (Ipv6.parse (cs.drop 1).dropLast).map .ipv6
  else .error .badIpv6

/-- The host of a web scheme. -/
def specialHost (cs : List Char) : Except UrlError Host :=
  if cs.head? = some '[' then bracketed cs
  else
    match (Percent.decode cs).bind Domain.toAscii with
    | none => .error .badDomain
    | some [] => .error .emptyHost
    | some name =>
      if Ipv4.isNumeric name then (Ipv4.parse name).map .ipv4
      else .ok (.domain (String.ofList name))

/-- Characters that no host may hold. -/
def forbiddenInHost (c : Char) : Bool :=
  c.toNat == 0 || c ∈ ['\t', '\n', '\r', ' ', '#', '/', ':', '<', '>', '?', '@', '[', '\\', ']', '^',
    '|']

/-- The host of any other scheme. -/
def otherHost (cs : List Char) : Except UrlError Host :=
  if cs.head? = some '[' then bracketed cs
  else if cs.any forbiddenInHost then .error .badHostCharacter
  else .ok (.domain (String.ofList (Percent.encode Percent.inControls cs)))

/-- A port after its colon; the scheme's own is not kept. -/
def parsePort (scheme : String) (cs : List Char) : Except UrlError (Option Nat) :=
  if cs.isEmpty then .ok none
  else if cs.all Char.isDigit then
    let n := cs.foldl (fun n c => n * 10 + (c.toNat - '0'.toNat)) 0
    if 65535 < n then .error .badPort
    else .ok (if some n = defaultPort? scheme then none else some n)
  else .error .badPort

/-- The part with the host. -/
structure Authority where
  username : String
  password : String
  host : Host
  port : Option Nat

/-- An authority, and the text behind its port: a backslash ends a port, and
starts the path. Whether more of the URL follows it matters only for one that
is nothing but an `@`. -/
def parseAuthority (scheme : String) (followed : Bool) (cs : List Char) :
    Except UrlError (Authority × List Char) := do
  let special := isSpecial scheme
  if followed && cs == ['@'] then throw .emptyHost
  let (user, rest) := splitUserinfo cs
  let (username, password) := parseUserinfo (user.getD [])
  let (hostText, portText) := splitPort false rest
  if hostText.isEmpty && (special || !portText.isEmpty || !username.isEmpty || !password.isEmpty) then
    throw .emptyHost
  let host ← if special then specialHost hostText else otherHost hostText
  let (digits, behind) := (portText.drop 1).span (· != '\\')
  let port ← parsePort scheme digits
  return (⟨username, password, host, port⟩, behind)

/-! ## Paths -/

/-- Splits at slashes. -/
def splitSlashes (special : Bool) (cs : List Char) : List (List Char) :=
  match cs with
  | [] => [[]]
  | c :: rest =>
    match splitSlashes special rest with
    | [] => [[]]
    | s :: ss => if isSlash special c then [] :: s :: ss else (c :: s) :: ss

/-- A segment with its encoded dots read. -/
def plainDots (cs : List Char) : List Char :=
  match cs with
  | '%' :: '2' :: e :: rest => if e = 'e' ∨ e = 'E' then '.' :: plainDots rest
      else '%' :: '2' :: e :: plainDots rest
  | c :: rest => c :: plainDots rest
  | [] => []

/-- A letter for a drive, with a colon or a bar behind it. -/
def drive? : List Char → Option Char
  | [c, mark] => if c.isAlpha && (mark == ':' || mark == '|') then some c else none
  | _ => none

/-- The segments, in reverse, that two dots leave: all but the last. Nothing
leads out of a drive. -/
def parent : List (List Char) → List (List Char)
  | [] => []
  | s :: kept => if (drive? s).isSome then s :: kept else kept

/-- Walks through segments: one dot stays, two dots go up, and where the path
ends in either it ends in a slash. The segments kept are in reverse. -/
def walk (kept : List (List Char)) : List (List Char) → List (List Char)
  | [] => kept.reverse
  | s :: rest =>
    if plainDots s = ['.', '.'] then
      if rest.isEmpty then ([] :: parent kept).reverse else walk (parent kept) rest
    else if plainDots s = ['.'] then
      if rest.isEmpty then ([] :: kept).reverse else walk kept rest
    else walk (s :: kept) rest

/-- The segments of a text that starts at its first slash. -/
def pathSegments (special : Bool) (cs : List Char) : List (List Char) :=
  let body := match cs with
    | c :: rest => if isSlash special c then rest else c :: rest
    | [] => []
  walk [] (splitSlashes special body)

def encodePath (ss : List (List Char)) : UrlPath :=
  .segments (ss.map fun s => String.ofList (Percent.encode Percent.inPath s))

/-- The path of a text that starts at its first slash, if it has one. -/
def parsePath (special : Bool) (cs : List Char) : UrlPath :=
  if cs.isEmpty && !special then .segments [] else encodePath (pathSegments special cs)

/-- Path, query and fragment texts. -/
def splitTail (cs : List Char) : List Char × Option (List Char) × Option (List Char) :=
  let (front, fragment) := match cs.span (· != '#') with
    | (a, _ :: b) => (a, some b)
    | (a, []) => (a, none)
  match front.span (· != '?') with
  | (path, _ :: query) => (path, some query, fragment)
  | (path, []) => (path, none, fragment)

def encodeQuery (special : Bool) (cs : List Char) : String :=
  String.ofList (Percent.encode (if special then Percent.inSpecialQuery else Percent.inQuery) cs)

def encodeFragment (cs : List Char) : String := String.ofList (Percent.encode Percent.inFragment cs)

/-- A URL with a host. -/
def parseWithHost (scheme : String) (cs : List Char) : Except UrlError Url := do
  let special := isSpecial scheme
  let (authorityText, rest) := cs.span (!endsAuthority special ·)
  let (a, behind) ← parseAuthority scheme (!rest.isEmpty) authorityText
  let (path, query, fragment) := splitTail (behind ++ rest)
  return { scheme := scheme
           username := a.username
           password := a.password
           host := some a.host
           port := a.port
           path := parsePath special path
           query := query.map (encodeQuery special)
           fragment := fragment.map encodeFragment }

/-- A URL without a host. -/
def parseWithoutHost (scheme : String) (cs : List Char) : Url :=
  let (path, query, fragment) := splitTail cs
  { scheme := scheme
    username := ""
    password := ""
    host := none
    port := none
    path := if path.head? = some '/' then parsePath false path
      else .opaqueText (String.ofList (Percent.encode Percent.inControls path))
    query := query.map (encodeQuery false)
    fragment := fragment.map encodeFragment }

/-- Slashes in a row at the start of a file's path count once. -/
def cutSlashes (ss : List (List Char)) : List (List Char) :=
  match ss.dropWhile List.isEmpty with
  | [] => [[]]
  | ss => ss

/-- The segments of a path that starts with a drive, whose mark is a colon. -/
def onDrive? (ss : List (List Char)) : Option (List (List Char)) :=
  match ss with
  | s :: rest => (drive? s).map fun c => [c, ':'] :: rest
  | [] => none

/-- Host and path texts of a file's URL. A drive is no host. -/
def splitFile (cs : List Char) : List Char × List Char :=
  let slashes := cs.takeWhile (isSlash true)
  if slashes.length = 2 then
    let (host, rest) := (cs.drop 2).span (!endsAuthority true ·)
    if (drive? host).isSome then ([], cs.drop 2) else (host, rest)
  else ([], if slashes.length < 2 then cs else cs.drop 2)

/-- The URL of a file: its host may be left out, `localhost` is, and so is the
host beside a drive. A drive is looked for after a host, or where a path
without host has no slash at its start. -/
def parseFile (cs : List Char) : Except UrlError Url := do
  let (hostText, rest) := splitFile cs
  let host ← if hostText.isEmpty then pure (Host.domain "") else specialHost hostText
  let host := if host = .domain "localhost" then .domain "" else host
  let (path, query, fragment) := splitTail rest
  let segments := pathSegments true path
  let drive := if host = .domain "" ∧ path.head?.any (isSlash true) then none else onDrive? segments
  return { scheme := "file"
           username := ""
           password := ""
           host := some (if drive.isSome then .domain "" else host)
           port := none
           path := encodePath (drive.getD (cutSlashes segments))
           query := query.map (encodeQuery true)
           fragment := fragment.map encodeFragment }

/-- The URL that a text writes. -/
def parse (text : String) : Except UrlError Url :=
  match scheme? (significant text.toList) with
  | none => .error .relative
  | some (scheme, rest) =>
    let scheme := String.ofList scheme
    if scheme = "file" then parseFile rest
    else if isSpecial scheme then parseWithHost scheme (rest.dropWhile (isSlash true))
    else
      match rest with
      | '/' :: '/' :: rest => parseWithHost scheme rest
      | rest => .ok (parseWithoutHost scheme rest)

end Url
end GraphCalls
