/-
Requests over HTTP.

A request carries the configured headers and those of the call, of which the
latter win. Names compare without regard to case, as HTTP compares them. What
neither names is filled in: the type of the body, and the origin.
-/
import GraphCalls.Call.Transport
import GraphCalls.Http.Base64
import GraphCalls.Http.ClientConfig
import GraphCalls.Url.Percent

namespace GraphCalls

/-! ## Headers -/

namespace Header

def lowerName (name : String) : List Char := name.toList.map Char.toLower

/-- Whether two names are equal but for the case of ASCII letters. -/
def sameName (a b : String) : Bool := lowerName a == lowerName b

def hasName (hs : Entries String) (name : String) : Bool := hs.any fun h => sameName h.1 name

/-- Adds a header unless it is named already. -/
def addMissing (name value : String) (hs : Entries String) : Entries String :=
  if hasName hs name then hs else hs.set name value

def isTokenChar (c : Char) : Bool :=
  c.isAlphanum || c ∈ ['!', '#', '$', '%', '&', '\'', '*', '+', '-', '.', '^', '_', '\x60', '|', '~']

/-- Names are made of letters, digits and some signs. -/
def isName (name : String) : Bool := !name.isEmpty && name.toList.all isTokenChar

/-- Values hold no control characters but tabs. -/
def isValue (value : String) : Bool :=
  value.toList.all fun c => c == '\t' || (0x20 ≤ c.toNat && c.toNat != 0x7F)

/-- Whether a header can be sent. -/
def isSendable (h : String × String) : Bool := isName h.1 && isValue h.2

end Header

/-! ## Requests -/

/-- A request as it goes to a server. All are posted. -/
structure HttpRequest where
  target : Url
  headers : List (String × String)
  body : String
deriving DecidableEq

/-- An endpoint, and the headers that go with every request to it. -/
structure HttpTransport where
  endpoint : Url
  headers : Entries String
deriving DecidableEq

namespace HttpTransport

def ofConfig (c : ClientConfig) : HttpTransport := ⟨c.endpoint, c.headers⟩

def withHeader (t : HttpTransport) (name value : String) : HttpTransport :=
  { t with headers := t.headers.set name value }

/-- Sets a header in the place of all of its name. -/
def replaceHeader (hs : Entries String) (h : String × String) : Entries String :=
  Entries.set h.1 h.2 (hs.filter fun x => !Header.sameName x.1 h.1)

/-- The headers of a request, given those of the call. -/
def requestHeaders (t : HttpTransport) (extra : Entries String) : Entries String :=
  let hs := Header.addMissing "content-type" "application/json" (extra.foldl replaceHeader t.headers)
  match t.endpoint.origin? with
  | some origin => Header.addMissing "origin" origin hs
  | none => hs

/-- The header that carries an endpoint's name and password, if it has any. -/
def authorization (u : Url) : List (String × String) :=
  if u.username.isEmpty && u.password.isEmpty then []
  else
    let plain := Percent.decodeBytes u.username.toList ++ UInt8.ofNat ':'.toNat ::
      Percent.decodeBytes u.password.toList
    [("authorization", String.ofList (['B', 'a', 's', 'i', 'c', ' '] ++ Base64.encode plain))]

/-- The request that goes to the server; none if a header cannot be sent. -/
def request? (t : HttpTransport) (r : Request) : Option HttpRequest :=
  let hs := t.requestHeaders r.headers
  if hs.all Header.isSendable then
    some ⟨t.endpoint.withoutCredentials, authorization t.endpoint ++ hs, r.body⟩
  else none

/-- The reason when a request cannot be made. -/
def unsendable : String := "builder error"

/-- The reason when a server cannot be reached. -/
def unreachable (target : Url) : String :=
  "error sending request for url (" ++ target.text ++ ")"

end HttpTransport
end GraphCalls
