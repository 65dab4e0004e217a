/-
URLs.

A URL is kept in normal form: scheme and host in lower case, the port only if
it is not the scheme's own, and every part percent encoded as far as it must
be. Two spellings of one URL have the same text.
-/
import GraphCalls.Url.Address

namespace GraphCalls

/-- A host. A domain beside the web schemes may be any text. -/
inductive Host where
  | domain (name : String)
  | ipv4 (address : Nat)
  | ipv6 (groups : List Nat)
deriving DecidableEq

def Host.text : Host → String
  | .domain name => name
  | .ipv4 n => Ipv4.text n
  | .ipv6 gs => "[" ++ Ipv6.text gs ++ "]"

/-- A path: segments below a root, or text that is not divided. -/
inductive UrlPath where
  | segments (segments : List String)
  | opaqueText (text : String)
deriving DecidableEq

def UrlPath.text : UrlPath → String
  | .segments ss => String.join (ss.map ("/" ++ ·))
  | .opaqueText s => s

/-- A URL in its parts. -/
structure Url where
  scheme : String
  username : String
  password : String
  host : Option Host
  port : Option Nat
  path : UrlPath
  query : Option String
  fragment : Option String
deriving DecidableEq

namespace Url

/-- Name and password before the host, if there are any. -/
def credentials (u : Url) : String :=
  if u.username.isEmpty && u.password.isEmpty then ""
  else u.username ++ (if u.password.isEmpty then "" else ":" ++ u.password) ++ "@"

def marked (mark : String) : Option String → String
  | none => ""
  | some s => mark ++ s

/-- What stands between the scheme and the path. A path that starts with two
slashes but has no host is set off by a dot. -/
def authority (u : Url) : String :=
  match u.host with
  | some h => "//" ++ u.credentials ++ h.text ++ marked ":" (u.port.map toString)
  | none =>
    match u.path with
    | .segments ("" :: _ :: _) => "/."
    | _ => ""

/-- The text of a URL. -/
def text (u : Url) : String :=
  u.scheme ++ ":" ++ u.authority ++ u.path.text ++ marked "?" u.query ++ marked "#" u.fragment

/-- Scheme and host, if there is a host. -/
def origin? (u : Url) : Option String :=
  match u.host with
  | none | some (.domain "") => none
  | some h => some (u.scheme ++ "://" ++ h.text)

/-- The URL as it is requested: name and password travel in a header. -/
def withoutCredentials (u : Url) : Url := { u with username := "", password := "" }

end Url
end GraphCalls
