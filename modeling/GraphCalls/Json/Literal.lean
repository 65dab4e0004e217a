/-
The scalars of JSON text as they stand in it.

A string is a list of characters in which an escaped surrogate is still a
code unit, since a text may hold half a pair where the string is skipped. A
number is its sign and digits. Storing either can fail: a string with half a
pair has no characters, and a number may be too large.
-/
import GraphCalls.Json.Basic

namespace GraphCalls

/-- Why a text could not be read. -/
inductive ReadError where
  /-- The text is not JSON, or holds something that cannot be stored. -/
  | malformed
  /-- The text ended too early. -/
  | truncated
  /-- The text is JSON of another shape than the one asked for. -/
  | mismatch
deriving DecidableEq

def ReadError.message : ReadError → String
  | .malformed => "text is not JSON that can be kept"
  | .truncated => "text ends too early"
  | .mismatch => "data has another shape"

/-- A character of a string, or one unit of a surrogate pair written as an
escape. -/
inductive StringPiece where
  | char (c : Char)
  | surrogate (unit : Nat)
deriving DecidableEq

abbrev StringLiteral := List StringPiece

def isLeadSurrogate (u : Nat) : Bool := 0xD800 ≤ u && u < 0xDC00

def isTrailSurrogate (u : Nat) : Bool := 0xDC00 ≤ u && u < 0xE000

/-- The character of a surrogate pair. -/
def pairChar (lead trail : Nat) : Char :=
  Char.ofNat (0x10000 + (lead - 0xD800) * 0x400 + (trail - 0xDC00))

namespace StringLiteral

/-- The characters of a string; none if half a surrogate pair stands alone. -/
def chars? : StringLiteral → Option (List Char)
  | [] => some []
  | .char c :: ps => (chars? ps).map (c :: ·)
  | .surrogate u :: .surrogate v :: ps =>
    if isLeadSurrogate u && isTrailSurrogate v then (chars? ps).map (pairChar u v :: ·) else none
  | .surrogate _ :: _ => none

/-- The string, if it can be stored. -/
def value? (s : StringLiteral) : Option String := s.chars?.map String.ofList

/-- Whether what was read of a string already cannot be stored. Half a pair
at its end may still be completed. -/
def hopeless : StringLiteral → Bool
  | [] => false
  | .char _ :: ps => hopeless ps
  | [.surrogate u] => !isLeadSurrogate u
  | .surrogate u :: .surrogate v :: ps =>
    !(isLeadSurrogate u && isTrailSurrogate v) || hopeless ps
  | .surrogate _ :: .char _ :: _ => true

end StringLiteral

/-- The digits of a number. A number without point and exponent is written
as an integer. -/
structure NumberLiteral where
  negative : Bool
  whole : List Nat
  fraction : Option (List Nat)
  /-- The exponent's sign (negative if true) and digits. -/
  exponent : Option (Bool × List Nat)
deriving DecidableEq

namespace NumberLiteral

/-- The number that decimal digits write. -/
def digitsValue (ds : List Nat) : Nat := ds.foldl (fun n d => 10 * n + d) 0

/-- Takes digits onto a significand as long as it fits 64 bits; the digits
that did not fit are left. -/
def takeDigits (significand : Nat) : List Nat → Nat × List Nat
  | [] => (significand, [])
  | d :: ds =>
    if significand * 10 + d ≤ Bounds.maxUnsigned64 then takeDigits (significand * 10 + d) ds
    else (significand, d :: ds)

def exponentValue (l : NumberLiteral) : Int :=
  match l.exponent with
  | none => 0
  | some (true, ds) => -(digitsValue ds : Int)
  | some (false, ds) => digitsValue ds

/-- The binary64 that a literal is stored as; none if it is too large. Digits
that do not fit a 64 bit significand are dropped. -/
def float? (l : NumberLiteral) : Option Binary64 :=
  let (s, dropped) := takeDigits 0 l.whole
  let fraction := l.fraction.getD []
  let (s, unread) := takeDigits s fraction
  let places : Int := (dropped.length : Int) - ((fraction.length : Int) - unread.length)
  ((Binary64.ofRatio false s 1).bind (·.scaleByTen (places + l.exponentValue))).map fun x =>
    if l.negative then x.neg else x

/-- The number as it is stored. An integer that fits 64 bits is kept exactly,
but for `-0`, which only a binary64 can tell from `0`. -/
def value? (l : NumberLiteral) : Option Number :=
  let n := digitsValue l.whole
  if l.fraction.isNone && l.exponent.isNone then
    if l.negative then
      if 0 < n ∧ n ≤ Bounds.minSigned64 then some (.int (-(n : Int))) else l.float?.map .float
    else if n ≤ Bounds.maxUnsigned64 then some (.int n)
    else l.float?.map .float
  else l.float?.map .float

end NumberLiteral
end GraphCalls
