/-
TOML values that are written without quotes.

Integers have a base and may be grouped by underscores; they fit 128 bits.
Floats have a point, an exponent or both. A date, a time of day, or both stand
as they do in calendars: no month has a thirteenth, and February has the days
that its year gives it.
-/
import GraphCalls.Number.Binary64
import GraphCalls.Number.Digits
import GraphCalls.Toml.Basic

namespace GraphCalls
namespace Toml
namespace Scalar

/-! ## Numbers -/

/-- Whether digits are grouped: each underscore stands between two. -/
def isGrouped : List Char → Bool
  | [c] => c != '_'
  | c :: '_' :: cs => c != '_' && isGrouped cs
  | c :: cs => c != '_' && isGrouped cs
  | [] => false

/-- The number that grouped digits of a base write. -/
def grouped? (radix : Nat) (cs : List Char) : Option Nat :=
  if isGrouped cs then Digits.number? radix (cs.filter (· != '_')) else none

/-- No further digit may follow a zero at the start. -/
def hasLeadingZero : List Char → Bool
  | '0' :: _ :: _ => true
  | _ => false

/-- The digits of a decimal number without a sign. -/
def decimal? (cs : List Char) : Option Nat := if hasLeadingZero cs then none else grouped? 10 cs

/-- Text after its sign, and whether that is a minus. -/
def signed : List Char → Bool × List Char
  | '-' :: cs => (true, cs)
  | '+' :: cs => (false, cs)
  | cs => (false, cs)

/-- An integer. Only decimal ones may have a sign. -/
def integer? (cs : List Char) : Option Int :=
  let n : Option Int := match cs with
    | '0' :: 'x' :: ds => (grouped? 16 ds).map Int.ofNat
    | '0' :: 'o' :: ds => (grouped? 8 ds).map Int.ofNat
    | '0' :: 'b' :: ds => (grouped? 2 ds).map Int.ofNat
    | cs => (decimal? (signed cs).2).map fun n => if (signed cs).1 then -(n : Int) else n
  n.filter fun n => minInt ≤ n ∧ n ≤ maxInt

/-- Splits before the first character of a kind. -/
def cut (p : Char → Bool) (cs : List Char) : List Char × Option (List Char) :=
  match cs.span (!p ·) with
  | (a, _ :: b) => (a, some b)
  | (a, []) => (a, none)

/-- The value of grouped digits, and how many digits there are. -/
def digits? (cs : List Char) : Option (Nat × Nat) :=
  (grouped? 10 cs).map fun n => (n, (cs.filter (· != '_')).length)

/-- Whether a significand with a decimal exponent is a binary64. Only what is
near the greatest of them is looked at closely. -/
def isFinite (significand : Nat) (exponent : Int) : Bool :=
  let magnitude : Int := (Nat.toDigits 10 significand).length + exponent
  if significand = 0 ∨ magnitude ≤ 308 then true
  else if 310 ≤ magnitude then false
  else
    (Binary64.ofRatio false (significand * Binary64.tenTo exponent.toNat)
      (Binary64.tenTo (-exponent).toNat)).isSome

/-- Whether a text is a float that is not too large. -/
def isFloat (cs : List Char) : Bool :=
  let body := (signed cs).2
  if body = ['i', 'n', 'f'] ∨ body = ['n', 'a', 'n'] then true
  else
    let (mantissa, exponent) := cut (fun c => c == 'e' || c == 'E') body
    let (whole, fraction) := cut (· == '.') mantissa
    let parts : Option (Nat × (Nat × Nat) × Int) := do
      let n ← decimal? whole
      let f ← match fraction with
        | none => some (0, 0)
        | some ds => digits? ds
      let e ← match exponent with
        | none => some (0 : Int)
        | some e => (grouped? 10 (signed e).2).map fun n => if (signed e).1 then -(n : Int) else n
      return (n, f, e)
    match parts with
    | none => false
    | some (n, (f, places), e) =>
      (fraction.isSome || exponent.isSome) &&
        isFinite (n * Binary64.tenTo places + f) (e - places)

/-! ## Dates and times -/

/-- A number of two digits, and the text after it. -/
def twoDigits : List Char → Option (Nat × List Char)
  | a :: b :: cs => (Digits.number? 10 [a, b]).map (·, cs)
  | _ => none

/-- A number below 100 in two digits. -/
def inTwoDigits (n : Nat) : List Char :=
  [Char.ofNat ('0'.toNat + n / 10), Char.ofNat ('0'.toNat + n % 10)]

def isLeapYear (year : Nat) : Bool := year % 4 == 0 && (year % 100 != 0 || year % 400 == 0)

def daysOf (year month : Nat) : Nat :=
  if month = 2 then (if isLeapYear year then 29 else 28)
  else if month ∈ [4, 6, 9, 11] then 30
  else 31

/-- Part of a date in normal form, and the text after it. -/
abbrev Read := Option (List Char × List Char)

/-- A date. -/
def date (cs : List Char) : Read := do
  let (century, cs) ← twoDigits cs
  let (year, cs) ← twoDigits cs
  let '-' :: cs := cs | none
  let (month, cs) ← twoDigits cs
  let '-' :: cs := cs | none
  let (day, cs) ← twoDigits cs
  if 1 ≤ month ∧ month ≤ 12 ∧ 1 ≤ day ∧ day ≤ daysOf (100 * century + year) month then
    some (inTwoDigits century ++ inTwoDigits year ++ '-' :: inTwoDigits month ++
      '-' :: inTwoDigits day, cs)
  else none

/-- The parts of a second: nine digits at most count, and zeros at the end do
not. -/
def fraction : List Char → Read
  | '.' :: cs =>
    let (ds, rest) := cs.span Char.isDigit
    let kept := ((ds.take 9).reverse.dropWhile (· == '0')).reverse
    if ds.isEmpty then none else some (if kept.isEmpty then [] else '.' :: kept, rest)
  | cs => some ([], cs)

/-- A time of day; the seconds may be left out. -/
def time (cs : List Char) : Read := do
  let (hour, cs) ← twoDigits cs
  let ':' :: cs := cs | none
  let (minute, cs) ← twoDigits cs
  if 23 < hour ∨ 59 < minute then none
  let front := inTwoDigits hour ++ ':' :: inTwoDigits minute ++ [':']
  match cs with
  | ':' :: cs =>
    let (second, cs) ← twoDigits cs
    if 60 < second then none
    let (f, cs) ← fraction cs
    some (front ++ inTwoDigits second ++ f, cs)
  | cs => some (front ++ inTwoDigits 0, cs)

/-- An offset, which may be left out. That of nothing goes forward. -/
def offset (cs : List Char) : Read :=
  match cs with
  | 'Z' :: cs | 'z' :: cs => some (['Z'], cs)
  | sign :: cs =>
    if sign = '+' ∨ sign = '-' then do
      let (hour, cs) ← twoDigits cs
      let ':' :: cs := cs | none
      let (minute, cs) ← twoDigits cs
      if 23 < hour ∨ 59 < minute then none
      let sign := if hour = 0 ∧ minute = 0 then '+' else sign
      some (sign :: inTwoDigits hour ++ ':' :: inTwoDigits minute, cs)
    else some ([], sign :: cs)
  | [] => some ([], [])

/-- A date, a time of day, or both with or without offset, in normal form. -/
def datetime? (cs : List Char) : Option (List Char) := do
  match date cs with
  | some (d, []) => return d
  | some (d, c :: cs) =>
    if c == 'T' || c == 't' || c == ' ' then
      let (t, cs) ← time cs
      let (o, cs) ← offset cs
      if cs.isEmpty then return d ++ 'T' :: t ++ o else none
    else none
  | none =>
    let (t, cs) ← time cs
    if cs.isEmpty then return t else none

/-- The value that a text without quotes writes. -/
def ofChars? (cs : List Char) : Option Toml :=
  if cs = ['t', 'r', 'u', 'e'] then some (.boolean true)
  else if cs = ['f', 'a', 'l', 's', 'e'] then some (.boolean false)
  else
    match integer? cs with
    | some n => some (.integer n)
    | none =>
      if isFloat cs then some (.float (String.ofList cs))
      else (datetime? cs).map fun text => .datetime (String.ofList text)

end Scalar
end Toml
end GraphCalls
