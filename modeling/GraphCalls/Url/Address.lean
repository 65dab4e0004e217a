/-
Numeric hosts.

An IPv4 address may be written with fewer than four parts, the last taking
the remaining bytes, and each part in decimal, octal after `0` or hexadecimal
after `0x`. An IPv6 address has eight groups, one run of zeros may be left
out, and the last two groups may be written as an IPv4 address.
-/
import GraphCalls.Url.Error
import GraphCalls.Number.Digits

namespace GraphCalls
namespace Ipv4

/-- One part of an address. -/
def part? : List Char → Option Nat
  | [] => none
  | '0' :: 'x' :: ds | '0' :: 'X' :: ds => Digits.number? 16 ds
  | '0' :: d :: ds => Digits.number? 8 (d :: ds)
  | ds => Digits.number? 10 ds

/-- The parts of a name, a dot at its end not counted. -/
def parts (cs : List Char) : List (List Char) :=
  let ps := cs.splitOn '.'
  if ps.getLast? = some [] then ps.dropLast else ps

/-- Whether a name must be an address: its last part is a number, or at
least all digits. -/
def isNumeric (cs : List Char) : Bool :=
  match (parts cs).getLast? with
  | none => false
  | some last => (!last.isEmpty && last.all Char.isDigit) || (part? last).isSome

/-- The address of a numeric name. -/
def parse (cs : List Char) : Except UrlError Nat :=
  match (parts cs).mapM part? with
  | none => .error .badIpv4
  | some ns =>
    match ns.reverse with
    | [] => .error .badIpv4
    | last :: before =>
      let bits := 8 * (4 - before.length)
      if 4 < ns.length ∨ 1 <<< bits ≤ last ∨ before.any (255 < ·) then .error .badIpv4
      else .ok ((before.reverse.foldl (fun n p => n * 256 + p) 0) <<< bits + last)

/-- Four decimal parts. -/
def text (n : Nat) : String :=
  String.intercalate "." ([n >>> 24, n >>> 16 % 256, n >>> 8 % 256, n % 256].map toString)

end Ipv4

namespace Ipv6

/-- A group of one to four hexadecimal digits. -/
def group? (cs : List Char) : Option Nat :=
  if cs.isEmpty ∨ 4 < cs.length then none else Digits.number? 16 cs

/-- A part of the IPv4 form at the end: decimal, without leading zeros. -/
def byte? (cs : List Char) : Option Nat :=
  match cs with
  | [] => none
  | ['0'] => some 0
  | '0' :: _ => none
  | cs =>
    match Digits.number? 10 cs with
    | some n => if n ≤ 255 then some n else none
    | none => none

/-- The two groups of an address in IPv4 form. -/
def ipv4Groups? (cs : List Char) : Option (List Nat) := do
  match ← (cs.splitOn '.').mapM byte? with
  | [a, b, c, d] => return [a * 256 + b, c * 256 + d]
  | _ => none

/-- Groups between colons; only the last may be in IPv4 form. -/
def groups? : List (List Char) → Option (List Nat)
  | [] => some []
  | [last] => if '.' ∈ last then ipv4Groups? last else (group? last).map ([·])
  | g :: gs => do return (← group? g) :: (← groups? gs)

/-- Splits at the first pair of colons. -/
def splitGap : List Char → Option (List Char × List Char)
  | ':' :: ':' :: rest => some ([], rest)
  | c :: rest => (splitGap rest).map fun (a, b) => (c :: a, b)
  | [] => none

/-- The groups of one side of the gap. -/
def side? (cs : List Char) : Option (List Nat) :=
  if cs.isEmpty then some [] else groups? (cs.splitOn ':')

/-- The eight groups of an address. -/
def parse (cs : List Char) : Except UrlError (List Nat) :=
  let found : Option (List Nat) :=
    match splitGap cs with
    | none => do
      let gs ← groups? (cs.splitOn ':')
      if gs.length = 8 then some gs else none
    | some (a, b) => do
      if '.' ∈ a then none
      else
        let left ← side? a
        let right ← side? b
        if left.length + right.length ≤ 7 then
          some (left ++ List.replicate (8 - left.length - right.length) 0 ++ right)
        else none
  match found with
  | some gs => .ok gs
  | none => .error .badIpv6

/-- The length of the run of zeros at the start. -/
def zeroRun (gs : List Nat) : Nat := (gs.takeWhile (· == 0)).length

/-- Start and length of the first longest run of zeros. -/
def longestRun : (i : Nat) → List Nat → Nat × Nat
  | _, [] => (0, 0)
  | i, g :: gs =>
    let here := zeroRun (g :: gs)
    let later := longestRun (i + 1) gs
    if later.2 ≤ here then (i, here) else later

def hexText (n : Nat) : String := String.ofList (Nat.toDigits 16 n)

def joinGroups (gs : List Nat) : String := String.intercalate ":" (gs.map hexText)

/-- Lower case groups; the first longest run of two zeros or more is left
out. -/
def text (gs : List Nat) : String :=
  let (start, run) := longestRun 0 gs
  if run < 2 then joinGroups gs
  else joinGroups (gs.take start) ++ "::" ++ joinGroups (gs.drop (start + run))

end Ipv6
end GraphCalls
