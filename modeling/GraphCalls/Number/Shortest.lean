/-
Shortest decimal text of a binary64 number: the fewest digits that read back
as the same number, and of those the nearest to it.

A number stands for every real that rounds to it, an interval around it.
For one digit, two digits and so on, the two neighbours of the number on that
decimal grid are tested against the interval in exact arithmetic; the first
grid with a hit gives the digits.
-/
import GraphCalls.Number.Binary64
namespace GraphCalls
namespace Binary64

/-- The interval of reals that round to a positive number, as two fractions
over one denominator; its ends belong to it iff the significand is even. -/
structure Neighbourhood where
  low : Nat
  mid : Nat
  high : Nat
  scale : Nat
  closed : Bool

/-- Halfway to the next smaller number is closer where the exponent changes. -/
def neighbourhood (x : Binary64) : Neighbourhood :=
  let up := 1 <<< x.exponent.toNat
  let below := if x.significand = significandBound / 2 ∧ minExponent < x.exponent then 1 else 2
  { low := (4 * x.significand - below) * up
    mid := 4 * x.significand * up
    high := (4 * x.significand + 2) * up
    scale := 4 <<< (-x.exponent).toNat
    closed := x.significand % 2 == 0 }

/-- Whether `d * 10 ^ k` rounds to the number. -/
def Neighbourhood.contains (b : Neighbourhood) (d : Nat) (k : Int) : Bool :=
  let v := d * tenTo k * b.scale
  let t := tenTo (-k)
  if b.closed then b.low * t ≤ v && v ≤ b.high * t else b.low * t < v && v < b.high * t

/-- The least `j` from `i` on, within `fuel` steps, with `den ≤ num * 10 ^ j`. -/
def decimalShift (num den : Nat) : (fuel i : Nat) → Nat
  | 0, i => i
  | fuel + 1, i => if den ≤ num * tenTo i then i else decimalShift num den fuel (i + 1)

/-- The exponent of the leading decimal digit of `num / den`. -/
def leadingExponent (num den : Nat) : Int :=
  if den ≤ num then ((Nat.toDigits 10 (num / den)).length : Int) - 1
  else -(decimalShift num den (den.log2 + 1) 1 : Nat)

/-- The multiple of `10 ^ k` in the interval that is nearest to the number,
if the number's lower or upper neighbour on that grid is in it. A tie goes to
the even digit. -/
def Neighbourhood.hit (b : Neighbourhood) (k : Int) : Option Nat :=
  let num := b.mid * tenTo (-k)
  let den := b.scale * tenTo k
  let d := num / den
  let r := num % den
  match b.contains d k, b.contains (d + 1) k with
  | true, true => some (if 2 * r < den then d else if den < 2 * r then d + 1 else d + d % 2)
  | true, false => some d
  | false, true => some (d + 1)
  | false, false => none

/-- Searches the grids from `n` digits on. Seventeen digits always suffice. -/
def Neighbourhood.search (b : Neighbourhood) (lead : Int) : (fuel n : Nat) → Nat × Int
  | 0, n => let k := lead - n + 1; (b.mid * tenTo (-k) / (b.scale * tenTo k), k)
  | fuel + 1, n =>
    match b.hit (lead - n + 1) with
    | some d => (d, lead - n + 1)
    | none => b.search lead fuel (n + 1)

/-- Moves trailing zeros of `d` into the exponent. -/
def stripZeros : (fuel : Nat) → Nat → Int → Nat × Int
  | 0, d, k => (d, k)
  | fuel + 1, d, k => if d % 10 = 0 then stripZeros fuel (d / 10) (k + 1) else (d, k)

/-- The shortest decimal `d * 10 ^ k` of a number other than zero. -/
def shortest (x : Binary64) : Nat × Int :=
  let b := x.neighbourhood
  let (d, k) := b.search (leadingExponent x.ratio.1 x.ratio.2) 17 1
  stripZeros 20 d k

end Binary64
end GraphCalls
