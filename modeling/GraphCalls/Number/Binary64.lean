/-
Finite binary64 numbers in exact integer arithmetic.

A number is a sign, a significand and a power of two. Every operation is the
exact rational result rounded to the nearest representable number, ties to
the even significand; a result too large to represent is refused rather than
made infinite. Nothing here uses the machine's floating point, so the
numbers can be reasoned about as integers.
-/
namespace GraphCalls

/-- A finite binary64 number: `significand * 2 ^ exponent`, negated if
`negative`. Zero keeps its sign. -/
structure Binary64 where
  negative : Bool
  significand : Nat
  exponent : Int
deriving DecidableEq

namespace Binary64

/-- The exponent of the subnormal numbers, the least there is. -/
def minExponent : Int := -1074

/-- The exponent of the largest numbers. -/
def maxExponent : Int := 971

/-- Two to the power 53: significands of normal numbers run from half of this
up to this. -/
def significandBound : Nat := 9007199254740992

/-- A number is normalised when its significand fills 53 bits, or its
exponent is the least one. -/
def Normalised (x : Binary64) : Prop :=
  x.significand < significandBound ∧ minExponent ≤ x.exponent ∧ x.exponent ≤ maxExponent ∧
    (significandBound / 2 ≤ x.significand ∨ x.exponent = minExponent)

instance (x : Binary64) : Decidable x.Normalised := by
  unfold Normalised; infer_instance

/-- Zero with the given sign. -/
def zero (negative : Bool) : Binary64 := ⟨negative, 0, minExponent⟩

def isZero (x : Binary64) : Bool := x.significand == 0

/-- Whether two normalised numbers are equal: zeros are, whatever their
signs. -/
def equal (x y : Binary64) : Bool := x == y || (x.isZero && y.isZero)

theorem equal_self (x : Binary64) : x.equal x = true := by simp [equal]

theorem equal_comm (x y : Binary64) : x.equal y = y.equal x := by
  simp [equal, Bool.beq_comm, Bool.and_comm]

/-- `num / den` scaled down by `2 ^ e`, as a fraction. -/
def scaledFraction (num den : Nat) (e : Int) : Nat × Nat :=
  (num <<< (-e).toNat, den <<< e.toNat)

/-- The quotient of a fraction rounded to the nearest integer, a half going
to the even neighbour. -/
def roundHalfEven (num den : Nat) : Nat :=
  let q := num / den
  let r := num % den
  if 2 * r < den then q
  else if den < 2 * r then q + 1
  else q + q % 2

/-- The power of two whose multiples are the candidates for `num / den`: it
leaves 53 bits before the point, and is never below the subnormal one. -/
def gridExponent (num den : Nat) : Int :=
  let guess : Int := (num.log2 : Int) - (den.log2 : Int) - 53
  let f := scaledFraction num den guess
  max minExponent (if significandBound ≤ f.1 / f.2 then guess + 1 else guess)

/-- The number nearest to `num / den`; none if it is too large. -/
def ofRatio (negative : Bool) (num den : Nat) : Option Binary64 :=
  if num = 0 then some (zero negative)
  else
    let e := gridExponent num den
    let f := scaledFraction num den e
    let m := roundHalfEven f.1 f.2
    let x : Binary64 := if m < significandBound then ⟨negative, m, e⟩
      else ⟨negative, significandBound / 2, e + 1⟩
    if x.exponent ≤ maxExponent then some x else none

/-- The magnitude as a fraction. -/
def ratio (x : Binary64) : Nat × Nat :=
  (x.significand <<< x.exponent.toNat, 1 <<< (-x.exponent).toNat)

def neg (x : Binary64) : Binary64 := { x with negative := !x.negative }

/-- The product, rounded; none if it is too large. -/
def mul (x y : Binary64) : Option Binary64 :=
  ofRatio (x.negative != y.negative) (x.ratio.1 * y.ratio.1) (x.ratio.2 * y.ratio.2)

/-- The quotient by a number other than zero, rounded; none if it is too
large. -/
def div (x y : Binary64) : Option Binary64 :=
  ofRatio (x.negative != y.negative) (x.ratio.1 * y.ratio.2) (x.ratio.2 * y.ratio.1)

/-- A power of ten; one for exponents below zero. -/
def tenTo (k : Int) : Nat := Nat.pow 10 k.toNat

/-- The number nearest to a power of ten, for powers up to `10 ^ 308`. -/
def powerOfTen (n : Nat) : Option Binary64 := ofRatio false (tenTo n) 1

/-- The largest power of ten that is representable. -/
def maxPowerOfTen : Nat := 308

/-- Scales a number by a power of ten in representable steps: one
multiplication or division by a rounded power where `10 ^ |n|` is
representable, and before that divisions by `10 ^ 308` for smaller powers.
A result too large is refused. Each step rounds, so the outcome may differ
in its last bits from the nearest number to the decimal. -/
def scaleByTen (x : Binary64) (n : Int) : Option Binary64 :=
  if n.natAbs ≤ maxPowerOfTen then
    (powerOfTen n.natAbs).bind fun p => if 0 ≤ n then x.mul p else x.div p
  else if x.isZero then some x
  else if 0 ≤ n then none
  else ((powerOfTen maxPowerOfTen).bind x.div).bind fun y => scaleByTen y (n + maxPowerOfTen)
termination_by n.natAbs
decreasing_by
  simp only [maxPowerOfTen] at *
  omega

end Binary64
end GraphCalls
