/-
Digits of numbers in bases up to sixteen.
-/
namespace GraphCalls
namespace Digits

/-- The value of a digit, letters in either case. -/
def value? (c : Char) : Option Nat :=
  if '0' ≤ c ∧ c ≤ '9' then some (c.toNat - '0'.toNat)
  else if 'a' ≤ c ∧ c ≤ 'f' then some (c.toNat - 'a'.toNat + 10)
  else if 'A' ≤ c ∧ c ≤ 'F' then some (c.toNat - 'A'.toNat + 10)
  else none

/-- The last digit of a number in base sixteen, letters in lower case. -/
def lowerHex (n : Nat) : Char := Nat.digitChar (n % 16)

/-- The last digit of a number in base sixteen, letters in upper case. -/
def upperHex (n : Nat) : Char := (lowerHex n).toUpper

/-- The number that digits of a base write; none if a character is no digit
of it. No digits at all write zero. -/
def number? (radix : Nat) (cs : List Char) : Option Nat :=
  cs.foldlM (fun n c =>
    match value? c with
    | some d => if d < radix then some (n * radix + d) else none
    | none => none) 0

end Digits
end GraphCalls
