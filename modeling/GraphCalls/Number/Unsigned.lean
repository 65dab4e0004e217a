/-
Reading natural numbers of 64 bits.

Digits may follow one plus sign. They are read from left to right, and the
first thing that is wrong decides: a character that is no digit, or a number
that has grown too large.
-/
import GraphCalls.Number.Bounds

namespace GraphCalls

/-- Why a text is no such number. -/
inductive NumberFault where
  | empty
  | badDigit
  | tooLarge
deriving DecidableEq

def NumberFault.message : NumberFault → String
  | .empty => "cannot parse integer from empty string"
  | .badDigit => "invalid digit found in string"
  | .tooLarge => "number too large to fit in target type"

namespace Unsigned

/-- Reads digits onto a number. -/
def readDigits (n : Nat) : List Char → Except NumberFault Nat
  | [] => .ok n
  | c :: cs =>
    if c.isDigit then
      let n := 10 * n + (c.toNat - '0'.toNat)
      if n ≤ Bounds.maxUnsigned64 then readDigits n cs else .error .tooLarge
    else .error .badDigit

/-- The number that a text writes. -/
def parse (text : String) : Except NumberFault Nat :=
  match text.toList with
  | [] => .error .empty
  | ['+'] => .error .badDigit
  | '+' :: cs => readDigits 0 cs
  | cs => readDigits 0 cs

end Unsigned
end GraphCalls
