/-
Punycode: text beyond ASCII written in ASCII letters and digits.

The basic characters come first, then a hyphen, then for each other character
how far it lies from the one before, as a number of variable length. The
threshold that ends a number follows a bias that adapts to the numbers seen.
-/
namespace GraphCalls
namespace Punycode

def base : Nat := 36

def tmin : Nat := 1

def tmax : Nat := 26

def skew : Nat := 38

def damp : Nat := 700

def initialBias : Nat := 72

def initialCode : Nat := 128

/-- Divides until the number is small, counting the digits that this takes. -/
def reduce (delta k : Nat) : Nat × Nat :=
  if ((base - tmin) * tmax) / 2 < delta then reduce (delta / (base - tmin)) (k + base)
  else (delta, k)
termination_by delta
decreasing_by
  simp only [base, tmin, tmax] at *
  omega

/-- The bias after a number for one of `count` characters. -/
def adapt (delta count : Nat) (first : Bool) : Nat :=
  let delta := if first then delta / damp else delta / 2
  let (delta, k) := reduce (delta + delta / count) 0
  k + (base - tmin + 1) * delta / (delta + skew)

/-- The threshold of the digit at position `k`. -/
def threshold (k bias : Nat) : Nat :=
  if k ≤ bias + tmin then tmin else if bias + tmax ≤ k then tmax else k - bias

def digitChar (d : Nat) : Char :=
  if d < 26 then Char.ofNat ('a'.toNat + d) else Char.ofNat ('0'.toNat + (d - 26))

def digitValue? (c : Char) : Option Nat :=
  if 'a' ≤ c ∧ c ≤ 'z' then some (c.toNat - 'a'.toNat)
  else if 'A' ≤ c ∧ c ≤ 'Z' then some (c.toNat - 'A'.toNat)
  else if '0' ≤ c ∧ c ≤ '9' then some (c.toNat - '0'.toNat + 26)
  else none

/-- A number of variable length; `fuel` bounds its digits. -/
def encodeNumber (bias : Nat) : (fuel q k : Nat) → List Char
  | 0, _, _ => []
  | fuel + 1, q, k =>
    let t := threshold k bias
    if q < t then [digitChar q]
    else digitChar (t + (q - t) % (base - t)) ::
      encodeNumber bias fuel ((q - t) / (base - t)) (k + base)

/-- The state between two code points. -/
structure State where
  delta : Nat
  bias : Nat
  handled : Nat
  out : List Char

/-- One pass over the text for the code point `n`. -/
def encodePass (n basic : Nat) (s : State) : List Nat → State
  | [] => s
  | c :: cs =>
    if c < n then encodePass n basic { s with delta := s.delta + 1 } cs
    else if c = n then
      encodePass n basic
        { delta := 0
          bias := adapt s.delta (s.handled + 1) (s.handled == basic)
          handled := s.handled + 1
          out := s.out ++ encodeNumber s.bias (s.delta + 1) s.delta base } cs
    else encodePass n basic s cs

/-- The code points from `n` on in increasing order, one pass for each. -/
def encodeFrom (text : List Nat) (basic : Nat) : (points : List Nat) → (n : Nat) → State → State
  | [], _, s => s
  | m :: points, n, s =>
    let s := { s with delta := s.delta + (m - n) * (s.handled + 1) }
    let s := encodePass m basic s text
    encodeFrom text basic points (m + 1) { s with delta := s.delta + 1 }

/-- The different code points beyond ASCII, in increasing order. -/
def extendedPoints (text : List Nat) : List Nat :=
  ((text.filter (initialCode ≤ ·)).mergeSort (· ≤ ·)).eraseReps

/-- The ASCII form of a text. -/
def encode (text : List Char) : List Char :=
  let points := text.map Char.toNat
  let basic := text.filter (·.toNat < initialCode)
  let start := if basic.isEmpty then [] else basic ++ ['-']
  (encodeFrom points basic.length (extendedPoints points) initialCode
    ⟨0, initialBias, basic.length, start⟩).out

/-- A number of variable length and the text after it. -/
def decodeNumber (bias : Nat) : (cs : List Char) → (i w k : Nat) → Option (Nat × List Char)
  | [], _, _, _ => none
  | c :: cs, i, w, k => do
    let d ← digitValue? c
    let i := i + d * w
    let t := threshold k bias
    if d < t then return (i, cs) else decodeNumber bias cs i (w * (base - t)) (k + base)

/-- Reads numbers and inserts their characters; `fuel` bounds how many. -/
def decodeFrom : (fuel : Nat) → (cs : List Char) → (n i bias : Nat) → List Nat → Option (List Nat)
  | _, [], _, _, _, out => some out
  | 0, _ :: _, _, _, _, _ => none
  | fuel + 1, cs, n, i, bias, out => do
    let (j, rest) ← decodeNumber bias cs i 1 base
    let count := out.length + 1
    let n := n + j / count
    if 0x10FFFF < n ∨ (0xD800 ≤ n ∧ n ≤ 0xDFFF) then none
    else
      let at_ := j % count
      decodeFrom fuel rest n (at_ + 1) (adapt (j - i) count (i == 0))
        (out.take at_ ++ n :: out.drop at_)

/-- Splits at the last hyphen. -/
def splitLastHyphen (cs : List Char) : List Char × List Char :=
  match (cs.reverse.span (· != '-')) with
  | (after, '-' :: before) => (before.reverse, after.reverse)
  | (_, _) => ([], cs)

/-- The text of an ASCII form. -/
def decode (cs : List Char) : Option (List Char) := do
  let (basic, extended) := splitLastHyphen cs
  if basic.any (initialCode ≤ ·.toNat) then none
  else
    let points ← decodeFrom (extended.length + 1) extended initialCode 0 initialBias
      (basic.map Char.toNat)
    return points.map Char.ofNat

end Punycode
end GraphCalls
