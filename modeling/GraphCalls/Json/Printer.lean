/-
JSON text of a value.

The compact text has no blanks. The indented text puts every item and member
on a line of its own, two blanks deeper than its container, with a blank
after each colon; an empty array or object stays closed up. Members come out
in the order in which the value lists them. Strings are written raw but for
the quote, the backslash and control characters.
-/
import GraphCalls.Json.Basic
import GraphCalls.Number.Digits
import GraphCalls.Number.Shortest

namespace GraphCalls

namespace Number

/-- The digits of a natural number. -/
def natChars (n : Nat) : List Char := Nat.toDigits 10 n

def intChars (n : Int) : List Char :=
  if n < 0 then '-' :: natChars n.natAbs else natChars n.natAbs

/-- The text of the decimal `d * 10 ^ k`: positional from `1e-5` up to below
`1e16`, always with a point; with a signed exponent elsewhere. -/
def decimalChars (d : Nat) (k : Int) : List Char :=
  let ds := natChars d
  let point : Int := ds.length + k
  if 0 ≤ k ∧ point ≤ 16 then ds ++ List.replicate k.toNat '0' ++ ['.', '0']
  else if 0 < point ∧ point ≤ 16 then
    ds.take point.toNat ++ '.' :: ds.drop point.toNat
  else if -5 < point ∧ point ≤ 0 then
    '0' :: '.' :: (List.replicate (-point).toNat '0' ++ ds)
  else
    let e := point - 1
    let mantissa := match ds with
      | [] => []
      | [c] => [c]
      | c :: cs => c :: '.' :: cs
    mantissa ++ 'e' :: (if e < 0 then '-' else '+') :: natChars e.natAbs

/-- The shortest text that reads back as the number. -/
def floatChars (x : Binary64) : List Char :=
  let magnitude := if x.isZero then ['0', '.', '0'] else
    let (d, k) := x.shortest
    decimalChars d k
  if x.negative then '-' :: magnitude else magnitude

def chars : Number → List Char
  | .int n => intChars n
  | .float x => floatChars x

end Number

namespace Json

/-- How a character stands inside a quoted string. -/
def escapeChar (c : Char) : List Char :=
  match c with
  | '"' => ['\\', '"']
  | '\\' => ['\\', '\\']
  | '\n' => ['\\', 'n']
  | '\r' => ['\\', 'r']
  | '\t' => ['\\', 't']
  | '\x08' => ['\\', 'b']
  | '\x0c' => ['\\', 'f']
  | c =>
    if c.toNat < 0x20 then
      ['\\', 'u', '0', '0', Digits.lowerHex (c.toNat / 16), Digits.lowerHex c.toNat]
    else [c]

/-- A string between quotes. -/
def quote (s : String) : List Char :=
  '"' :: (s.toList.flatMap escapeChar ++ ['"'])

/-- The compact text of a value. -/
def chars : Json → List Char
  | .null => ['n', 'u', 'l', 'l']
  | .bool true => ['t', 'r', 'u', 'e']
  | .bool false => ['f', 'a', 'l', 's', 'e']
  | .number n => n.chars
  | .string s => quote s
  | .array [] => ['[', ']']
  | .array (x :: xs) => '[' :: (chars x ++ items xs)
  | .object [] => ['{', '}']
  | .object ((k, v) :: ms) => '{' :: (quote k ++ ':' :: (chars v ++ members ms))
where
  /-- Further items, up to the closing bracket. -/
  items : List Json → List Char
    | [] => [']']
    | x :: xs => ',' :: (chars x ++ items xs)
  /-- Further members, up to the closing brace. -/
  members : List (String × Json) → List Char
    | [] => ['}']
    | (k, v) :: ms => ',' :: (quote k ++ ':' :: (chars v ++ members ms))

/-- The start of a line at a given level. -/
def newline (level : Nat) : List Char := '\n' :: List.replicate (2 * level) ' '

/-- The indented text of a value that stands at a given level. -/
def indentedChars (level : Nat) : Json → List Char
  | .array (x :: xs) =>
    '[' :: (newline (level + 1) ++ (indentedChars (level + 1) x ++ items level xs))
  | .object ((k, v) :: ms) =>
    '{' :: (newline (level + 1) ++ (quote k ++ ':' :: ' ' ::
      (indentedChars (level + 1) v ++ members level ms)))
  | .null => ['n', 'u', 'l', 'l']
  | .bool true => ['t', 'r', 'u', 'e']
  | .bool false => ['f', 'a', 'l', 's', 'e']
  | .number n => n.chars
  | .string s => quote s
  | .array [] => ['[', ']']
  | .object [] => ['{', '}']
where
  items (level : Nat) : List Json → List Char
    | [] => newline level ++ [']']
    | x :: xs => ',' :: (newline (level + 1) ++ (indentedChars (level + 1) x ++ items level xs))
  members (level : Nat) : List (String × Json) → List Char
    | [] => newline level ++ ['}']
    | (k, v) :: ms =>
      ',' :: (newline (level + 1) ++ (quote k ++ ':' :: ' ' ::
        (indentedChars (level + 1) v ++ members level ms)))

/-- The compact text. -/
def compact (v : Json) : String := String.ofList v.chars

/-- The indented text. -/
def indented (v : Json) : String := String.ofList (v.indentedChars 0)

end Json
end GraphCalls
