/-
Percent encoding.

Each part of a URL has its own set of characters that it cannot hold; they
are written as their bytes in hexadecimal after percent signs. Control
characters and everything beyond ASCII are in every set.
-/
import GraphCalls.Number.Digits

namespace GraphCalls
namespace Percent

/-- Characters outside printable ASCII. -/
def inControls (c : Char) : Bool := c.toNat < 0x20 || 0x7E < c.toNat

def inFragment (c : Char) : Bool := inControls c || c ∈ [' ', '"', '<', '>', '\x60']

def inQuery (c : Char) : Bool := inControls c || c ∈ [' ', '"', '#', '<', '>']

/-- In web schemes a query cannot hold an apostrophe either. -/
def inSpecialQuery (c : Char) : Bool := inQuery c || c == '\''

def inPath (c : Char) : Bool := inFragment c || c ∈ ['#', '?', '{', '}']

def inUserinfo (c : Char) : Bool :=
  inPath c || c ∈ ['/', ':', ';', '=', '@', '[', '\\', ']', '^', '|']

/-- A byte after a percent sign. -/
def encodeByte (b : UInt8) : List Char :=
  ['%', Digits.upperHex (b.toNat / 16), Digits.upperHex (b.toNat % 16)]

/-- Text with the characters of a set encoded. -/
def encode (inSet : Char → Bool) (cs : List Char) : List Char :=
  cs.flatMap fun c => if inSet c then (String.utf8EncodeChar c).flatMap encodeByte else [c]

/-- The bytes of a text whose encoded bytes are read back; a percent sign
that no two digits follow stands for itself. -/
def decodeBytes : List Char → List UInt8
  | '%' :: a :: b :: rest =>
    match Digits.value? a, Digits.value? b with
    | some x, some y => UInt8.ofNat (16 * x + y) :: decodeBytes rest
    | _, _ => UInt8.ofNat '%'.toNat :: decodeBytes (a :: b :: rest)
  | c :: rest => String.utf8EncodeChar c ++ decodeBytes rest
  | [] => []

/-- The text of the decoded bytes, if they are UTF-8. -/
def decode (cs : List Char) : Option (List Char) :=
  (String.fromUTF8? (ByteArray.mk (decodeBytes cs).toArray)).map String.toList

end Percent
end GraphCalls
