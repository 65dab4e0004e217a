/-
Domain names in their ASCII form.

What the characters of a name stand for is put in composed form. Each label
that has characters beyond ASCII is written in Punycode behind `xn--`, and a
label that comes so already must decode to such characters. No label starts
with a mark, and joiners stand only where they change how letters are drawn.
If some label runs from right to left, every label must keep its order.
-/
import GraphCalls.Unicode.Composition
import GraphCalls.Unicode.Direction
import GraphCalls.Unicode.Joining
import GraphCalls.Unicode.NameForm
import GraphCalls.Url.Punycode

namespace GraphCalls
namespace Domain

/-- ASCII characters that no domain name may hold. -/
def forbidden (c : Char) : Bool :=
  c.toNat ≤ 0x20 || c.toNat == 0x7F ||
    c ∈ ['%', '#', '/', ':', '<', '>', '?', '@', '[', '\\', ']', '^', '|']

def isAscii (c : Char) : Bool := c.toNat < 0x80

/-- Splits at every dot. -/
def labels (cs : List Char) : List (List Char) := cs.splitOn '.'

/-- Labels with dots between them. -/
def joinLabels (ls : List (List Char)) : List Char := ['.'].intercalate ls

def encodedMark : List Char := ['x', 'n', '-', '-']

/-- The characters that a label may have to be encoded. -/
def maxDecoded : Nat := 1000

/-- The characters that an encoded label may have to be decoded. -/
def maxEncoded : Nat := 2000

/-! ## What labels must keep to -/

def isNonJoiner (c : Char) : Bool := c.toNat == 0x200C

def isJoiner (c : Char) : Bool := c.toNat == 0x200D

/-- Whether every joiner is in its place. Both kinds may follow the sign that
takes a vowel away, and a non-joiner may keep apart letters that would join.
The characters before are given from the last to the first. -/
def joinersFit (before : List Char) : List Char → Bool
  | [] => true
  | c :: cs =>
    (!(isNonJoiner c || isJoiner c) ||
      before.head?.any (fun b => Unicode.combiningClass b == Unicode.viramaClass) ||
      (isNonJoiner c && Unicode.wouldJoin before cs)) &&
    joinersFit (c :: before) cs

/-- Whether a label beyond ASCII is in order. -/
def isOrderly (cs : List Char) : Bool := !cs.head?.any Unicode.isMark && joinersFit [] cs

/-- Whether labels keep their order beside each other. All of ASCII runs from
left to right. -/
def directionsFit (ls : List (List Char)) : Bool :=
  let directions := ls.map (·.map Unicode.direction)
  ls.all (·.all isAscii) || !directions.any (·.any Unicode.Direction.isRightToLeft) ||
    directions.all Unicode.Direction.isOrdered

/-! ## Labels -/

/-- A label: its text, and how it is written in ASCII. -/
structure Label where
  text : List Char
  ascii : List Char
deriving DecidableEq

/-- The label of encoded text from after the mark. It must be what encoding
its own text gives. -/
def decodeLabel (cs : List Char) : Option Label :=
  if maxEncoded < cs.length then none
  else
    match Punycode.decode cs with
    | some text =>
      if !text.all isAscii && isOrderly text && Punycode.encode text == cs &&
          text.all (fun c => Unicode.nameForm c == some [c]) && Unicode.compose text == text then
        some ⟨text, encodedMark ++ cs⟩
      else none
    | none => none

/-- The label of a text in its composed form. -/
def readLabel (cs : List Char) : Option Label :=
  if cs.all isAscii then
    if encodedMark.isPrefixOf cs then decodeLabel (cs.drop 4) else some ⟨cs, cs⟩
  else if isOrderly cs && !encodedMark.isPrefixOf cs && decide (cs.length ≤ maxDecoded) then
    some ⟨cs, encodedMark ++ Punycode.encode cs⟩
  else none

/-! ## Names -/

/-- What the characters of a name stand for, in composed form; none if one of
them cannot stand in a name. -/
def nameForm (cs : List Char) : Option (List Char) :=
  if cs.all isAscii then some (cs.map Char.toLower)
  else (cs.mapM Unicode.nameForm).map fun parts => Unicode.compose parts.flatten

/-- The ASCII form of a name. -/
def toAscii (cs : List Char) : Option (List Char) := do
  let ls ← (labels (← nameForm cs)).mapM readLabel
  let name := joinLabels (ls.map Label.ascii)
  if name.any forbidden || !directionsFit (ls.map Label.text) then none else some name

end Domain
end GraphCalls
