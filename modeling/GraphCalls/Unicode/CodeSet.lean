/-
Sets of characters as runs of code points.

A text lists the runs in hexadecimal with blanks between them: `41-5A` is a
run with its ends, and `61` is a run of one.
-/
import GraphCalls.Number.Digits

namespace GraphCalls
namespace Unicode

/-- A run of code points. -/
structure CodeRun where
  first : Nat
  last : Nat
deriving DecidableEq

abbrev CodeSet := List CodeRun

/-- The words of a text: what stands between blanks and line breaks. -/
def words (text : String) : List (List Char) :=
  (text.toList.splitOnP fun c => c == ' ' || c == '\n').filter (!·.isEmpty)

/-- What stands before the first of a mark, and what after it. -/
def halves (mark : Char) (cs : List Char) : List Char × List Char :=
  (cs.takeWhile (· != mark), (cs.dropWhile (· != mark)).drop 1)

/-- The number that hexadecimal digits write. -/
def hex (cs : List Char) : Nat := (Digits.number? 16 cs).getD 0

namespace CodeRun

def contains (r : CodeRun) (c : Char) : Bool := r.first ≤ c.toNat && c.toNat ≤ r.last

def ofChars (cs : List Char) : CodeRun :=
  match halves '-' cs with
  | (a, []) => ⟨hex a, hex a⟩
  | (a, b) => ⟨hex a, hex b⟩

end CodeRun

namespace CodeSet

def ofText (text : String) : CodeSet := (words text).map CodeRun.ofChars

def contains (s : CodeSet) (c : Char) : Bool := s.any (·.contains c)

end CodeSet
end Unicode
end GraphCalls
