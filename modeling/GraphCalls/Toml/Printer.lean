/-
Writing TOML.

A document is a list of sections: a header with the table's path, and one
line for each of its own settings. A string stands on one line between double
quotes if that needs no escapes; else between single quotes; else as a string
of many lines, again without escapes if it can be.
-/
import GraphCalls.Number.Digits
import GraphCalls.Toml.Basic

namespace GraphCalls
namespace Toml

/-! ## Strings -/

/-- The longest run of a character. -/
def longestRun (c : Char) (cs : List Char) : Nat :=
  (cs.foldl (fun (best, run) d => if d = c then (max best (run + 1), run + 1) else (best, 0))
    (0, 0)).1

/-- Characters that stand in a string only as escapes. -/
def isControl (c : Char) : Bool :=
  (c.toNat < 0x20 && c != '\t' && c != '\n') || c.toNat == 0x7F

def unicodeEscape (n : Nat) : List Char :=
  ['\\', 'u', '0', '0', Digits.upperHex (n / 16), Digits.upperHex n]

/-- A character between double quotes. -/
def escapeChar (c : Char) : List Char :=
  match c with
  | '\x08' => ['\\', 'b']
  | '\t' => ['\\', 't']
  | '\n' => ['\\', 'n']
  | '\x0c' => ['\\', 'f']
  | '\r' => ['\\', 'r']
  | '"' => ['\\', '"']
  | '\\' => ['\\', '\\']
  | c => if isControl c then unicodeEscape c.toNat else [c]

def basic (cs : List Char) : List Char := '"' :: (cs.flatMap escapeChar ++ ['"'])

/-- Characters of a string of many lines, after a number of double quotes in
a row: line breaks stand as they are, and of three quotes the third is
escaped. -/
def blockChars : Nat → List Char → List Char
  | _, [] => []
  | quotes, c :: cs =>
    if c = '\n' then c :: blockChars 0 cs
    else if c = '"' ∧ quotes < 2 then c :: blockChars (quotes + 1) cs
    else escapeChar c ++ blockChars 0 cs

/-- A line break that does not count, before text that has others. -/
def leadingBreak (cs : List Char) : List Char := if '\n' ∈ cs then ['\n'] else []

def basicBlock (cs : List Char) : List Char :=
  ['"', '"', '"'] ++ leadingBreak cs ++ blockChars 0 cs ++ ['"', '"', '"']

def literal (cs : List Char) : List Char := '\'' :: (cs ++ ['\''])

def literalBlock (cs : List Char) : List Char :=
  ['\'', '\'', '\''] ++ leadingBreak cs ++ cs ++ ['\'', '\'', '\'']

/-- A string as a value. -/
def stringChars (cs : List Char) : List Char :=
  let controls := cs.any isControl
  let breaks := decide ('\n' ∈ cs)
  let backslash := decide ('\\' ∈ cs)
  let doubles := longestRun '"' cs
  let singles := longestRun '\'' cs
  if !controls && !breaks && !backslash && doubles = 0 then basic cs
  else if !controls && !breaks && singles = 0 then literal cs
  else if !controls && !backslash && doubles ≤ 2 then basicBlock cs
  else if !controls && singles ≤ 2 then literalBlock cs
  else if breaks then basicBlock cs
  else basic cs

/-- A key; it stands without quotes if it can. -/
def keyChars (key : String) : List Char :=
  let cs := key.toList
  let controls := cs.any isControl || decide ('\n' ∈ cs)
  if !cs.isEmpty && cs.all isKeyChar then cs
  else if !controls && decide ('\\' ∉ cs) && longestRun '"' cs = 0 then basic cs
  else if !controls && longestRun '\'' cs = 0 then literal cs
  else basic cs

/-! ## Sections -/

/-- What a setting is set to. -/
inductive Setting where
  | string (value : String)
  | integer (value : Int)
deriving DecidableEq

/-- A table with its own settings, in order. -/
structure Section where
  path : List String
  settings : List (String × Setting)
deriving DecidableEq

def Setting.chars : Setting → List Char
  | .string s => stringChars s.toList
  | .integer n => (toString n).toList

namespace Section

/-- The header; the outermost table has none. -/
def headerChars (path : List String) : List Char :=
  if path.isEmpty then []
  else '[' :: (['.'].intercalate (path.map keyChars) ++ [']', '\n'])

def settingChars (s : String × Setting) : List Char :=
  keyChars s.1 ++ [' ', '=', ' '] ++ s.2.chars ++ ['\n']

def chars (s : Section) : List Char := headerChars s.path ++ s.settings.flatMap settingChars

end Section

/-- The text of sections, with an empty line between two. -/
def textOf (sections : List Section) : String :=
  String.ofList (['\n'].intercalate ((sections.map Section.chars).filter (!·.isEmpty)))

end Toml
end GraphCalls
