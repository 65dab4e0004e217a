/-
Splitting TOML text into tokens.

A machine goes through the text character by character. Its mode says what
the next character is inside of; a step gives the tokens that the character
completes, which are at most the one before it and itself. What a run of
letters and digits means depends on where it stands, so the machine keeps it
as it is.
-/
import GraphCalls.Number.Digits

namespace GraphCalls
namespace Toml

/-- A token of TOML text. Comments leave none. -/
inductive Token where
  /-- A run of characters that make keys, numbers, dates and the like. -/
  | bare (text : List Char)
  | string (multiline : Bool) (text : String)
  | dot
  | equals
  | comma
  | openBracket
  | closeBracket
  | openBrace
  | closeBrace
  | newline
  | blank (c : Char)
deriving DecidableEq

/-- The two kinds of strings: those with escapes, and those without. -/
inductive Quote where
  | basic
  | literal
deriving DecidableEq

def Quote.mark : Quote → Char
  | .basic => '"'
  | .literal => '\''

namespace Token

/-- What the machine is inside of. Text read so far is in reverse. -/
inductive Mode where
  | between
  | bare (text : List Char)
  | comment
  /-- After one mark: a string, or the first of three. -/
  | opened (q : Quote)
  /-- After two marks: an empty string, or the start of a block. -/
  | openedTwice (q : Quote)
  /-- In a string that ends with its line. -/
  | line (q : Quote) (text : List Char)
  /-- Right after three marks, where a line break does not count. -/
  | blockStart (q : Quote)
  /-- In a string of many lines, after a number of marks in a row. -/
  | block (q : Quote) (text : List Char) (marks : Nat)
  /-- After a backslash. -/
  | escape (multiline : Bool) (text : List Char)
  /-- In the digits of an escape: how many are left, and their value so far. -/
  | code (multiline : Bool) (text : List Char) (left value : Nat)
  /-- After a backslash at the end of a line: blanks are skipped, and line
  breaks, of which there must be one. -/
  | joined (text : List Char) (broken : Bool)

abbrev Step := Option (List Token × Mode)

def isBareChar (c : Char) : Bool := c.isAlphanum || c == '_' || c == '-' || c == '+' || c == ':'

/-- Characters that a string may hold as they are. -/
def isPlain (c : Char) : Bool := c == '\t' || (0x20 ≤ c.toNat && c.toNat != 0x7F)

/-- The characters of line breaks. -/
def isBreak (c : Char) : Bool := c == '\n' || c == '\r'

/-- A character between tokens. -/
def start (c : Char) : Step :=
  match c with
  | '\n' => some ([.newline], .between)
  | '\r' => some ([], .between)
  | ' ' | '\t' => some ([.blank c], .between)
  | '#' => some ([], .comment)
  | '"' => some ([], .opened .basic)
  | '\'' => some ([], .opened .literal)
  | '.' => some ([.dot], .between)
  | '=' => some ([.equals], .between)
  | ',' => some ([.comma], .between)
  | '[' => some ([.openBracket], .between)
  | ']' => some ([.closeBracket], .between)
  | '{' => some ([.openBrace], .between)
  | '}' => some ([.closeBrace], .between)
  | c => if isBareChar c then some ([], .bare [c]) else none

/-- A character after a token that it completes. -/
def startAfter (t : Token) (c : Char) : Step := (start c).map fun (ts, m) => (t :: ts, m)

def stringToken (multiline : Bool) (text : List Char) : Token :=
  .string multiline (String.ofList text.reverse)

/-- A character in a string that ends with its line. -/
def inLine (q : Quote) (text : List Char) (c : Char) : Step :=
  if c = q.mark then some ([stringToken false text], .between)
  else if q = .basic ∧ c = '\\' then some ([], .escape false text)
  else if isPlain c then some ([], .line q (c :: text))
  else none

/-- A character in a string of many lines. Three marks end it; up to two more
right before them belong to it. -/
def inBlock (q : Quote) (text : List Char) (marks : Nat) (c : Char) : Step :=
  if c = q.mark then
    if marks < 4 then some ([], .block q text (marks + 1))
    else some ([stringToken true (q.mark :: q.mark :: text)], .between)
  else if 3 ≤ marks then
    startAfter (stringToken true (List.replicate (marks - 3) q.mark ++ text)) c
  else
    let text := List.replicate marks q.mark ++ text
    if q = .basic ∧ c = '\\' then some ([], .escape true text)
    else if isBreak c ∨ isPlain c then some ([], .block q (c :: text) 0)
    else none

/-- Back in a string with escapes. -/
def resume (multiline : Bool) (text : List Char) : Mode :=
  if multiline then .block .basic text 0 else .line .basic text

/-- The character that a one letter escape stands for. -/
def escaped? : Char → Option Char
  | '"' => some '"'
  | '\\' => some '\\'
  | 'b' => some '\x08'
  | 't' => some '\t'
  | 'n' => some '\n'
  | 'f' => some '\x0c'
  | 'r' => some '\r'
  | 'e' => some '\x1b'
  | _ => none

/-- A character after a backslash. -/
def inEscape (multiline : Bool) (text : List Char) (c : Char) : Step :=
  match escaped? c with
  | some e => some ([], resume multiline (e :: text))
  | none =>
    if c = 'x' then some ([], .code multiline text 2 0)
    else if c = 'u' then some ([], .code multiline text 4 0)
    else if c = 'U' then some ([], .code multiline text 8 0)
    else if multiline ∧ (c = ' ' ∨ c = '\t' ∨ isBreak c) then some ([], .joined text (isBreak c))
    else none

/-- A digit of an escape; the last completes it. -/
def inCode (multiline : Bool) (text : List Char) (left value : Nat) (c : Char) : Step :=
  match Digits.value? c with
  | none => none
  | some d =>
    let value := 16 * value + d
    if 1 < left then some ([], .code multiline text (left - 1) value)
    else if value.isValidChar then some ([], resume multiline (Char.ofNat value :: text))
    else none

def step (m : Mode) (c : Char) : Step :=
  match m with
  | .between => start c
  | .bare text =>
    if isBareChar c then some ([], .bare (c :: text)) else startAfter (.bare text.reverse) c
  | .comment => if isBreak c then start c else if isPlain c then some ([], .comment) else none
  | .opened q => if c = q.mark then some ([], .openedTwice q) else inLine q [] c
  | .openedTwice q =>
    if c = q.mark then some ([], .blockStart q) else startAfter (stringToken false []) c
  | .line q text => inLine q text c
  | .blockStart q =>
    if c = '\r' then some ([], .blockStart q)
    else if c = '\n' then some ([], .block q [] 0)
    else inBlock q [] 0 c
  | .block q text marks => inBlock q text marks c
  | .escape multiline text => inEscape multiline text c
  | .code multiline text left value => inCode multiline text left value c
  | .joined text broken =>
    if c = ' ' ∨ c = '\t' then some ([], .joined text broken)
    else if isBreak c then some ([], .joined text true)
    else if broken then inBlock .basic text 0 c
    else none

/-- The token that the end of the text completes. -/
def finish : Mode → Option (List Token)
  | .between | .comment => some []
  | .bare text => some [.bare text.reverse]
  | .openedTwice _ => some [stringToken false []]
  | .block q text marks =>
    if 3 ≤ marks then some [stringToken true (List.replicate (marks - 3) q.mark ++ text)] else none
  | _ => none

/-- The tokens of a text that starts in some mode. -/
def run (m : Mode) : List Char → Option (List Token)
  | [] => finish m
  | c :: cs => do
    let (ts, m) ← step m c
    let rest ← run m cs
    return ts ++ rest

/-- Whether every carriage return stands before a line feed. -/
def hasWholeBreaks : List Char → Bool
  | '\r' :: '\n' :: cs => hasWholeBreaks cs
  | c :: cs => c != '\r' && hasWholeBreaks cs
  | [] => true

/-- Text without the mark that may stand at its start. -/
def withoutMark : List Char → List Char
  | '\ufeff' :: cs => cs
  | cs => cs

/-- The tokens of a text; none if some character cannot stand where it is. -/
def ofText? (text : String) : Option (List Token) :=
  if hasWholeBreaks text.toList then run .between (withoutMark text.toList) else none

end Token
end Toml
end GraphCalls
