/-
Reading TOML.

The tokens of a text are gathered into groups by their brackets and braces.
Outside of groups a text is a list of lines, each empty, a header or an
assignment; inside of one, commas divide. A group that is not closed, or is
closed by the wrong sign, makes no text.
-/
import GraphCalls.Toml.Layout
import GraphCalls.Toml.Scalar
import GraphCalls.Toml.Token

namespace GraphCalls
namespace Toml

/-- A token, or what stands between brackets or braces. -/
inductive Group where
  | token (t : Token)
  | brackets (inner : List Group)
  | braces (inner : List Group)

namespace Group

/-- Gathers tokens. The groups around the present one, the innermost first,
are given by their kind, brackets if true, and their content so far. -/
def gather : List (Bool × List Group) → List Group → List Token → Option (List Group)
  | [], acc, [] => some acc.reverse
  | _ :: _, _, [] => none
  | outer, acc, .openBracket :: ts => gather ((true, acc) :: outer) [] ts
  | outer, acc, .openBrace :: ts => gather ((false, acc) :: outer) [] ts
  | (true, before) :: outer, acc, .closeBracket :: ts =>
    gather outer (.brackets acc.reverse :: before) ts
  | (false, before) :: outer, acc, .closeBrace :: ts =>
    gather outer (.braces acc.reverse :: before) ts
  | _, _, .closeBracket :: _ | _, _, .closeBrace :: _ => none
  | outer, acc, t :: ts => gather outer (.token t :: acc) ts

def isBlank : Group → Bool
  | .token (.blank _) => true
  | _ => false

/-- Blanks and line breaks. -/
def isSpace : Group → Bool
  | .token .newline => true
  | g => g.isBlank

def isToken (t : Token) : Group → Bool
  | .token u => u == t
  | _ => false

/-- Groups without those of a kind at both ends. -/
def trim (p : Group → Bool) (gs : List Group) : List Group :=
  ((gs.dropWhile p).reverse.dropWhile p).reverse

/-- The parts between the groups of a kind. -/
def divide (p : Group → Bool) : List Group → List (List Group)
  | [] => [[]]
  | g :: gs =>
    match divide p gs with
    | [] => [[]]
    | part :: parts => if p g then [] :: part :: parts else (g :: part) :: parts

/-- The items that commas divide. A comma may stand after the last one. -/
def items (gs : List Group) : List (List Group) :=
  let parts := (divide (isToken .comma) gs).map (trim isSpace)
  match parts.getLast? with
  | some [] => parts.dropLast
  | _ => parts

/-! ## Keys -/

/-- One part of a key. -/
def key? : Group → Option String
  | .token (.bare text) => if text.all isKeyChar then some (String.ofList text) else none
  | .token (.string false text) => some text
  | _ => none

/-- Keys with dots between them. -/
def path? : List Group → Option (List String)
  | [] => none
  | [g] => (key? g).map ([·])
  | g :: d :: gs => if isToken .dot d then do return (← key? g) :: (← path? gs) else none

/-- The levels of arrays and inline tables that a value may have, and the
parts of a key. -/
def maxDepth : Nat := 80

/-- A key whose parts may have blanks around them. -/
def keyPath? (gs : List Group) : Option (List String) :=
  (path? (gs.filter (!isBlank ·))).filter fun path => path.length ≤ maxDepth

/-- Key and value text of an assignment. -/
def assignment? (gs : List Group) : Option (List String × List Group) :=
  match gs.span (!isToken .equals ·) with
  | (key, _ :: value) => (keyPath? (trim isSpace key)).map (·, trim isSpace value)
  | (_, []) => none

/-! ## Values -/

/-- The text of a group that may be part of a value without quotes. -/
def bareChars? : Group → Option (List Char)
  | .token (.bare text) => some text
  | .token .dot => some ['.']
  | .token (.blank c) => some [c]
  | _ => none

/-- The value that groups write, if it has at most some number of levels. -/
def value? : (depth : Nat) → List Group → Option Toml
  | _, [.token (.string _ s)] => some (.string s)
  | 0, [.brackets _] | 0, [.braces _] => none
  | depth + 1, [.brackets inner] => ((items inner).mapM (value? depth)).map .array
  | depth + 1, [.braces inner] => do
    let es ← (items inner).foldlM (fun (es : Layout) item => do
      let (path, v) ← assignment? item
      es.assign (← value? depth v) path) []
    return es.toToml
  | _, gs => (gs.mapM bareChars?).bind fun cs => Scalar.ofChars? cs.flatten

/-! ## Lines -/

/-- The table that lines fill, and the path of the header above them. -/
structure Progress where
  header : List String
  root : Layout

/-- What a line does to the tables. -/
def Progress.line (p : Progress) (gs : List Group) : Option Progress :=
  match trim isBlank gs with
  | [] => some p
  | [.brackets [.brackets key]] => do
    let path ← keyPath? key
    return ⟨path, ← p.root.declare Layout.addTable path⟩
  | [.brackets key] => do
    let path ← keyPath? key
    return ⟨path, ← p.root.declare Layout.openTable path⟩
  | gs => do
    let (path, text) ← assignment? gs
    let v ← value? maxDepth text
    return ⟨p.header, ← p.root.within (Layout.assign v path) p.header⟩

end Group

/-- The table that a text writes. -/
def ofText? (text : String) : Option Toml := do
  let gs ← Group.gather [] [] (← Token.ofText? text)
  let p ← (Group.divide (Group.isToken .newline) gs).foldlM Group.Progress.line ⟨[], []⟩
  return p.root.toToml

end Toml
end GraphCalls
