/-
Colored words.

Words are colored on a terminal, unless the environment declines; and
elsewhere if it insists.
-/
namespace GraphCalls

inductive Color where
  | red
  | green
  | yellow
  | cyan
deriving DecidableEq

def Color.code : Color → Nat
  | .red => 31
  | .green => 32
  | .yellow => 33
  | .cyan => 36

/-- Whether words are colored. -/
structure Paint where
  colored : Bool
deriving DecidableEq

namespace Paint

/-- Whether words are colored where output goes to a terminal or not. To
insist comes before to decline. -/
def ofEnvironment (terminal : Bool) (env : String → Option String) : Paint :=
  if (env "CLICOLOR_FORCE").any (· != "0") then ⟨true⟩
  else if (env "NO_COLOR").isSome then ⟨false⟩
  else ⟨terminal && (env "CLICOLOR").all (· != "0")⟩

/-- A word in a color, after which the terminal goes back to its own. -/
def word (p : Paint) (c : Color) (s : String) : String :=
  if p.colored then "\x1b[" ++ toString c.code ++ "m" ++ s ++ "\x1b[0m" else s

end Paint
end GraphCalls
