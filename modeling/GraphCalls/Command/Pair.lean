/-
Names and values given as one word, as in `name=value`.
-/
import GraphCalls.Command.Error
import GraphCalls.Json.Source

namespace GraphCalls
namespace Pair

/-- Splits a word at its first equals sign. -/
def split? (word : String) : Option (String × String) :=
  match word.toList.span (· != '=') with
  | (name, _ :: value) => some (String.ofList name, String.ofList value)
  | (_, []) => none

/-- Name and value of a word; the name must not be empty. -/
def parse (word : String) : Except CommandError (String × String) :=
  match split? word with
  | none => .error (.unpaired word)
  | some (name, value) => if name.isEmpty then .error (.unnamed word) else .ok (name, value)

/-- The value that a text stands for: what it holds as JSON, or else itself. -/
def valueOf (text : String) : Json :=
  match Json.ofText text with
  | .ok v => v
  | .error _ => .string text

/-- Name and value of an argument. -/
def argument (word : String) : Except CommandError (String × Json) := do
  let (name, text) ← parse word
  return (name, valueOf text)

end Pair
end GraphCalls
