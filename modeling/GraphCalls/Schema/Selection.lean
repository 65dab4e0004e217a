/-
Selections: trees of fields, and their text.

A node is a bare field, or a field with a body of its own. The text puts one
blank between neighbours and writes a body between braces with a blank inside
each; a node without any text is left out.
-/
namespace GraphCalls

/-- A field of a selection, with a body if it is to be expanded. -/
inductive SelectionNode where
  | leaf (name : String)
  | nested (name : String) (body : List SelectionNode)

namespace SelectionNode

/-- Joins the texts that are not empty by single blanks. -/
def joinTokens (ts : List String) : String :=
  String.intercalate " " (ts.filter (!·.isEmpty))

/-- The text of a node. -/
def text : SelectionNode → String
  | .leaf name => name
  | .nested name body => name ++ " \x7b " ++ joinTokens (texts body) ++ " \x7d"
where
  texts : List SelectionNode → List String
    | [] => []
    | n :: ns => text n :: texts ns

/-- The text of a body. -/
def bodyText (ns : List SelectionNode) : String := joinTokens (text.texts ns)

/-- The number of expanded fields in a body. -/
def expansions : List SelectionNode → Nat
  | [] => 0
  | .leaf _ :: ns => expansions ns
  | .nested _ body :: ns => expansions body + 1 + expansions ns

end SelectionNode
end GraphCalls
