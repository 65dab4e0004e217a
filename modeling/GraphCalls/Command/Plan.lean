/-
Plans: the batch of one call that a command spells out, or of the calls that
a file lists.
-/
import GraphCalls.Call.Operation
import GraphCalls.Command.Pair
import GraphCalls.Json.Reader

namespace GraphCalls

/-- The kind of operation of a command. -/
def OperationKind.ofFlag (mutation : Bool) : OperationKind := if mutation then .mutation else .query

/-- A call as it is spelled out on a command line. -/
structure CallWords where
  field : String
  args : List String
  /-- The field's name if there is none. -/
  aliasName : Option String
  selection : Option String
deriving DecidableEq

/-- A call in a batch file. -/
structure BatchEntry where
  field : String
  args : Entries Json
  selection : Option String
deriving DecidableEq

namespace BatchEntry

structure Draft where
  field : Option String := none
  args : Option (Entries Json) := none
  selection : Option (Option String) := none

/-- The field must be there; arguments and selection may be left out. -/
def record : Record Draft BatchEntry where
  fields := [
    .of "field" false .string Draft.field fun s d => { d with field := some s },
    .of "args" true (.entries .json) Draft.args fun es d => { d with args := some es },
    .of "selection" false (.option .string) Draft.selection
      fun s d => { d with selection := some s }]
  empty := {}
  keep := none
  finish d := do return ⟨← d.field, d.args.getD [], d.selection.join⟩

/-- The entries of a batch file, by alias and in order. -/
def ofText (text : String) : Except ReadError (Entries BatchEntry) :=
  (Reader.entries record.reader).ofText text

end BatchEntry

namespace Plan

/-- The batch of a single call. -/
def ofCall (r : Registry) (kind : OperationKind) (w : CallWords) : Except CommandError Batch := do
  let args ← w.args.mapM Pair.argument
  let d ← (Draft.start r kind).mapError .call
  let d ← (d.add (w.aliasName.getD w.field) w.field args w.selection).mapError .call
  return d.batch

/-- The batch of the entries of a file. -/
def ofEntries (r : Registry) (kind : OperationKind) (es : Entries BatchEntry) :
    Except CommandError Batch := do
  let d ← (Draft.start r kind).mapError .call
  let d ← es.foldlM (fun d (aliasName, e) =>
    (d.add aliasName e.field e.args e.selection).mapError .call) d
  return d.batch

end Plan
end GraphCalls
