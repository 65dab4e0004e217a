/-
What commands need of the place where they run, and such a place in memory.
-/
import GraphCalls.Files.Directory
import GraphCalls.Http.Executor

namespace GraphCalls

/-- A place to run commands in. -/
structure Shell (m : Type → Type) where
  /-- The user's own directory, if there is one. -/
  home : Option String
  /-- Whether output goes to a terminal. -/
  terminal : Bool
  network : Network m
  read : (path : String) → m (Except FileFault String)
  write : (path text : String) → m (Except FileFault Unit)
  contains : (path : String) → m Bool
  makeDirectory : (path : String) → m (Except FileFault Unit)
  /-- Writes a line of output. -/
  print : String → m Unit
  /-- Writes a line of warnings. -/
  warn : String → m Unit

/-- A directory, and what commands wrote beside its files. -/
structure Desk where
  directory : Directory
  output : String
  warnings : String
deriving DecidableEq

namespace Desk

/-- A path as it is seen from the directory of a given name. -/
def inside (home path : String) : String :=
  let mark := (home ++ "/").toList
  if path = home then "."
  else if mark.isPrefixOf path.toList then String.ofList (path.toList.drop mark.length)
  else path

/-- Changes the directory. -/
def change (f : Directory → Except FileFault Directory) : StateM Desk (Except FileFault Unit) :=
  modifyGet fun d =>
    match f d.directory with
    | .ok directory => (.ok (), { d with directory := directory })
    | .error fault => (.error fault, d)

/-- Commands at a desk whose directory has a name and is also the user's own. -/
def shell (home : String) (network : Network Id) : Shell (StateM Desk) where
  home := some home
  terminal := false
  network r deadline := pure (network r deadline).run
  read path := do return (← get).directory.read (inside home path)
  write path text := change fun d => d.write (inside home path) text
  contains path := do return (← get).directory.contains (inside home path)
  makeDirectory path := change fun d => d.make (inside home path)
  print line := modify fun d => { d with output := d.output ++ line ++ "\n" }
  warn line := modify fun d => { d with warnings := d.warnings ++ line ++ "\n" }

end Desk
end GraphCalls
