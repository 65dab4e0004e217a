/-
A directory in memory: what reading and writing in it come to.

A path is given by the names on the way from the directory. A name can follow
only what is a directory itself; a file is none, and `.` and `..` mean what
they mean everywhere, except that no path leads out.
-/
import GraphCalls.Files.Fault

namespace GraphCalls

abbrev FilePath := List String

/-- Files with their texts, and the directories that were made. -/
structure Directory where
  files : List (FilePath × String)
  made : List FilePath
deriving DecidableEq

namespace Directory

def empty : Directory := ⟨[], []⟩

def file? (d : Directory) (p : FilePath) : Option String :=
  (d.files.find? (·.1 == p)).map Prod.snd

/-- What was made is a directory, and so is what a file lies in. -/
def isDirectory (d : Directory) (p : FilePath) : Bool :=
  p.isEmpty || d.made.contains p || d.files.any fun f => p.isPrefixOf f.1 && p != f.1

/-- The names of a path that is given as text. -/
def names (path : String) : List String := (path.splitToList (· == '/'))

/-- Follows names from a place. -/
def follow (d : Directory) (place : FilePath) : List String → Except FileFault FilePath
  | [] => .ok place
  | name :: rest =>
    if !d.isDirectory place then
      .error (if (d.file? place).isSome then .notADirectory else .missing)
    else if name = "" ∨ name = "." then follow d place rest
    else if name = ".." then
      if place.isEmpty then .error .missing else follow d place.dropLast rest
    else follow d (place ++ [name]) rest

/-- The place that a path means. An empty path means none, and one from the
root of all files leads out. -/
def locate (d : Directory) (path : String) : Except FileFault FilePath :=
  if path = "" ∨ path.startsWith "/" then .error .missing else follow d [] (names path)

/-- The text of a file. -/
def read (d : Directory) (path : String) : Except FileFault String :=
  match d.locate path with
  | .error fault => .error fault
  | .ok p =>
    match d.file? p with
    | some text => .ok text
    | none => .error (if d.isDirectory p then .isADirectory else .missing)

/-- Whether there is a file or a directory. -/
def contains (d : Directory) (path : String) : Bool :=
  match d.locate path with
  | .ok p => (d.file? p).isSome || d.isDirectory p
  | .error _ => false

/-- Sets the text of a file. -/
def put (d : Directory) (p : FilePath) (text : String) : Directory :=
  { d with files := (p, text) :: d.files.filter (·.1 != p) }

/-- Writes a file; what it is to lie in must be there. -/
def write (d : Directory) (path text : String) : Except FileFault Directory :=
  match d.locate path with
  | .error fault => .error fault
  | .ok p => if d.isDirectory p then .error .isADirectory else .ok (d.put p text)

/-- Makes a directory, unless it is there already. -/
def make (d : Directory) (path : String) : Except FileFault Directory :=
  match d.locate path with
  | .error fault => .error fault
  | .ok p =>
    if (d.file? p).isSome then .error .alreadyThere
    else if d.isDirectory p then .ok d
    else .ok { d with made := p :: d.made }

/-- The directory of files that are given with their paths. -/
def ofFiles (files : List (String × String)) : Directory :=
  files.foldl (fun d f => d.put (names f.1) f.2) empty

end Directory
end GraphCalls
