/-
Why a file cannot be read or written.
-/
namespace GraphCalls

inductive FileFault where
  | missing
  | alreadyThere
  | notADirectory
  | isADirectory
  | other (reason : String)
deriving DecidableEq

def FileFault.message : FileFault → String
  | .missing => "No such file or directory (os error 2)"
  | .alreadyThere => "File exists (os error 17)"
  | .notADirectory => "Not a directory (os error 20)"
  | .isADirectory => "Is a directory (os error 21)"
  | .other reason => reason

end GraphCalls
