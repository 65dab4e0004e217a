/-
The profiles of a user, by name.
-/
import GraphCalls.Command.Profile

namespace GraphCalls

structure ProfileStore where
  profiles : Entries Profile
deriving DecidableEq

namespace ProfileStore

def empty : ProfileStore := ⟨[]⟩

/-- The profile of a name; one that is not there has no settings. -/
def get (s : ProfileStore) (name : String) : Profile := (s.profiles.get? name).getD .empty

def put (s : ProfileStore) (name : String) (p : Profile) : ProfileStore :=
  ⟨s.profiles.set name p⟩

/-- Changes one setting of one profile. -/
def set (s : ProfileStore) (name key value : String) : Except CommandError ProfileStore :=
  ((s.get name).set key value).map (s.put name)

/-- The profiles that a text holds: one for each of its tables. -/
def ofText? (text : String) : Option ProfileStore :=
  match Toml.ofText? text with
  | some (.table ms) => do
    return ⟨← ms.mapM fun (name, t) => (Profile.ofToml? t).map (name, ·)⟩
  | _ => none

/-- The text of the profiles. -/
def text (s : ProfileStore) : String :=
  Toml.textOf (s.profiles.flatMap fun e => e.2.sections [e.1])

end ProfileStore
end GraphCalls
