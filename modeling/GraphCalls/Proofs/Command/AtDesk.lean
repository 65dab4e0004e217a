/-
Commands at a desk, step by step.

A command at a desk succeeds or fails, and leaves a desk either way. Of two
steps in turn, the second starts at the desk that the first left
(`atDesk_bind_of_ok`), or is not taken at all (`atDesk_bind_of_error`). To look
up the configuration writes no file (`keepsFiles_executor`).
-/
import GraphCalls.Command.Action
import GraphCalls.Proofs.Files.Written

namespace GraphCalls
namespace Action

variable {α β : Type}

/-- What a command at a desk comes to, and the desk after it. -/
def atDesk (x : Action (StateM Desk) α) (desk : Desk) : Except CommandError α × Desk := (ExceptT.run x).run desk

section
variable {x : Action (StateM Desk) α} {f : α → Action (StateM Desk) β} {desk after : Desk}

theorem atDesk_bind (x : Action (StateM Desk) α) (f : α → Action (StateM Desk) β) (desk : Desk) :
    atDesk (x >>= f) desk = match atDesk x desk with
      | (.ok a, after) => atDesk (f a) after
      | (.error e, after) => (.error e, after) := by
  show (match atDesk x desk with | (r, d) => (ExceptT.bindCont f r : StateM Desk _) d) = _
  rcases atDesk x desk with ⟨e | a, after⟩ <;> rfl

theorem atDesk_bind_of_ok {a : α} (h : atDesk x desk = (.ok a, after)) :
    atDesk (x >>= f) desk = atDesk (f a) after := by
  rw [atDesk_bind, h]

theorem atDesk_bind_of_error {e : CommandError} (h : atDesk x desk = (.error e, after)) :
    atDesk (x >>= f) desk = (.error e, after) := by
  rw [atDesk_bind, h]

end

/-- A change of the directory, as a step of a command. -/
theorem atDesk_change (error : FileFault → CommandError) (g : Directory → Except FileFault Directory) (desk : Desk) :
    atDesk (ofFile error (Desk.change g)) desk = match g desk.directory with
      | .ok directory => (.ok (), { desk with directory := directory })
      | .error fault => (.error (error fault), desk) := by
  show ((Desk.change g desk).1.mapError error, (Desk.change g desk).2) = _
  have hchange : Desk.change g desk = match g desk.directory with
      | .ok directory => (.ok (), { desk with directory := directory })
      | .error fault => (.error fault, desk) := rfl
  rw [hchange]
  cases g desk.directory <;> rfl

/-- A file is read, or it is not; the desk is the same. -/
theorem atDesk_read (home : String) (network : Network Id) (error : FileFault → CommandError) (path : String)
    (desk : Desk) : atDesk (ofFile error ((Desk.shell home network).read path)) desk =
      ((desk.directory.read (Desk.inside home path)).mapError error, desk) := rfl

/-! ## Commands that write no file -/

/-- The files are the same afterwards. -/
def KeepsFiles (x : Action (StateM Desk) α) : Prop := ∀ desk, (atDesk x desk).2.directory.files = desk.directory.files

theorem KeepsFiles.bind {x : Action (StateM Desk) α} {f : α → Action (StateM Desk) β} (hx : KeepsFiles x)
    (hf : ∀ a, KeepsFiles (f a)) : KeepsFiles (x >>= f) := by
  intro desk
  have hfiles := hx desk
  rw [atDesk_bind]
  cases h : atDesk x desk with
  | mk r after =>
    rw [h] at hfiles
    cases r with
    | error e => exact hfiles
    | ok a => exact (hf a after).trans hfiles

theorem KeepsFiles.pure (r : Except CommandError α) : KeepsFiles (ExceptT.mk (Pure.pure r)) := fun _ => rfl

variable (home : String) (network : Network Id)

theorem keepsFiles_settingsDirectory : KeepsFiles (settingsDirectory (Desk.shell home network)) := by
  refine KeepsFiles.bind (fun desk => ?_) fun _ => KeepsFiles.pure (.ok _)
  have hmake := atDesk_change .file (·.make (Desk.inside home (home ++ "/.gqlbatch"))) desk
  refine (congrArg (·.2.directory.files) hmake).trans ?_
  cases h : desk.directory.make (Desk.inside home (home ++ "/.gqlbatch")) with
  | error fault => rfl
  | ok directory => exact Directory.files_of_make h

theorem keepsFiles_loadProfiles : KeepsFiles (loadProfiles (Desk.shell home network)) := by
  have hpath : KeepsFiles (profilesPath (Desk.shell home network)) :=
    (keepsFiles_settingsDirectory home network).bind fun _ => KeepsFiles.pure (.ok _)
  refine hpath.bind fun path => KeepsFiles.bind (fun _ => rfl) fun there => ?_
  cases there with
  | false => exact KeepsFiles.pure (.ok _)
  | true =>
    refine KeepsFiles.bind (fun _ => rfl) fun text => ?_
    cases ProfileStore.ofText? text with
    | none => exact KeepsFiles.pure (.error _)
    | some s => exact KeepsFiles.pure (.ok s)

theorem keepsFiles_executor (o : GlobalOptions) : KeepsFiles (executor (Desk.shell home network) o) :=
  (keepsFiles_loadProfiles home network).bind fun _ => (KeepsFiles.pure _).bind fun _ => KeepsFiles.pure (.ok _)

end Action
end GraphCalls
