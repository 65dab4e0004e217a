/-
Settings over a history of commands.

A command that sets something loads all profiles, changes one of them, and
writes all of them again. If it fails at any point, nothing was written. So a
setting has the value of the last command that set it and succeeded, or else the
value that it had at first (`settings_follow_history`).
-/
import GraphCalls.Proofs.Command.AtDesk
import GraphCalls.Proofs.Command.Settings

namespace GraphCalls

/-! ## The place of the profiles -/

namespace Desk

/-- What lies in the user's own directory is named from there. -/
theorem inside_append (home rest : String) : inside home (home ++ "/" ++ rest) = rest := by
  have hne : home ++ "/" ++ rest ≠ home := by
    intro h
    have hlength := congrArg (fun s => s.toList.length) h
    simp at hlength
  have hchars : (home ++ "/" ++ rest).toList = (home ++ "/").toList ++ rest.toList := String.toList_append ..
  have hlead : (home ++ "/").toList.isPrefixOf (home ++ "/" ++ rest).toList = true := by
    rw [hchars, List.isPrefixOf_iff_prefix]
    exact List.prefix_append _ _
  rw [inside, if_neg hne]
  simp only [hlead, if_true]
  rw [hchars, List.drop_left, String.ofList_toList]

theorem inside_settings (home : String) : inside home (home ++ "/.gqlbatch") = ".gqlbatch" := by
  have happend : home ++ "/.gqlbatch" = home ++ "/" ++ ".gqlbatch" := by
    rw [String.append_assoc]
    rfl
  rw [happend, inside_append]

theorem inside_profiles (home : String) :
    inside home (home ++ "/.gqlbatch" ++ "/config.toml") = ".gqlbatch/config.toml" := by
  have happend : home ++ "/.gqlbatch" ++ "/config.toml" = home ++ "/" ++ ".gqlbatch/config.toml" := by
    rw [String.append_assoc, String.append_assoc]
    rfl
  rw [happend, inside_append]

end Desk

namespace Directory

variable {d after : Directory} {s : ProfileStore} {text : String}

/-- The directory of the settings is there, and no file stands in its place. -/
structure HasSettings (d : Directory) : Prop where
  directory : d.isDirectory [".gqlbatch"] = true
  file : d.file? [".gqlbatch"] = none

/-- The place of the profiles. -/
def profilesPlace : FilePath := [".gqlbatch", "config.toml"]

theorem locate_settings (d : Directory) : d.locate ".gqlbatch" = .ok [".gqlbatch"] := by
  have hpath : ¬(".gqlbatch" = "" ∨ ".gqlbatch".startsWith "/" = true) := by decide +kernel
  have hnames : names ".gqlbatch" = [".gqlbatch"] := by decide +kernel
  rw [locate, if_neg hpath, hnames]
  simp [follow, isDirectory]

theorem HasSettings.locate_profiles (h : d.HasSettings) : d.locate ".gqlbatch/config.toml" = .ok profilesPlace := by
  have hpath : ¬(".gqlbatch/config.toml" = "" ∨ ".gqlbatch/config.toml".startsWith "/" = true) := by decide +kernel
  have hnames : names ".gqlbatch/config.toml" = [".gqlbatch", "config.toml"] := by decide +kernel
  rw [locate, if_neg hpath, hnames]
  have hroot : d.isDirectory [] = true := rfl
  simp [follow, hroot, h.directory, profilesPlace]

theorem hasSettings_of_make (h : d.make ".gqlbatch" = .ok after) : after.HasSettings :=
  let ⟨hdirectory, hfile, _⟩ := of_make (locate_settings d) h
  ⟨hdirectory, hfile⟩

theorem HasSettings.make (h : d.HasSettings) : d.make ".gqlbatch" = .ok d :=
  make_of_isDirectory (locate_settings d) h.directory h.file

theorem HasSettings.put (h : d.HasSettings) (text : String) : (d.put profilesPlace text).HasSettings where
  directory := isDirectory_put h.directory
  file := by rw [file?_put_of_ne (by decide), h.file]

/-- A store is what the file of the profiles holds, or the empty one if nothing
stands in its place. -/
def Holds (d : Directory) (s : ProfileStore) : Prop :=
  (d.file? profilesPlace = none ∧ d.isDirectory profilesPlace = false ∧ s = .empty) ∨
    ∃ text, d.file? profilesPlace = some text ∧ ProfileStore.ofText? text = some s

theorem Holds.sound (h : d.Holds s) : s.Sound := by
  rcases h with ⟨-, -, rfl⟩ | ⟨text, -, hs⟩
  · exact ProfileStore.sound_empty
  · exact ProfileStore.sound_of_ofText? hs

/-- What was written is what the directory holds. -/
theorem holds_put (hs : s.Sound) : (d.put profilesPlace s.text).Holds s.inOrder :=
  .inr ⟨s.text, file?_put, ProfileStore.ofText?_text hs⟩

end Directory

/-! ## Loading and saving -/

namespace Action

variable {home : String} {network : Network Id} {desk : Desk} {d : Directory} {s : ProfileStore}

theorem atDesk_profilesPath (home : String) (network : Network Id) (desk : Desk) :
    atDesk (profilesPath (Desk.shell home network)) desk = match desk.directory.make ".gqlbatch" with
      | .ok directory => (.ok (home ++ "/.gqlbatch" ++ "/config.toml"), { desk with directory })
      | .error fault => (.error (.file fault), desk) := by
  have hmake := atDesk_change .file (·.make (Desk.inside home (home ++ "/.gqlbatch"))) desk
  rw [Desk.inside_settings] at hmake
  show atDesk ((ofFile .file (Desk.change (·.make (Desk.inside home (home ++ "/.gqlbatch")))) >>= fun _ =>
    pure (home ++ "/.gqlbatch")) >>= fun directory => pure (directory ++ "/config.toml")) desk = _
  rw [Desk.inside_settings, atDesk_bind, atDesk_bind, hmake]
  cases desk.directory.make ".gqlbatch" <;> rfl

/-- The profiles in a directory, as they are loaded. -/
def loaded (home : String) (d : Directory) : Except CommandError ProfileStore :=
  if d.contains ".gqlbatch/config.toml" then
    match d.read ".gqlbatch/config.toml" with
    | .ok text =>
      match ProfileStore.ofText? text with
      | some s => .ok s
      | none => .error (.badProfiles (home ++ "/.gqlbatch" ++ "/config.toml"))
    | .error fault => .error (.file fault)
  else .ok .empty

theorem atDesk_loadProfiles (hmake : desk.directory.make ".gqlbatch" = .ok d) :
    atDesk (loadProfiles (Desk.shell home network)) desk = (loaded home d, { desk with directory := d }) := by
  have hpath := atDesk_profilesPath home network desk
  rw [hmake] at hpath
  refine (atDesk_bind_of_ok hpath).trans ?_
  have hcontains : atDesk (liftM ((Desk.shell home network).contains (home ++ "/.gqlbatch" ++ "/config.toml")) :
      Action (StateM Desk) Bool) { desk with directory := d } =
        (.ok (d.contains ".gqlbatch/config.toml"), { desk with directory := d }) := by
    rw [← Desk.inside_profiles home]
    rfl
  refine (atDesk_bind_of_ok hcontains).trans ?_
  rw [loaded]
  cases d.contains ".gqlbatch/config.toml" with
  | false => rfl
  | true =>
    have hread := atDesk_read home network .file (home ++ "/.gqlbatch" ++ "/config.toml") { desk with directory := d }
    rw [Desk.inside_profiles] at hread
    refine (atDesk_bind _ _ _).trans ?_
    rw [hread]
    cases d.read ".gqlbatch/config.toml" with
    | error fault => rfl
    | ok text =>
      show atDesk (match ProfileStore.ofText? text with
        | some store => pure store
        | none => throw (CommandError.badProfiles (home ++ "/.gqlbatch" ++ "/config.toml"))) _ =
          ((match ProfileStore.ofText? text with
            | some s => .ok s
            | none => .error (.badProfiles (home ++ "/.gqlbatch" ++ "/config.toml"))), _)
      cases ProfileStore.ofText? text <;> rfl

theorem loaded_eq_ok_iff (hd : d.HasSettings) : loaded home d = .ok s ↔ d.Holds s := by
  rw [loaded, Directory.contains, Directory.read, hd.locate_profiles, Directory.Holds]
  simp only
  cases d.file? Directory.profilesPlace with
  | none =>
    cases d.isDirectory Directory.profilesPlace with
    | false => simp [eq_comm]
    | true => simp
  | some text => cases h : ProfileStore.ofText? text <;> simp [h]

theorem atDesk_saveProfiles (hd : desk.directory.HasSettings) (s : ProfileStore) :
    atDesk (saveProfiles (Desk.shell home network) s) desk =
      if desk.directory.isDirectory Directory.profilesPlace then (.error (.file .isADirectory), desk)
      else (.ok (), { desk with directory := desk.directory.put Directory.profilesPlace s.text }) := by
  have hpath := atDesk_profilesPath home network desk
  rw [hd.make] at hpath
  refine (atDesk_bind_of_ok hpath).trans ?_
  have hwrite := atDesk_change .file (fun d => d.write ".gqlbatch/config.toml" s.text) desk
  rw [Directory.write, hd.locate_profiles] at hwrite
  show atDesk (ofFile .file (Desk.change fun d =>
    d.write (Desk.inside home (home ++ "/.gqlbatch" ++ "/config.toml")) s.text)) desk = _
  rw [Desk.inside_profiles, hwrite]
  cases h : desk.directory.isDirectory Directory.profilesPlace <;> simp [h]

end Action

/-- The profiles that the next command will load. -/
def Desk.Loads (home : String) (network : Network Id) (desk : Desk) (s : ProfileStore) : Prop :=
  (Action.atDesk (Action.loadProfiles (Desk.shell home network)) desk).1 = .ok s

namespace Desk

variable {home : String} {network : Network Id} {desk : Desk} {s : ProfileStore}

theorem loads_iff : Loads home network desk s ↔ ∃ d, desk.directory.make ".gqlbatch" = .ok d ∧ d.Holds s := by
  rw [Loads]
  cases hmake : desk.directory.make ".gqlbatch" with
  | error fault =>
    have hpath := Action.atDesk_profilesPath home network desk
    rw [hmake] at hpath
    have hload : Action.atDesk (Action.loadProfiles (Desk.shell home network)) desk = (.error (.file fault), desk) :=
      Action.atDesk_bind_of_error hpath
    simp [hload]
  | ok d =>
    rw [Action.atDesk_loadProfiles hmake, Action.loaded_eq_ok_iff (Directory.hasSettings_of_make hmake)]
    simp

theorem loads_of_holds (hd : desk.directory.HasSettings) (hs : desk.directory.Holds s) : Loads home network desk s :=
  loads_iff.2 ⟨_, hd.make, hs⟩

end Desk

/-! ## One command -/

/-- A command that sets something in a profile. -/
structure SetCommand where
  paint : Paint
  options : GlobalOptions
  key : String
  value : String
deriving DecidableEq

namespace SetCommand

/-- What the command comes to at a desk, and the desk after it. -/
def run (home : String) (network : Network Id) (c : SetCommand) (desk : Desk) : Except CommandError Unit × Desk :=
  Action.atDesk (Action.run (Desk.shell home network) c.paint ⟨c.options, .setConfig c.key c.value⟩) desk

/-- What the command sets a setting to, if it names that setting. -/
def gives (c : SetCommand) (name : String) (k : SettingKey) : Option Toml.Setting :=
  if c.options.profile = name ∧ c.key = k.text then k.read? c.value else none

/-- What the command did to the profiles at a desk, by what it came to. Only a
wrong key or value makes it fail, at any desk where no place is a file and a
directory at once. -/
inductive Did (c : SetCommand) (desk : Desk) (s : ProfileStore) : Except CommandError Unit → ProfileStore → Prop
  | set {k : SettingKey} {v : Toml.Setting} {s' : ProfileStore} (key : k.text = c.key)
      (value : k.read? c.value = some v) (sets : s.Sets c.options.profile k v s') : Did c desk s (.ok ()) s'
  | refused {e : CommandError} (why : ∀ k : SettingKey, k.text = c.key → k.read? c.value = none) :
      Did c desk s (.error e) s
  | blocked {e : CommandError} {text : String} (file : desk.directory.file? Directory.profilesPlace = some text)
      (directory : desk.directory.isDirectory Directory.profilesPlace = true) : Did c desk s (.error e) s

variable {home : String} {network : Network Id} {c : SetCommand} {desk : Desk} {d : Directory} {s s' : ProfileStore}

/-- The file is written only by a command that succeeds. -/
theorem run_eq (hmake : desk.directory.make ".gqlbatch" = .ok d) (hs : d.Holds s) :
    c.run home network desk = match s.set c.options.profile c.key c.value with
      | .error e => (.error e, { desk with directory := d })
      | .ok s' =>
        if d.isDirectory Directory.profilesPlace then (.error (.file .isADirectory), { desk with directory := d })
        else (.ok (), { desk with
          directory := d.put Directory.profilesPlace s'.text
          output := desk.output ++ Action.success c.paint ("Set " ++ c.key ++ " = " ++ c.value) ++ "\n" }) := by
  have hd := Directory.hasSettings_of_make hmake
  have hload := @Action.atDesk_loadProfiles home network desk d hmake
  rw [(Action.loaded_eq_ok_iff hd).2 hs] at hload
  refine (Action.atDesk_bind_of_ok hload).trans ?_
  cases hset : s.set c.options.profile c.key c.value with
  | error e => rfl
  | ok s' =>
    have hsave := @Action.atDesk_saveProfiles home network { desk with directory := d } hd s'
    simp only at hsave ⊢
    split at hsave
    next hblocked =>
      rw [if_pos hblocked]
      exact (Action.atDesk_bind_of_ok rfl).trans (Action.atDesk_bind_of_error hsave)
    next hfree =>
      rw [if_neg hfree]
      exact (Action.atDesk_bind_of_ok rfl).trans (Action.atDesk_bind_of_ok hsave)

/-- One command. -/
theorem did_of_run (h : Desk.Loads home network desk s) (c : SetCommand) :
    ∃ s', Desk.Loads home network (c.run home network desk).2 s' ∧ c.Did desk s (c.run home network desk).1 s' := by
  obtain ⟨d, hmake, hs⟩ := Desk.loads_iff.1 h
  have hd := Directory.hasSettings_of_make hmake
  have hplace := (Directory.of_make (Directory.locate_settings _) hmake).2.2 Directory.profilesPlace (by decide)
  have hkept : Desk.Loads home network { desk with directory := d } s := Desk.loads_of_holds hd hs
  rw [run_eq hmake hs]
  cases hset : s.set c.options.profile c.key c.value with
  | error e =>
    refine ⟨s, hkept, .refused fun k hkey => ?_⟩
    cases hv : k.read? c.value with
    | none => rfl
    | some v =>
      obtain ⟨s', hs'⟩ := ProfileStore.exists_set hv s c.options.profile
      rw [hkey, hset] at hs'
      cases hs'
  | ok s' =>
    simp only
    split
    next hblocked =>
      rcases hs with ⟨-, hfree, -⟩ | ⟨text, htext, -⟩
      · rw [hblocked] at hfree
        cases hfree
      · rw [Directory.file?, Directory.files_of_make hmake] at htext
        exact ⟨s, hkept, .blocked htext (hplace ▸ hblocked)⟩
    next =>
      have hsound := hs.sound.set hset
      obtain ⟨k, v, hkey, hv, hsets⟩ := ProfileStore.exists_of_set hset
      exact ⟨s'.inOrder, Desk.loads_of_holds (hd.put _) (Directory.holds_put hsound), .set hkey hv (hsets.inOrder hsound)⟩

/-- What a command that succeeds leaves, setting by setting. -/
theorem Did.settings (h : c.Did desk s (.ok ()) s') (name : String) (k : SettingKey) :
    s'.setting? name k = (c.gives name k).or (s.setting? name k) := by
  cases h with
  | set hkey hv hsets =>
    rename_i l v
    by_cases hname : (name, k) = (c.options.profile, l)
    · cases hname
      rw [hsets.set, gives, if_pos ⟨rfl, hkey.symm⟩, hv, Option.some_or]
    · have hgives : c.gives name k = none := if_neg fun ⟨hprofile, hk⟩ =>
        hname (by rw [hprofile, SettingKey.text_injective (hkey.trans hk)])
      rw [hsets.settings _ _ hname, hgives, Option.none_or]

theorem Did.profiles (h : c.Did desk s (.ok ()) s') (name : String) : s'.Has name ↔ s.Has name ∨ name = c.options.profile := by
  cases h with
  | set _ _ hsets => exact hsets.profiles name

theorem Did.eq_of_error {e : CommandError} (h : c.Did desk s (.error e) s') : s' = s := by
  cases h <;> rfl

/-! ## Commands in turn -/

/-- The desk after some commands. -/
def deskAfter (home : String) (network : Network Id) (desk : Desk) (cs : List SetCommand) : Desk :=
  cs.foldl (fun desk c => (c.run home network desk).2) desk

/-- Those of some commands that succeed. -/
def successes (home : String) (network : Network Id) : Desk → List SetCommand → List SetCommand
  | _, [] => []
  | desk, c :: cs =>
    let rest := successes home network (c.run home network desk).2 cs
    if (c.run home network desk).1.isOk then c :: rest else rest

/-- What the last command that names a setting sets it to. -/
def lastGiven (cs : List SetCommand) (name : String) (k : SettingKey) : Option Toml.Setting :=
  cs.reverse.findSome? (·.gives name k)

theorem lastGiven_cons (c : SetCommand) (cs : List SetCommand) (name : String) (k : SettingKey) :
    lastGiven (c :: cs) name k = (lastGiven cs name k).or (c.gives name k) := by
  rw [lastGiven, List.reverse_cons, List.findSome?_append, lastGiven, List.findSome?_singleton]

/-- Commands in turn, whatever each of them comes to. -/
theorem loads_deskAfter (h : Desk.Loads home network desk s) (cs : List SetCommand) :
    ∃ s', Desk.Loads home network (deskAfter home network desk cs) s' ∧
      (∀ name k, s'.setting? name k = (lastGiven (successes home network desk cs) name k).or (s.setting? name k)) ∧
      ∀ name, s'.Has name ↔ s.Has name ∨ ∃ c ∈ successes home network desk cs, name = c.options.profile := by
  induction cs generalizing desk s with
  | nil => exact ⟨s, h, fun _ _ => rfl, by simp [successes]⟩
  | cons c cs ih =>
    obtain ⟨s₁, hload, hdid⟩ := did_of_run h c
    obtain ⟨s', hload', hsettings, hprofiles⟩ := ih hload
    refine ⟨s', hload', ?_⟩
    rw [successes]
    cases hrun : (c.run home network desk).1 with
    | error e =>
      rw [hrun] at hdid
      obtain rfl := hdid.eq_of_error
      exact ⟨hsettings, hprofiles⟩
    | ok u =>
      rw [hrun] at hdid
      simp only [Except.isOk, Except.toBool, if_true]
      refine ⟨fun name k => ?_, fun name => ?_⟩
      · rw [hsettings, hdid.settings, lastGiven_cons, Option.or_assoc]
      · rw [hprofiles, hdid.profiles, or_assoc, List.exists_mem_cons_iff]

end SetCommand

/-- Whatever commands set in whatever profiles, the profiles that are loaded
afterwards have the settings that the last commands that succeeded gave them,
and the others as at first. One more command sets one setting of one profile,
and makes that profile if need be, or it fails and the profiles are the same. -/
theorem settings_follow_history {home : String} {network : Network Id} {desk : Desk} {s : ProfileStore}
    (h : Desk.Loads home network desk s) (cs : List SetCommand) :
    ∃ s', Desk.Loads home network (SetCommand.deskAfter home network desk cs) s' ∧
      (∀ name k, s'.setting? name k =
        (SetCommand.lastGiven (SetCommand.successes home network desk cs) name k).or (s.setting? name k)) ∧
      (∀ name, s'.Has name ↔ s.Has name ∨
        ∃ c ∈ SetCommand.successes home network desk cs, name = c.options.profile) ∧
      ∀ c : SetCommand, ∃ s'',
        Desk.Loads home network (c.run home network (SetCommand.deskAfter home network desk cs)).2 s'' ∧
          c.Did (SetCommand.deskAfter home network desk cs) s'
            (c.run home network (SetCommand.deskAfter home network desk cs)).1 s'' := by
  obtain ⟨s', hload, hsettings, hprofiles⟩ := SetCommand.loads_deskAfter h cs
  exact ⟨s', hload, hsettings, hprofiles, SetCommand.did_of_run hload⟩

/-- The second command is refused, and the third changes a profile that was
there before. -/
theorem settings_follow_three_commands :
    let options (name : String) : GlobalOptions := ⟨none, name, [], none, none⟩
    let text := "[staging]\nendpoint = 'http://old/'\ntimeout_ms = 250\n"
    let desk : Desk := ⟨.ofFiles [(".gqlbatch/config.toml", text)], "", ""⟩
    let cs : List SetCommand := [⟨⟨false⟩, options "ci", "header.X-Key", "1"⟩,
      ⟨⟨false⟩, options "ci", "timeout_ms", "soon"⟩, ⟨⟨true⟩, options "staging", "endpoint", "http://new/"⟩]
    ∃ s', Desk.Loads "/home" Network.down (SetCommand.deskAfter "/home" Network.down desk cs) s' ∧
      s'.setting? "staging" .endpoint = some (.string "http://new/") ∧
      s'.setting? "staging" .timeout = some (.integer 250) ∧
      s'.setting? "ci" (.header "X-Key") = some (.string "1") ∧ s'.setting? "ci" .timeout = none := by
  intro options text desk cs
  have hload : Desk.Loads "/home" Network.down desk ⟨[("staging", ⟨some "http://old/", some 250, []⟩)]⟩ :=
    Desk.loads_of_holds ⟨by decide +kernel, by decide +kernel⟩ (.inr ⟨text, by decide +kernel, by decide +kernel⟩)
  have hsuccesses : SetCommand.successes "/home" Network.down desk cs =
      [⟨⟨false⟩, options "ci", "header.X-Key", "1"⟩, ⟨⟨true⟩, options "staging", "endpoint", "http://new/"⟩] := by
    decide +kernel
  obtain ⟨s', hload', hsettings, -⟩ := settings_follow_history hload cs
  rw [hsuccesses] at hsettings
  refine ⟨s', hload', ?_, ?_, ?_, ?_⟩
  all_goals
    rw [hsettings]
    decide +kernel

end GraphCalls
