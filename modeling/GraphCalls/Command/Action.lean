/-
Running commands.

A command that plans reads what it is given first: the file of calls, then
the schema. Only a command that sends looks up its configuration, and only
when there is something to send to.
-/
import GraphCalls.Command.Shell
import GraphCalls.Command.Invocation
import GraphCalls.Command.Paint
import GraphCalls.Command.ProfileStore
import GraphCalls.Command.Table
import GraphCalls.Json.Printer

namespace GraphCalls
/-- A command under way. -/
abbrev Action (m : Type → Type) := ExceptT CommandError m

namespace Action

variable {m : Type → Type} [Monad m]

/-- What a file operation came to. -/
def ofFile {α : Type} (error : FileFault → CommandError) (x : m (Except FileFault α)) : Action m α :=
  ExceptT.mk do return (← x).mapError error

/-- What a call came to. -/
def ofCall {α : Type} (x : m (Except CallError α)) : Action m α :=
  ExceptT.mk do return (← x).mapError .call

/-! ## Profiles -/

/-- The directory of the user's settings. -/
def settingsDirectory (sh : Shell m) : Action m String := do
  match sh.home with
  | none => throw .noHome
  | some home =>
    let directory := home ++ "/.gqlbatch"
    ofFile .file (sh.makeDirectory directory)
    return directory

def profilesPath (sh : Shell m) : Action m String := do
  return (← settingsDirectory sh) ++ "/config.toml"

/-- The profiles of the user; without a file there are none. -/
def loadProfiles (sh : Shell m) : Action m ProfileStore := do
  let path ← profilesPath sh
  if ← sh.contains path then
    let text ← ofFile .file (sh.read path)
    match ProfileStore.ofText? text with
    | some s => return s
    | none => throw (.badProfiles path)
  else return .empty

def saveProfiles (sh : Shell m) (s : ProfileStore) : Action m Unit := do
  let path ← profilesPath sh
  ofFile .file (sh.write path s.text)

/-! ## Servers and schemas -/

/-- The executor that options and profile configure. -/
def executor (sh : Shell m) (o : GlobalOptions) : Action m HttpExecutor := do
  let s ← loadProfiles sh
  let c ← ExceptT.mk (pure ((s.get o.profile).resolve o.endpoint o.timeout o.headers))
  return .ofConfig c

/-- The schema that a file holds. -/
def schemaFile (sh : Shell m) (path : String) : Action m Registry := do
  let text ← ofFile (.unreadableSchema path) (sh.read path)
  match Registry.ofText text with
  | .ok r => return r
  | .error e => throw (.badSchema path e)

/-- The schema of the file that the options name, or else of the server. -/
def schema (sh : Shell m) (o : GlobalOptions) : Action m Registry := do
  match o.schema with
  | some path => schemaFile sh path
  | none => ofCall ((← executor sh o).fetchSchema sh.network)

/-- The calls that a file lists. -/
def batchFile (sh : Shell m) (path : String) : Action m (Entries BatchEntry) := do
  let text ← ofFile (.unreadableBatch path) (sh.read path)
  match BatchEntry.ofText text with
  | .ok es => return es
  | .error e => throw (.badBatch path e)

/-! ## Output -/

def success (p : Paint) (text : String) : String := p.word .green "✓" ++ " " ++ text

def warning (p : Paint) (text : String) : String := p.word .yellow "!" ++ " " ++ text

def failure (p : Paint) (text : String) : String := p.word .red "✗" ++ " " ++ text

/-- A line with a label. -/
def labelled (p : Paint) (label text : String) : String := p.word .cyan label ++ ": " ++ text

/-- A part of the path to an error. -/
def pathPart : Json → String
  | .string s => s
  | v => v.compact

/-- An error of a response. -/
def entryText (p : Paint) (e : ErrorEntry) : String :=
  let path := String.intercalate "." ((e.path.getD []).map pathPart)
  if path.isEmpty then e.message else p.word .cyan path ++ ": " ++ e.message

def className : Registry.TypeClass → String
  | .object => "object"
  | .enum => "enum"
  | .scalar => "leaf"

def typeRow (r : Registry) (t : TypeDef) : List String :=
  [t.name, t.kind.text, className (r.classify t), toString ((t.members?.map List.length).getD 0)]

def fieldRow (f : FieldDef) : List String :=
  [f.name, String.intercalate ", " (f.args.map fun a => a.name ++ ": " ++ a.type.text), f.type.text]

/-! ## Commands -/

/-- Saves or prints the introspection result of the server, if it is one. -/
def introspect (sh : Shell m) (p : Paint) (o : GlobalOptions) (output : Option String) :
    Action m Unit := do
  let v ← ofCall ((← executor sh o).introspect sh.network)
  let r ← ofCall (pure (Executor.schemaOf v))
  match output with
  | some path =>
    ofFile (.unwritable path) (sh.write path v.indented)
    sh.print (success p ("Saved " ++ toString r.size ++ " types to " ++ path))
  | none => sh.print v.indented

/-- Prints the default selection of a type, or those of all that need one. -/
def selection (sh : Shell m) (p : Paint) (o : GlobalOptions) (type : Option String) :
    Action m Unit := do
  let r ← schema sh o
  match type with
  | some name =>
    let s ← ofCall (pure ((r.defaultSelection name).mapError .schema))
    sh.print s
  | none =>
    let ss ← ofCall (pure (r.defaultSelections.mapError .schema))
    for (name, s) in ss do
      sh.print (p.word .cyan name ++ " \x7b " ++ s ++ " \x7d")

/-- Lists the types of the schema. -/
def types (sh : Shell m) (o : GlobalOptions) : Action m Unit := do
  let r ← schema sh o
  sh.print (Table.text ["Name", "Kind", "Selected as", "Fields"] (r.types.map (typeRow r)))

/-- Lists the fields that operations of a kind can call. -/
def operations (sh : Shell m) (p : Paint) (o : GlobalOptions) (kind : OperationKind) :
    Action m Unit := do
  let r ← schema sh o
  let t ← ofCall (pure ((r.rootType kind).mapError .schema))
  sh.print (labelled p "Root" t.name)
  sh.print (Table.text ["Field", "Arguments", "Returns"] ((r.rootFields kind).map fieldRow))

/-- Prints the document of a batch, or sends the batch and prints the
response. -/
def perform (sh : Shell m) (p : Paint) (o : GlobalOptions) (kind : OperationKind) (dryRun : Bool)
    (b : Batch) : Action m Unit := do
  if dryRun then sh.print (Document.ofBatch kind b).toJson.indented
  else
    let x ← executor sh o
    if b.isEmpty then sh.warn (warning p "Nothing to send")
    else
      let r ← ofCall (x.execute sh.network kind b [])
      sh.print (r.toJson id).indented
      for e in r.errorEntries do
        sh.warn (warning p (entryText p e))

/-- Makes one call. -/
def exec (sh : Shell m) (p : Paint) (o : GlobalOptions) (call : CallWords) (kind : OperationKind)
    (dryRun : Bool) : Action m Unit := do
  let r ← schema sh o
  let b ← ExceptT.mk (pure (Plan.ofCall r kind call))
  perform sh p o kind dryRun b

/-- Makes the calls that a file lists. -/
def batch (sh : Shell m) (p : Paint) (o : GlobalOptions) (path : String) (kind : OperationKind)
    (dryRun : Bool) : Action m Unit := do
  let es ← batchFile sh path
  let r ← schema sh o
  let b ← ExceptT.mk (pure (Plan.ofEntries r kind es))
  perform sh p o kind dryRun b

/-- The lines that show a profile. -/
def profileLines (p : Paint) (name : String) (profile : Profile) : List String :=
  [labelled p "Profile" name,
    labelled p "Endpoint" (profile.endpoint.getD "(not set)"),
    labelled p "Timeout" (match profile.timeout with
      | some ms => toString ms ++ "ms"
      | none => toString Executor.defaultDeadline ++ "ms (default)")] ++
    profile.headers.map fun (name, value) => labelled p "Header" (name ++ ": " ++ value)

def showConfig (sh : Shell m) (p : Paint) (o : GlobalOptions) : Action m Unit := do
  let s ← loadProfiles sh
  for line in profileLines p o.profile (s.get o.profile) do
    sh.print line

/-- Changes one setting of a profile. -/
def setConfig (sh : Shell m) (p : Paint) (o : GlobalOptions) (key value : String) :
    Action m Unit := do
  let s ← loadProfiles sh
  let s ← ExceptT.mk (pure (s.set o.profile key value))
  saveProfiles sh s
  sh.print (success p ("Set " ++ key ++ " = " ++ value))

def run (sh : Shell m) (p : Paint) (i : Invocation) : Action m Unit :=
  match i.command with
  | .introspect output => introspect sh p i.options output
  | .selection type => selection sh p i.options type
  | .types => types sh i.options
  | .operations mutation => operations sh p i.options (.ofFlag mutation)
  | .exec call mutation dryRun => exec sh p i.options call (.ofFlag mutation) dryRun
  | .batch path mutation dryRun => batch sh p i.options path (.ofFlag mutation) dryRun
  | .showConfig => showConfig sh p i.options
  | .setConfig key value => setConfig sh p i.options key value

/-- The variables of the environment that matter. -/
def relevantVariables : List String :=
  ["GQLBATCH_ENDPOINT", "GQLBATCH_PROFILE", "CLICOLOR_FORCE", "NO_COLOR", "CLICOLOR"]

/-- The version of the program. -/
def version : String := "gqlbatch 0.0.1"

def usage : String :=
  "Usage: gqlbatch [options] <introspect|selection|types|operations|exec|batch|config> ..."

/-- Runs the command that words write and gives its exit status. -/
def runWords (sh : Shell m) (env : String → Option String) (words : List String) : m Nat := do
  match Invocation.parse env words with
  | .error .help => do
    sh.print usage
    return 0
  | .error .version => do
    sh.print version
    return 0
  | .error (.usage fault) => do
    sh.warn fault.message
    sh.warn usage
    return 2
  | .ok i =>
    let p := Paint.ofEnvironment sh.terminal env
    match ← ExceptT.run (run sh p i) with
    | .ok () => return 0
    | .error e => do
      sh.warn (failure p e.message)
      return 1

end Action
end GraphCalls
