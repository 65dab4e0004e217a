/-
Commands and their options, as words give them.

The options that every command has may stand before its name and after it;
where both are given, those after it count. The endpoint and the profile can
also come from the environment.
-/
import GraphCalls.Command.Plan
import GraphCalls.Command.Words

namespace GraphCalls

/-- The options that every command has. -/
structure GlobalOptions where
  endpoint : Option String
  profile : String
  headers : List String
  timeout : Option Nat
  schema : Option String
deriving DecidableEq

inductive Command where
  | introspect (output : Option String)
  | selection (type : Option String)
  | types
  | operations (mutation : Bool)
  | exec (call : CallWords) (mutation dryRun : Bool)
  | batch (file : String) (mutation dryRun : Bool)
  | showConfig
  | setConfig (key value : String)
deriving DecidableEq

/-- A command with its options. -/
structure Invocation where
  options : GlobalOptions
  command : Command
deriving DecidableEq

namespace Invocation

/-! ## Grammars -/

def globalOptions : List OptionSpec := [
  ⟨"endpoint", some 'e', some .text, false⟩,
  ⟨"profile", some 'p', some .text, false⟩,
  ⟨"header", some 'H', some .text, true⟩,
  ⟨"timeout-ms", none, some .number, false⟩,
  ⟨"schema", none, some .path, false⟩,
  ⟨"log-level", none, some .text, false⟩]

def flagOption (name : String) : OptionSpec := ⟨name, none, none, false⟩

def commandNames : List String :=
  ["introspect", "selection", "types", "operations", "exec", "batch", "config", "help"]

def configNames : List String := ["show", "set", "help"]

def root : Grammar := ⟨globalOptions, [], 0, commandNames, true⟩

/-- A command with options of its own and words, the first of them required. -/
def leaf (options : List OptionSpec) (words : List WordKind) (required : Nat) : Grammar :=
  ⟨options ++ globalOptions, words, required, [], false⟩

def grammarOf (command : String) : Grammar :=
  match command with
  | "introspect" => leaf [⟨"output", some 'o', some .path, false⟩] [] 0
  | "selection" => leaf [] [.text] 0
  | "operations" => leaf [flagOption "mutation"] [] 0
  | "exec" =>
    leaf [⟨"arg", some 'a', some .text, true⟩, ⟨"alias", none, some .text, false⟩,
      ⟨"selection", none, some .text, false⟩, flagOption "mutation", flagOption "dry-run"] [.text] 1
  | "batch" => leaf [flagOption "mutation", flagOption "dry-run"] [.path] 1
  | "config" => ⟨globalOptions, [], 0, configNames, false⟩
  | "set" => leaf [] [.text, .text] 2
  | _ => leaf [] [] 0

/-! ## Levels -/

/-- What asking for help with a command comes to. -/
def helpWith (words : List String) : Halt :=
  match words with
  | [] => .help
  | [c] => if commandNames.contains c then .help else .usage (.unexpected c)
  | [c, d] =>
    if c = "config" ∧ configNames.contains d then .help else .usage (.unexpected d)
  | _ :: _ :: w :: _ => .usage (.unexpected w)

/-- The command that words name, and what was given at each level, the
outermost first. -/
def levels (words : List String) : Except Halt (String × List Level) := do
  let top ← root.read .empty none words
  match top.command with
  | none => throw (.usage .missingCommand)
  | some ("help", rest) => throw (helpWith rest)
  | some (name, rest) =>
    let middle ← (grammarOf name).read .empty none rest
    match middle.command with
    | none => return (name, [top, middle])
    | some ("help", rest) => throw (helpWith (name :: rest))
    | some (inner, rest) =>
      let bottom ← (grammarOf inner).read .empty none rest
      return (inner, [top, middle, bottom])

/-- The values of an option: those of the innermost level that gives it. -/
def valuesOf (ls : List Level) (name : String) : List String :=
  ((ls.reverse.find? (·.hasOption name)).map (·.values name)).getD []

def valueOf? (ls : List Level) (name : String) : Option String := (valuesOf ls name).head?

def hasFlag (ls : List Level) (name : String) : Bool := ls.any (·.hasOption name)

def optionsOf (env : String → Option String) (ls : List Level) : GlobalOptions where
  endpoint := (valueOf? ls "endpoint").or (env "GQLBATCH_ENDPOINT")
  profile := ((valueOf? ls "profile").or (env "GQLBATCH_PROFILE")).getD "default"
  headers := valuesOf ls "header"
  timeout := (valueOf? ls "timeout-ms").bind fun w => (Unsigned.parse w).toOption
  schema := valueOf? ls "schema"

def commandOf (name : String) (ls : List Level) (words : List String) : Command :=
  let mutation := hasFlag ls "mutation"
  let dryRun := hasFlag ls "dry-run"
  match name with
  | "introspect" => .introspect (valueOf? ls "output")
  | "selection" => .selection words.head?
  | "types" => .types
  | "operations" => .operations mutation
  | "exec" =>
    .exec ⟨words.headD "", valuesOf ls "arg", valueOf? ls "alias", valueOf? ls "selection"⟩
      mutation dryRun
  | "batch" => .batch (words.headD "") mutation dryRun
  | "set" => .setConfig (words.headD "") (words.getD 1 "")
  | _ => .showConfig

/-- The command that words write, with the variables of the environment. -/
def parse (env : String → Option String) (words : List String) : Except Halt Invocation := do
  let (name, ls) ← levels words
  let own := ((ls.getLast?).map (·.words)).getD []
  return ⟨optionsOf env ls, commandOf name ls own⟩

end Invocation
end GraphCalls
