/-
Splitting the words of a command line into options and others.

An option is given by its long name, `--name value` or `--name=value`, or by
a letter, `-n value`, `-nvalue` or `-n=value`. After `--` no word is an
option. A command's name ends the words of a level; those after it belong to
the command. A word that starts with a dash is never taken for the value of
the option before it, unless it is the dash alone.
-/
import GraphCalls.Number.Unsigned

namespace GraphCalls

/-- What a word is about to be used for. -/
inductive WordKind where
  | text
  | path
  | number
deriving DecidableEq

/-- Any text will do as text; a path cannot be empty. -/
def WordKind.accepts : WordKind → String → Bool
  | .text, _ => true
  | .path, w => !w.isEmpty
  | .number, w => (Unsigned.parse w).isOk

structure OptionSpec where
  name : String
  letter : Option Char
  /-- The kind of its value, if it takes one. -/
  value : Option WordKind
  /-- Whether it may be given more than once. -/
  repeats : Bool
deriving DecidableEq

/-- The words that may stand at one level of commands. -/
structure Grammar where
  options : List OptionSpec
  /-- The words beside the options, of which some may be missing. -/
  words : List WordKind
  required : Nat
  /-- Names of commands; if there are any, one must be given. -/
  commands : List String
  /-- Whether the version can be asked for. -/
  hasVersion : Bool
deriving DecidableEq

/-- Why words are no command line. -/
inductive UsageFault where
  | unexpected (word : String)
  | noValue (option : String)
  | badValue (option value : String)
  | unwantedValue (option : String)
  | repeated (option : String)
  | missingWord
  | missingCommand
deriving DecidableEq

def UsageFault.message : UsageFault → String
  | .unexpected w => "error: unexpected argument '" ++ w ++ "' found"
  | .noValue o => "error: a value is required for '--" ++ o ++ "' but none was supplied"
  | .badValue o v => "error: invalid value '" ++ v ++ "' for '" ++ o ++ "'"
  | .unwantedValue o => "error: unexpected value for '--" ++ o ++ "' found"
  | .repeated o => "error: the argument '--" ++ o ++ "' cannot be used multiple times"
  | .missingWord => "error: the following required arguments were not provided"
  | .missingCommand => "error: a command is required but none was provided"

/-- What ends the reading of words early. -/
inductive Halt where
  | help
  | version
  | usage (fault : UsageFault)
deriving DecidableEq

/-- What was given at one level. -/
structure Level where
  /-- Options and their values in order; a flag's value is empty. -/
  options : List (String × String)
  words : List String
  /-- The command, and the words after it. -/
  command : Option (String × List String)
deriving DecidableEq

namespace Level

def empty : Level := ⟨[], [], none⟩

def hasOption (l : Level) (name : String) : Bool := l.options.any (·.1 == name)

/-- The values of an option, in order. -/
def values (l : Level) (name : String) : List String :=
  (l.options.filter (·.1 == name)).map Prod.snd

end Level

namespace Grammar

/-- Adds an option with its value. -/
def giveOption (l : Level) (o : OptionSpec) (value : String) : Except Halt Level :=
  if !o.repeats && l.hasOption o.name then .error (.usage (.repeated o.name))
  else if o.value.all (·.accepts value) then
    .ok { l with options := l.options ++ [(o.name, value)] }
  else .error (.usage (.badValue o.name value))

/-- Adds a word that is no option. -/
def giveWord (g : Grammar) (l : Level) (w : String) : Except Halt Level :=
  match g.words[l.words.length]? with
  | some kind =>
    if kind.accepts w then .ok { l with words := l.words ++ [w] }
    else .error (.usage (.badValue "word" w))
  | none => .error (.usage (.unexpected w))

/-- Splits at the first equals sign. -/
def splitValue (cs : List Char) : List Char × Option (List Char) :=
  match cs.span (· != '=') with
  | (name, _ :: value) => (name, some value)
  | (name, []) => (name, none)

/-- A word that gives an option by its name. The option that still waits for
its value is given back. -/
def longOption (g : Grammar) (l : Level) (cs : List Char) : Except Halt (Level × Option OptionSpec) :=
  let (nameChars, value) := splitValue cs
  let name := String.ofList nameChars
  match g.options.find? (·.name == name) with
  | some o =>
    match o.value, value with
    | none, none => (giveOption l o "").map (·, none)
    | none, some _ => .error (.usage (.unwantedValue o.name))
    | some _, some v => (giveOption l o (String.ofList v)).map (·, none)
    | some _, none =>
      if !o.repeats && l.hasOption o.name then .error (.usage (.repeated o.name))
      else .ok (l, some o)
  | none =>
    if value.isSome then .error (.usage (.unexpected ("--" ++ name)))
    else if name = "help" then .error .help
    else if name = "version" ∧ g.hasVersion then .error .version
    else .error (.usage (.unexpected ("--" ++ name)))

/-- A word that gives an option by its letter. All of them take values. -/
def letterOption (g : Grammar) (l : Level) (c : Char) (rest : List Char) :
    Except Halt (Level × Option OptionSpec) :=
  match g.options.find? (·.letter == some c) with
  | some o =>
    match rest with
    | [] =>
      if !o.repeats && l.hasOption o.name then .error (.usage (.repeated o.name))
      else .ok (l, some o)
    | '=' :: value => (giveOption l o (String.ofList value)).map (·, none)
    | value => (giveOption l o (String.ofList value)).map (·, none)
  | none =>
    if c = 'h' then .error .help
    else if c = 'V' ∧ g.hasVersion then .error .version
    else .error (.usage (.unexpected (String.ofList ['-', c])))

/-- What a level needs at its end. -/
def finish (g : Grammar) (l : Level) : Except Halt Level :=
  if l.words.length < g.required then .error (.usage .missingWord)
  else if !g.commands.isEmpty && l.command.isNone then .error (.usage .missingCommand)
  else .ok l

/-- Reads the words of a level; `waiting` is the option whose value comes
next. -/
def read (g : Grammar) (l : Level) (waiting : Option OptionSpec) : List String → Except Halt Level
  | [] =>
    match waiting with
    | some o => .error (.usage (.noValue o.name))
    | none => g.finish l
  | w :: ws =>
    match w.toList, waiting with
    | ['-', '-'], none => do
      let l ← ws.foldlM g.giveWord l
      g.finish l
    | '-' :: _ :: _, some o => .error (.usage (.noValue o.name))
    | _, some o => do
      let l ← giveOption l o w
      g.read l none ws
    | '-' :: '-' :: cs, none => do
      let (l, waiting) ← g.longOption l cs
      g.read l waiting ws
    | '-' :: c :: cs, none => do
      let (l, waiting) ← g.letterOption l c cs
      g.read l waiting ws
    | _, none =>
      if g.commands.contains w then g.finish { l with command := some (w, ws) }
      else do
        let l ← g.giveWord l w
        g.read l none ws

end Grammar
end GraphCalls
