/-
What can go wrong with a command.

An error is a chain of messages: what was attempted, and why it failed.
-/
import GraphCalls.Call.Error
import GraphCalls.Files.Fault
import GraphCalls.Number.Unsigned

namespace GraphCalls

inductive CommandError where
  | unpaired (text : String)
  | unnamed (text : String)
  | unknownSetting (key : String)
  | badTimeout (text : String) (fault : NumberFault)
  | noEndpoint
  | call (error : CallError)
  | unreadableSchema (path : String) (fault : FileFault)
  | badSchema (path : String) (error : SchemaError)
  | unreadableBatch (path : String) (fault : FileFault)
  | badBatch (path : String) (error : ReadError)
  | badProfiles (path : String)
  | noHome
  | file (fault : FileFault)
  | unwritable (path : String) (fault : FileFault)
deriving DecidableEq

namespace CommandError

/-- The messages of an error, the outermost first. -/
def messages : CommandError → List String
  | .unpaired text => ["Expected name=value, got " ++ text]
  | .unnamed text => ["Empty name in " ++ text]
  | .unknownSetting key =>
    ["Unknown config key: " ++ key ++ ". Valid keys: endpoint, timeout_ms, header.<name>"]
  | .badTimeout text fault => ["timeout_ms must be a number, got " ++ text, fault.message]
  | .noEndpoint =>
    ["No endpoint configured. Use --endpoint, set GQLBATCH_ENDPOINT, " ++
      "or run: gqlbatch config set endpoint <url>"]
  | .call e => [e.message]
  | .unreadableSchema path fault => ["Cannot read schema file " ++ path, fault.message]
  | .badSchema path e => ["Invalid schema file " ++ path, e.message]
  | .unreadableBatch path fault => ["Cannot read batch file " ++ path, fault.message]
  | .badBatch path e => ["Invalid batch file " ++ path, e.message]
  | .badProfiles path => ["Invalid config file " ++ path, "text holds no profiles"]
  | .noHome => ["Cannot determine home directory"]
  | .file fault => [fault.message]
  | .unwritable path fault => ["Cannot write " ++ path, fault.message]

/-- What was attempted. -/
def outermost (e : CommandError) : String := e.messages.headD ""

def message (e : CommandError) : String := String.intercalate ": " e.messages

end CommandError

/-- The error of a configuration that is refused. -/
def ConfigFault.toCommandError (f : ConfigFault) : CommandError := .call (.config f)

end GraphCalls
