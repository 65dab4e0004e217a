/-
What can go wrong while calls are planned, batched, configured or sent.
-/
import GraphCalls.Json.Datum
import GraphCalls.Schema.Error

namespace GraphCalls

/-- Why an endpoint or a whole configuration is refused. -/
inductive ConfigFault where
  | badEndpoint (text reason : String)
  | badScheme (scheme : String)
  | zeroTimeout
  | unreadableFile (path reason : String)
  | badDocument
deriving DecidableEq

def ConfigFault.message : ConfigFault → String
  | .badEndpoint text reason => "invalid endpoint " ++ text ++ ": " ++ reason
  | .badScheme scheme => "endpoint scheme must be http or https, got " ++ scheme
  | .zeroTimeout => "timeout_ms must be greater than 0"
  | .unreadableFile path reason => "cannot read " ++ path ++ ": " ++ reason
  | .badDocument => "invalid configuration"

/-- What can go wrong with a call. -/
inductive CallError where
  | badResponse (status : Nat) (body : String)
  | timeout (milliseconds : Nat)
  | transport (reason : String)
  | invalidRequest (error : WriteError)
  | invalidResponse (error : ReadError)
  | duplicateAlias (aliasName : String)
  | unknownField (kind : OperationKind) (field : String)
  | unknownArgument (field argument : String)
  | schema (error : SchemaError)
  | config (fault : ConfigFault)
deriving DecidableEq

namespace CallError

def message : CallError → String
  | .badResponse status body => "Bad response(" ++ toString status ++ ") from server: " ++ body
  | .timeout ms => "Request timed out after " ++ toString ms ++ "ms"
  | .transport reason => "Transport error: " ++ reason
  | .invalidRequest e => "Invalid GraphQL request: " ++ e.message
  | .invalidResponse _ => "Invalid GraphQL response"
  | .duplicateAlias aliasName => "Duplicate alias in batch: " ++ aliasName
  | .unknownField kind field => "Unknown " ++ kind.text ++ " field: " ++ field
  | .unknownArgument field argument => "Field " ++ field ++ " has no argument " ++ argument
  | .schema e => e.message
  | .config fault => "Configuration error: " ++ fault.message

def isTimeout : CallError → Bool
  | .timeout _ => true
  | _ => false

def isBadResponse : CallError → Bool
  | .badResponse _ _ => true
  | _ => false

/-- The status of a bad response. -/
def status? : CallError → Option Nat
  | .badResponse status _ => some status
  | _ => none

end CallError
end GraphCalls
