import GraphCalls.Call.Session
import GraphCalls.Main
import GraphCalls.Proofs.Call.Allocation
import GraphCalls.Proofs.Call.DraftHistory
import GraphCalls.Proofs.Call.ReadBack
import GraphCalls.Proofs.Call.SessionHistory
import GraphCalls.Proofs.Call.Wire
import GraphCalls.Proofs.Command.BatchFile
import GraphCalls.Proofs.Command.DryRun
import GraphCalls.Proofs.Command.HeaderSources
import GraphCalls.Proofs.Command.PlannedValues
import GraphCalls.Proofs.Command.SavedSchema
import GraphCalls.Proofs.Json.Numerals
import GraphCalls.Proofs.Json.Order
import GraphCalls.Proofs.Json.RoundTrip
import GraphCalls.Proofs.Schema.AnswerRegistry
import GraphCalls.Proofs.Schema.CallDepth
import GraphCalls.Proofs.Schema.FirstOccurrence
import GraphCalls.Proofs.Schema.Locality
import GraphCalls.Proofs.Schema.NumbersIgnored
import GraphCalls.Proofs.Schema.Reachable
import GraphCalls.Proofs.Schema.Received
import GraphCalls.Proofs.Json.Spelling
import GraphCalls.Proofs.Json.Records
import GraphCalls.Proofs.Command.SingleCalls
import GraphCalls.Proofs.Call.ResponseText
import GraphCalls.Proofs.Json.Decoding
import GraphCalls.Proofs.Call.TypedData
import GraphCalls.Proofs.Call.WrittenResponse
import GraphCalls.Proofs.Schema.Failure
import GraphCalls.Proofs.Schema.SharedMemo
import GraphCalls.Proofs.Command.RepeatedArguments
import GraphCalls.Proofs.Http.HeaderOrder
import GraphCalls.Proofs.Command.ResolvedConfig
import GraphCalls.Proofs.Schema.UniqueReading
import GraphCalls.Proofs.Command.SettingHistory
import GraphCalls.Proofs.Call.DeclaredTypes
import GraphCalls.Proofs.Command.ArgumentWords
import GraphCalls.Proofs.Call.BatchHistory
