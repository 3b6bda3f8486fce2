import PathPolicy.Main
import PathPolicy.Scenario.Calling
import PathPolicy.Scenario.Operation
import PathPolicy.Scenario.Serving
import PathPolicy.Proofs.HandleTable
import PathPolicy.Proofs.LatestOffer
import PathPolicy.Proofs.Lifecycle
import PathPolicy.Proofs.ScriptSelector
import PathPolicy.Proofs.Codec
import PathPolicy.Proofs.Frame
import PathPolicy.Proofs.ClientMachine
import PathPolicy.Proofs.ClientReplies
import PathPolicy.Proofs.StuckCalls
import PathPolicy.Proofs.SelectorMessage
import PathPolicy.Proofs.Link
import PathPolicy.Proofs.SelectorService
import PathPolicy.Proofs.Failover
import PathPolicy.Proofs.Mirror
import PathPolicy.Proofs.SelectorRequest
import PathPolicy.Proofs.RemoteReference
import PathPolicy.Proofs.Connected
import PathPolicy.Proofs.RemoteSelector
import PathPolicy.Proofs.FrameStream
import PathPolicy.Proofs.ClientIsolation
import PathPolicy.Proofs.Interleaving
import PathPolicy.Proofs.Reopening
import PathPolicy.Proofs.Delivery
import PathPolicy.Proofs.TableAgreement
import PathPolicy.Proofs.FailingCalls
import PathPolicy.Proofs.CutStream
import PathPolicy.Proofs.Lossless
import PathPolicy.Proofs.RoundTrip
import PathPolicy.Proofs.Canonical
import PathPolicy.Proofs.TracerCalls
import PathPolicy.Proofs.TracerRun
import PathPolicy.Proofs.TracingIds
import PathPolicy.Proofs.RequiredFields
import PathPolicy.Proofs.EventMessages
import PathPolicy.Proofs.TracerService
import PathPolicy.Proofs.MalformedCalls
import PathPolicy.Proofs.Keeping
import PathPolicy.Proofs.SharedClient
import PathPolicy.Proofs.OfferedKeys
import PathPolicy.Proofs.ServedCalls
import PathPolicy.Proofs.CurrentPaths
import PathPolicy.Proofs.StandIn
import PathPolicy.Proofs.RequestTasks
import PathPolicy.Proofs.RequestAccounts
import PathPolicy.Proofs.AnsweredRequests
import PathPolicy.Proofs.ForwardedCalls
import PathPolicy.Proofs.ForwardingSources
import PathPolicy.Proofs.ForwardingTurns
import PathPolicy.Proofs.Forwarding
import PathPolicy.Proofs.CurrentOffers
import PathPolicy.Proofs.ClosedRemotes
import PathPolicy.Proofs.ClosedReports
import PathPolicy.Proofs.FarEndChoice
import PathPolicy.Proofs.AnsweredHandles
import PathPolicy.Proofs.ServedConnections
import PathPolicy.Proofs.Farewells
import PathPolicy.Proofs.PolicyBuilding
import PathPolicy.Proofs.RemoteChoices
import PathPolicy.Proofs.PathInUse
import PathPolicy.Proofs.RetainedTables
import PathPolicy.Proofs.TableNames
import PathPolicy.Proofs.ScriptContainment
import PathPolicy.Proofs.UnheardEvents
import PathPolicy.Proofs.ErrorHops
import PathPolicy.Proofs.Layers
