import AgenticNetops.Srv6service.NodeIsolation
import AgenticNetops.Kuid.Claim
import AgenticNetops.Kuid.ClaimNames
import AgenticNetops.Kuid.Lease
import AgenticNetops.Srv6service.Allocate
import AgenticNetops.Srv6service.ClientSubnets
import AgenticNetops.Kubenet.Network
import AgenticNetops.Srv6service.Gates
import AgenticNetops.Srv6service.Apply
import AgenticNetops.Srv6service.Verify
import AgenticNetops.Lib.Exits
import AgenticNetops.Lib.Runs
import AgenticNetops.Srv6service.Pass
import AgenticNetops.Srv6service.Reconcile
import AgenticNetops.Srv6service.Calls
import AgenticNetops.Srv6service.UpdateAtomic
import AgenticNetops.Lib.Pending
import AgenticNetops.Srv6service.PassEnd
import AgenticNetops.Srv6service.World
import AgenticNetops.Srv6service.DeletionSafety
import AgenticNetops.Srv6service.PortExclusive
import AgenticNetops.Kuid.Holdings
import AgenticNetops.Srv6service.ClaimStage
import AgenticNetops.Srv6service.PassClaims
import AgenticNetops.Srv6service.HeldInUse
import AgenticNetops.Srv6service.ServiceIDs
import AgenticNetops.Srv6service.ReadyWrites
import AgenticNetops.Srv6service.NoResidue
import AgenticNetops.Lib.IPNetwork
import AgenticNetops.Provisioning.KuidClient
import AgenticNetops.Schemas.Interpretation
import AgenticNetops.Schemas.NormalizedIntent
import AgenticNetops.Provisioning.Allocator
import AgenticNetops.Provisioning.ClientCalls
import AgenticNetops.Provisioning.BuildIntent
import AgenticNetops.Provisioning.HeldIdentifiers
import AgenticNetops.Supervisor.Nodes
import AgenticNetops.Lib.EventLog
import AgenticNetops.Supervisor.Thread
import AgenticNetops.Supervisor.Moves
import AgenticNetops.Supervisor.Confirmed
import AgenticNetops.Supervisor.Questions
import AgenticNetops.Provisioning.Unclaimed
import AgenticNetops.Supervisor.Unsubmitted
import AgenticNetops.Fabricplan.Commands
import AgenticNetops.Migration.Acl
import AgenticNetops.Fabricplan.Derivations
import AgenticNetops.Provisioning.LeaseRace
import AgenticNetops.Kuid.LeaseRace
import AgenticNetops.Lib.Json
import AgenticNetops.Deployer.Objects
import AgenticNetops.Deployer.Submit
import AgenticNetops.Deployer.AllOrNothing
import AgenticNetops.Deployer.AclBinding
import AgenticNetops.Migration.Constructs
import AgenticNetops.Migration.Input
import AgenticNetops.Provisioning.ConfirmedFields
import AgenticNetops.Migration.Translate
import AgenticNetops.Api.Admission
import AgenticNetops.Migration.SRv6Admission
import AgenticNetops.Migration.SRv6Carriage
import AgenticNetops.Migration.Decode
import AgenticNetops.Schemas.Dump
import AgenticNetops.Migration.Wire
import AgenticNetops.Migration.AclRules
import AgenticNetops.Schemas.ValidationRules
import AgenticNetops.Migration.Posted
import AgenticNetops.Migration.Agreement
import AgenticNetops.Lib.Regex
import AgenticNetops.Mapper.Patterns
import AgenticNetops.Mapper.Parsing
import AgenticNetops.Mapper.SRv6
import AgenticNetops.Schemas.InterpretationChecks
import AgenticNetops.Mapper.Agent
import AgenticNetops.Provisioning.SRv6Claims
import AgenticNetops.Mapper.Transport
import AgenticNetops.Common.Redaction
import AgenticNetops.Lib.JsonText
import AgenticNetops.Kuid.Repeats
import AgenticNetops.Provisioning.ClaimNames
import AgenticNetops.Kuid.Accounting
import AgenticNetops.Srv6service.ConflictDecision
import AgenticNetops.Srv6service.TerminalRefusals
import AgenticNetops.Srv6service.ObservedNodes
import AgenticNetops.Srv6service.Resync
import AgenticNetops.Srv6service.ReadyJustified
import AgenticNetops.Srv6service.Reuse
import AgenticNetops.Srv6service.SteadyState
import AgenticNetops.Srv6service.AppliedPlan
import AgenticNetops.Fabricplan.AccessLists
import AgenticNetops.Fabricplan.Network
import AgenticNetops.FabricExecutor.Apply
import AgenticNetops.Sonicprovider.NetworkController
import AgenticNetops.Sonicprovider.FinalizerSafety
import AgenticNetops.Fabricplan.TwoEnds
import AgenticNetops.Srv6service.HashGate
import AgenticNetops.Lib.GroupText
import AgenticNetops.Srv6service.LocatorSids
import AgenticNetops.Fabricplan.VlanIds
import AgenticNetops.Srv6service.PathReading
import AgenticNetops.Fabricplan.PlanVlans
import AgenticNetops.Migration.ControllerView
import AgenticNetops.Lib.DottedText
import AgenticNetops.Fabricplan.GatewayHost
import AgenticNetops.Migration.AclEntries
import AgenticNetops.Fabricplan.PlanShape
import AgenticNetops.Fabricplan.Renderings
import AgenticNetops.Fabricplan.PlanOrder
import AgenticNetops.Fabricplan.RenderingReads
import AgenticNetops.Fabricplan.PlanOrderNeeded
import AgenticNetops.Fabricplan.PlanChoices
import AgenticNetops.Migration.SiteNames
import AgenticNetops.Migration.AclNames
import AgenticNetops.FabricExecutor.DockerTransport
import AgenticNetops.FabricExecutor.SshTransport
import AgenticNetops.Migration.Vocabulary
import AgenticNetops.Migration.Batch
import AgenticNetops.Migration.BatchDocuments
import AgenticNetops.FabricExecutor.FrrConf
import AgenticNetops.Sonicprovider.StatusClock
import AgenticNetops.FabricExecutor.ConfigPatch
import AgenticNetops.FabricExecutor.RaceConfirm
import AgenticNetops.FabricExecutor.TextChecks
import AgenticNetops.Lib.JsonScanner
import AgenticNetops.Lib.JsonDocument
import AgenticNetops.Lib.GoBytes
import AgenticNetops.Migration.BatchBytes
import AgenticNetops.FabricExecutor.GcuPromotion
import AgenticNetops.FabricExecutor.PromotionRuns
import AgenticNetops.FabricExecutor.PromotionMeaning
import AgenticNetops.FabricExecutor.PromotionExact
import AgenticNetops.Supervisor.Bounds
import AgenticNetops.Supervisor.Outages
import AgenticNetops.Deployer.Watch
import AgenticNetops.Deployer.ServiceStatus
import AgenticNetops.Supervisor.SRv6Gates
import AgenticNetops.Lib.NetworkText
import AgenticNetops.Mapper.Answers
import AgenticNetops.Lib.RegexMeaning
import AgenticNetops.Supervisor.Constructs
import AgenticNetops.Lib.RegexCut
import AgenticNetops.Mapper.FilterClauses
import AgenticNetops.Lib.RegexFirst
import AgenticNetops.Mapper.ClauseText
import AgenticNetops.Lib.RegexPieces
import AgenticNetops.Mapper.ClauseRequests
import AgenticNetops.Common.RedactionShapes
import AgenticNetops.Common.RedactionCuts
import AgenticNetops.Common.RedactionStable
import AgenticNetops.Lib.RegexAlike
import AgenticNetops.Common.RedactionForms
import AgenticNetops.Common.RedactionPlaces
import AgenticNetops.Common.RedactionSteps
import AgenticNetops.Common.RedactionStands
import AgenticNetops.Common.RedactionTokens
import AgenticNetops.Common.RedactionKeys
import AgenticNetops.Common.RedactionComplete
import AgenticNetops.FabricExecutor.Southbound
import AgenticNetops.Lib.Traces
import AgenticNetops.Srv6service.Recovery
import AgenticNetops.FabricExecutor.ApplyAccount
import AgenticNetops.FabricExecutor.Containment
import AgenticNetops.Compat.Pins
import AgenticNetops.Sonicprovider.DeviceController
import AgenticNetops.Sonicprovider.DeviceSafety
import AgenticNetops.Supervisor.Stream
import AgenticNetops.Supervisor.Wire
