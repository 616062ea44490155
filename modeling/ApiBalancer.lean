import ApiBalancer.CommandLine.Log
import ApiBalancer.CommandLine.Run
import ApiBalancer.Engine.ScriptedHost
import ApiBalancer.FileTree
import ApiBalancer.Fleet.Timeline
import ApiBalancer.Main
import ApiBalancer.Proofs.InventoryRun
import ApiBalancer.Proofs.UpdateScript
import ApiBalancer.Proofs.BalancerRun
import ApiBalancer.Proofs.FleetRun
import ApiBalancer.Proofs.Site
import ApiBalancer.Proofs.Agreement
import ApiBalancer.Proofs.CallerLines
import ApiBalancer.Proofs.Resumption
import ApiBalancer.Proofs.TrafficSteps
import ApiBalancer.Proofs.Turns
import ApiBalancer.Proofs.Books
import ApiBalancer.Proofs.CallersInTurn
import ApiBalancer.Proofs.Creations
import ApiBalancer.Proofs.Crowd
import ApiBalancer.Proofs.ForgottenSlots
import ApiBalancer.Proofs.CancelledCallers
import ApiBalancer.Proofs.Failures
import ApiBalancer.Proofs.Retries
import ApiBalancer.Proofs.LikeEngines
import ApiBalancer.Proofs.Crews
import ApiBalancer.Proofs.JsonRoundTrip
import ApiBalancer.Proofs.DockerHost
import ApiBalancer.Proofs.EnginesAgree
import ApiBalancer.Proofs.Requests
import ApiBalancer.Proofs.Handles
import ApiBalancer.Proofs.Containers
import ApiBalancer.Proofs.Histories
import ApiBalancer.Proofs.InventoryHistory
import ApiBalancer.Proofs.ContainerRecords
import ApiBalancer.Proofs.InjectedFaults
import ApiBalancer.Proofs.Images
import ApiBalancer.Proofs.Forgetting
import ApiBalancer.Proofs.Realms
import ApiBalancer.Proofs.SeparateClusters
import ApiBalancer.Proofs.TomlDocuments
import ApiBalancer.Proofs.ServedRequests
import ApiBalancer.Proofs.FailureReports
import ApiBalancer.Proofs.LookUpCounts
import ApiBalancer.Proofs.CommandOutcomes
import ApiBalancer.Proofs.SettingsRoundTrip
import ApiBalancer.Proofs.RenderedUpdate
import ApiBalancer.Proofs.BackendArguments
import ApiBalancer.Proofs.CancelledOperations
import ApiBalancer.Proofs.JsonSpelling
import ApiBalancer.Proofs.JsonLayout
import ApiBalancer.Proofs.ExchangeRoundTrip
import ApiBalancer.Proofs.DocumentReader
import ApiBalancer.Proofs.DirectiveWords
import ApiBalancer.Proofs.RefusedBackends
import ApiBalancer.Proofs.BackendRecords
import ApiBalancer.Proofs.QueryDemands
import ApiBalancer.Proofs.Resolution
import ApiBalancer.Proofs.JsonGrammar
import ApiBalancer.Proofs.InspectedAddress
import ApiBalancer.Proofs.ListingOrder
import ApiBalancer.Proofs.LabelArguments
import ApiBalancer.Proofs.TomlNumbers
import ApiBalancer.Proofs.TomlDates
import ApiBalancer.Proofs.TomlTexts
import ApiBalancer.Proofs.TomlKeys
import ApiBalancer.Proofs.TomlValues
import ApiBalancer.Proofs.TomlGrammar
import ApiBalancer.Proofs.TomlTables
import ApiBalancer.Proofs.SettingsDocuments
import ApiBalancer.Proofs.EndpointAddresses
import ApiBalancer.Proofs.AssignedAddresses
