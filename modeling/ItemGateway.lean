import ItemGateway.Main
import ItemGateway.Proofs.CompleteServers
import ItemGateway.Proofs.LinkMoves
import ItemGateway.Proofs.PoolRuns
import ItemGateway.Proofs.PoolInvariant
import ItemGateway.Proofs.AddressSplit
import ItemGateway.Proofs.DispatchFrame
import ItemGateway.Proofs.GatewayCalls
import ItemGateway.Proofs.ItemHistory
import ItemGateway.Proofs.LastValues
import ItemGateway.Proofs.RepeatedCommands
import ItemGateway.Proofs.SqueezedUpdates
import ItemGateway.Proofs.PayloadShape
import ItemGateway.Proofs.PayloadFields
import ItemGateway.Proofs.RowFields
import ItemGateway.Proofs.WrappedCommands
import ItemGateway.Proofs.BindingText
import ItemGateway.Proofs.RegisteredLinks
import ItemGateway.Proofs.ClosedLinks
import ItemGateway.Proofs.ConnectedLinks
import ItemGateway.Proofs.Enrollment
import ItemGateway.Proofs.ConfiguredServers
import ItemGateway.Proofs.ApartLinks
import ItemGateway.Proofs.TwinPools
import ItemGateway.Proofs.FailingServer
import ItemGateway.Proofs.ReplacedLinks
import ItemGateway.Proofs.JoinedRows
import ItemGateway.Proofs.RowChanges
import ItemGateway.Proofs.BoundPayloads
import ItemGateway.Proofs.DurableStorage
import ItemGateway.Proofs.ReopenedLinks
import ItemGateway.Proofs.SteadyPools
import ItemGateway.Proofs.RefreshedItems
import ItemGateway.Proofs.BindingForm
import ItemGateway.Proofs.FirstRows
import ItemGateway.Proofs.Obstacles
import ItemGateway.Proofs.ProgramOutcome
import ItemGateway.Proofs.IndistinctLinks
import ItemGateway.Proofs.IndistinctPools
import ItemGateway.Proofs.IndistinctConfigs
import ItemGateway.Proofs.HiddenPasswords
import ItemGateway.Proofs.PayloadSegments
import ItemGateway.Proofs.TemplateFragments
import ItemGateway.Proofs.TemplateMarks
import ItemGateway.Proofs.DescribedServers
import ItemGateway.Proofs.CommandWords
import ItemGateway.Proofs.RefreshInterval
import ItemGateway.Proofs.DatabasePaths
