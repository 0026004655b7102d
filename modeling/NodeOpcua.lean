import NodeOpcua.PacketAssembler.Fragmentation
import NodeOpcua.Transport.Negotiation
import NodeOpcua.SecureChannel.Authentication
import NodeOpcua.SecureChannel.OutputProtection
import NodeOpcua.NumericRange.RoundTrip
import NodeOpcua.Server.Subscription.Transfer
import NodeOpcua.Server.Subscription.Uncollected
import NodeOpcua.Server.ServerEngine
import NodeOpcua.Server.PublishEngine.Sessions
import NodeOpcua.RoleSet.Atomicity
import NodeOpcua.LikeMatcher.Grammar
import NodeOpcua.RelativePath.Grammar
import NodeOpcua.ContentFilter.Evaluation
import NodeOpcua.RoleSet.RestrictionPersistence
import NodeOpcua.AddressSpace.SessionContext
import NodeOpcua.Aggregates.AnswersOnce
import NodeOpcua.AlarmsAndConditions.ShelvedStateMachine
import NodeOpcua.AddressSpace.SymbolicNames
import NodeOpcua.FileTransfer.FileHandles
import NodeOpcua.ServerConfiguration.FileTransactions
import NodeOpcua.StateMachine.Coherence
import NodeOpcua.Client.PublishPipeline
import NodeOpcua.Client.Acknowledgements
import NodeOpcua.Client.Republish
import NodeOpcua.AlarmsAndConditions.Reenabling
import NodeOpcua.AddressSpace.CachedNavigation
import NodeOpcua.AddressSpace.SubtypeAnswers
import NodeOpcua.AlarmsAndConditions.Occurrences
import NodeOpcua.RoleSet.ArchiveConsistency
import NodeOpcua.ExtensionObject.Framing
import NodeOpcua.DynamicSchema.Faithfulness
import NodeOpcua.AddressSpace.ConcurrentReads
import NodeOpcua.Server.OwnershipRuns
import NodeOpcua.Client.RequestsServed
import NodeOpcua.Client.RepairComplete
import NodeOpcua.Server.ActivationSafety
import NodeOpcua.SecureChannel.PaddingRemoval
import NodeOpcua.Server.MonitoredItem.Deadband
import NodeOpcua.Server.PublishEngine.Starving
import NodeOpcua.Server.Subscription.Triggering
import NodeOpcua.Server.MonitoredItem.Modify
import NodeOpcua.AliasName.LastChange
import NodeOpcua.BasicTypes.Int64
import NodeOpcua.ContentFilter.Order
import NodeOpcua.RoleSet.X509Subject
import NodeOpcua.NumericRange.Writing
import NodeOpcua.Aggregates.Interpolate
import NodeOpcua.Aggregates.MinMax
import NodeOpcua.Server.Queue
import NodeOpcua.SecureChannel.NonceCache
import NodeOpcua.DataModel.QualifiedName
import NodeOpcua.ModifiableStatusCode
import NodeOpcua.AddressSpace.NamespaceOrder
import NodeOpcua.Transport.ReceiverFragmentation
