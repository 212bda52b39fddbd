import DiagnosticAdapter.Storage.TornLog
import DiagnosticAdapter.Sovd.Deadlock
import DiagnosticAdapter.Sovd.Expiry
import DiagnosticAdapter.Sovd.Authority
import DiagnosticAdapter.Uds.TransferExclusion
import DiagnosticAdapter.Detection.Coalescing
import DiagnosticAdapter.Detection.VerdictOrder
import DiagnosticAdapter.Detection.Connectivity
import DiagnosticAdapter.Uds.TesterOwnership
import DiagnosticAdapter.Lookup.Transparency
import DiagnosticAdapter.Doip.AckPosition
import DiagnosticAdapter.Uds.PendingSteering
import DiagnosticAdapter.Doip.Routing
import DiagnosticAdapter.Doip.OneConnection
import DiagnosticAdapter.Kernel.RequestRoundTrip
import DiagnosticAdapter.Doip.OwnFailures
import DiagnosticAdapter.Doip.GatewayNotifications
import DiagnosticAdapter.Doip.Split
import DiagnosticAdapter.Uds.FunctionalCompleteness
import DiagnosticAdapter.Mdd.FileOrder
import DiagnosticAdapter.Sovd.PublishedRoutes
import DiagnosticAdapter.Update.Overlay
import DiagnosticAdapter.Sovd.OperationExclusion
import DiagnosticAdapter.Sovd.RoutineExclusion
import DiagnosticAdapter.Update.KeepsDatabase
import DiagnosticAdapter.Storage.Agreement
import DiagnosticAdapter.Kernel.StructurePlacement
import DiagnosticAdapter.Kernel.ServicePreconditions
import DiagnosticAdapter.Uds.StateUpdates
import DiagnosticAdapter.Lookup.Inheritance
import DiagnosticAdapter.Sovd.EntryUpdate
import DiagnosticAdapter.Uds.RetryAccounting
import DiagnosticAdapter.Kernel.Polarity
import DiagnosticAdapter.Kernel.LengthKeys
import DiagnosticAdapter.Doip.Subnet
import DiagnosticAdapter.Doip.Flush
import DiagnosticAdapter.Router.NetworkAddress
import DiagnosticAdapter.Tls.PollRead
import DiagnosticAdapter.Kernel.RequestPrefix
import DiagnosticAdapter.Kernel.EndOfPduRoundTrip
import DiagnosticAdapter.Kernel.MuxMetadata
import DiagnosticAdapter.Mdd.ComParams
import DiagnosticAdapter.Kernel.SignedRoundTrip
import DiagnosticAdapter.Mdd.Files
import DiagnosticAdapter.Mdd.Uncompressed
import DiagnosticAdapter.Sovd.ComparamViews
import DiagnosticAdapter.Kernel.LinearConversion
import DiagnosticAdapter.Codec.Frame
import DiagnosticAdapter.Kernel.TextRoundTrip
import DiagnosticAdapter.Uds.DtcText
import DiagnosticAdapter.Lookup.Interning
import DiagnosticAdapter.Kernel.EndOfPduRounds
import DiagnosticAdapter.Codec.EncodeOrder
import DiagnosticAdapter.Kernel.ResponseJson
