import MinimalSip.Networking.TcpTransport
import MinimalSip.Proxy.CallIsolation
import MinimalSip.Proxy.ActiveCalls
import MinimalSip.Proxy.ResponsePaths
import MinimalSip.Proxy.SipProxy
import MinimalSip.Client.InviteDelivery
import MinimalSip.Proxy.Rejections
import MinimalSip.Proxy.RegistrationHistory
import MinimalSip.Proxy.Transparency
import MinimalSip.Proxy.Establishment
import MinimalSip.Proxy.LineEnds
import MinimalSip.Lib.Concurrent
import MinimalSip.Proxy.RouterPrograms
import MinimalSip.Proxy.Interleavings
import MinimalSip.Common.ThreadSafeQueue
import MinimalSip.Networking.Shutdown
import MinimalSip.Client.SipClientState
import MinimalSip.Client.SipInviteHandler
import MinimalSip.Client.SipClient
import MinimalSip.Client.CallState
import MinimalSip.Client.PacketHandling
import MinimalSip.Client.EstablishedCall
import MinimalSip.Client.RegisteredState
import MinimalSip.Calls.CallProtocol
import MinimalSip.Calls.ProtocolInvariants
import MinimalSip.Calls.ProtocolDeliveries
import MinimalSip.Calls.ProtocolAgreement
import MinimalSip.Calls.ProtocolRelease
import MinimalSip.Client.Letters
import MinimalSip.Calls.Agreement
import MinimalSip.Calls.Release
import MinimalSip.Client.RegisterReplies
import MinimalSip.Client.HeaderInjection
import MinimalSip.Client.EchoedHeaders
import MinimalSip.Client.RawViews
import MinimalSip.Proxy.Identities
import MinimalSip.Proxy.RegisteredUsers
import MinimalSip.Proxy.GaugeInterleavings
import MinimalSip.Networking.TcpDescriptors
import MinimalSip.Proxy.LocalAnswers
import MinimalSip.Client.SequenceNumbers
import MinimalSip.Calls.Quiescence
import MinimalSip.Calls.Progress
import MinimalSip.Proxy.Destinations
import MinimalSip.Proxy.HeaderAudit
import MinimalSip.Proxy.MetricsServer
import MinimalSip.Networking.PacketPipeline
import MinimalSip.Proxy.SingleWorker
import MinimalSip.Registrations.RegistrationProtocol
import MinimalSip.Registrations.RegistrationSystem
import MinimalSip.Registrations.RegisteredPhones
import MinimalSip.Client.Notifications
import MinimalSip.Ui.MainWindow
import MinimalSip.Ui.SipQtApp
import MinimalSip.Ui.ClientRuns
import MinimalSip.Ui.WindowState
import MinimalSip.Ui.RegistrationDisplay
import MinimalSip.Ui.InjectedHeaders
import MinimalSip.Networking.UdpTransport
import MinimalSip.Client.CliHandler
import MinimalSip.Client.CommandLoop
import MinimalSip.Client.TypedRequests
import MinimalSip.Lib.Locality
