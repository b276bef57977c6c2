import VkTurn.Transition.Machine
import VkTurn.Text.Trim
import VkTurn.SessionProto.Hello
import VkTurn.SessionProto.Control
import VkTurn.SessionProto.MuV1
import VkTurn.Server.UserSession
import VkTurn.Server.SessionManager
import VkTurn.Server.SessionRegistry
import VkTurn.Server.Negotiation
import VkTurn.Server.HandshakeAgreement
import VkTurn.Server.Mainline
import VkTurn.Server.MainlineTransparency
import VkTurn.Client.LinkHealth
import VkTurn.Client.GroupCreds
import VkTurn.Client.CredentialBlame
import VkTurn.Text.Split
import VkTurn.Client.Options
import VkTurn.Launcher.ProxyArgs
import VkTurn.Launcher.ArgsAgreement
import VkTurn.Client.Workers
import VkTurn.Server.StreamIdentity
import VkTurn.Client.TcpMode
import VkTurn.Client.TcpSessions
import VkTurn.Server.TcpFlavorAgreement
import VkTurn.WbStream.Frame
import VkTurn.WbStream.Room
import VkTurn.WbStream.Isolation
import VkTurn.Panel.Database
import VkTurn.Store.Holding
import VkTurn.Text.Float64
import VkTurn.Panel.ClientCalls
import VkTurn.Daemon.Manager
import VkTurn.Daemon.Signals
import VkTurn.Client.CredsThreads
import VkTurn.Client.StaleCreds
import VkTurn.Frontend.RouteStatus
import VkTurn.Frontend.RouteSupervisor
import VkTurn.Frontend.RouteContract
import VkTurn.Frontend.VkTurnRunner
import VkTurn.Frontend.TerminalStatus
import VkTurn.Frontend.WingsvImporter
import VkTurn.Frontend.WgConfigGenerator
import VkTurn.Text.OneLine
import VkTurn.Panel.DesiredSpecs
import VkTurn.Panel.LaunchAgreement
import VkTurn.Frontend.DesktopVpnRunner
import VkTurn.Frontend.OrphanTunnel
import VkTurn.Frontend.DtlsSignal
import VkTurn.Frontend.VkturnVpnService
import VkTurn.Frontend.VpnLeftovers
import VkTurn.Server.ProbeAgreement
import VkTurn.Frontend.ProxyEvents
import VkTurn.Client.Captcha
import VkTurn.Frontend.CaptchaPrompts
import VkTurn.Panel.HeartbeatLines
import VkTurn.Server.HeartbeatAgreement
import VkTurn.WbStream.AddressMap
import VkTurn.WbStream.SessionPool
import VkTurn.WbStream.PoolGuarantees
import VkTurn.Panel.ProxyRuntime
import VkTurn.Panel.Reconcile
import VkTurn.Panel.ManualStop
import VkTurn.Frontend.ConfigPersistence
import VkTurn.Daemon.ControlMessage
import VkTurn.Daemon.Protector
import VkTurn.Panel.PeerBinding
import VkTurn.Panel.UniqueBindings
import VkTurn.Server.SessionLeak
import VkTurn.WbStream.FrameCodec
import VkTurn.Panel.Inbounds
import VkTurn.Panel.PeerValidity
import VkTurn.Panel.XrayConfig
import VkTurn.Panel.XrayRestart
import VkTurn.Panel.PeerConservation
import VkTurn.Panel.Traffic
import VkTurn.Panel.TrafficLedgers
import VkTurn.Panel.TrafficRenewal
import VkTurn.Panel.TrafficAccounting
import VkTurn.Panel.ClientRecords
import VkTurn.Panel.XrayClients
import VkTurn.Panel.ClientEmails
import VkTurn.Panel.RuntimeAgreement
import VkTurn.Panel.PanelReads
import VkTurn.Panel.QuotaEnforcement
import VkTurn.Client.Dispatch
import VkTurn.Client.GhostStreams
import VkTurn.Client.LeaderElection
import VkTurn.Client.LinkFallback
import VkTurn.Client.PoolCreds
import VkTurn.Client.PoolDiscipline
import VkTurn.Server.SessionMap
import VkTurn.WbStream.PeerShutdown
import VkTurn.Client.RefreshDiscipline
import VkTurn.Daemon.UpAtomicity
import VkTurn.WbStream.BackendBridge
import VkTurn.WbStream.BridgeLeaks
import VkTurn.Frontend.TruthfulConnected
import VkTurn.Daemon.LogSubscriptions
import VkTurn.Daemon.LogReaders
import VkTurn.Daemon.StagedFiles
import VkTurn.Daemon.InterfaceNames
import VkTurn.Model.Tree
import VkTurn.Frontend.AppViewModel
import VkTurn.Frontend.ActiveSelection
import VkTurn.Frontend.VlessLink
import VkTurn.Frontend.SingBoxConfig
import VkTurn.Frontend.ChainedRoutes
import VkTurn.Text.KotlinDecimal
import VkTurn.Transition.Chain
import VkTurn.Frontend.ImportTermination
import VkTurn.Client.StatusMarkers
import VkTurn.Frontend.StatusEvents
import VkTurn.Client.CaptchaSolver
import VkTurn.Client.CaptchaTermination
import VkTurn.Text.PercentEncoding
import VkTurn.Frontend.VlessDecoding
import VkTurn.Frontend.VlessRoundTrip
import VkTurn.Text.Serializer
import VkTurn.Text.KotlinJson
import VkTurn.Model.RouteJson
import VkTurn.Model.TreeJson
import VkTurn.Model.SettingsV0
import VkTurn.Frontend.Migration
import VkTurn.Frontend.MigrationLoss
import VkTurn.Order.Boundaries
import VkTurn.Transition.Loop
import VkTurn.Client.SliderTiles
import VkTurn.Client.SliderRendering
import VkTurn.Client.SliderScore
import VkTurn.Text.Leftmost
import VkTurn.Store.Grouping
import VkTurn.Panel.XrayStats
import VkTurn.Panel.XrayCounters
import VkTurn.Panel.TrafficDemultiplexing
import VkTurn.Panel.PeerTraffics
import VkTurn.Panel.PeerAttribution
import VkTurn.Panel.OnlineClients
import VkTurn.Panel.OnlineMerging
import VkTurn.Text.Margins
import VkTurn.Text.CutLines
import VkTurn.Panel.LogWriter
import VkTurn.Panel.InboundAddition
import VkTurn.Panel.ExportConfig
import VkTurn.Panel.ExportAll
import VkTurn.Frontend.DesktopStatus
import VkTurn.Panel.DepletedClients
import VkTurn.Panel.DisableEnable
import VkTurn.Panel.WebSocketHub
import VkTurn.Store.Hoisting
import VkTurn.Panel.StatsRouting
import VkTurn.Text.SqlLike
import VkTurn.Panel.AtomicEdits
import VkTurn.Panel.ClientIpJob
import VkTurn.Panel.IpLimit
import VkTurn.Panel.CustomGeo
import VkTurn.Panel.RenewalExpiry
