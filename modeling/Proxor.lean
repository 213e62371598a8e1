import Proxor.Lib.Prog
import Proxor.Lib.Text
import Proxor.Lib.SemVer
import Proxor.Lib.Monitor
import Proxor.MacHelper.SysproxyPlan
import Proxor.MacHelper.SysproxyManager
import Proxor.MacHelper.SimNet
import Proxor.MacHelper.Capture
import Proxor.MacHelper.PerService
import Proxor.MacHelper.ManagerStep
import Proxor.MacHelper.Recoverable
import Proxor.MacHelper.ManagerRuns
import Proxor.MacHelper.CrashRecovery
import Proxor.MacHelper.Server
import Proxor.MacHelper.Helper
import Proxor.MacHelper.EventRouting
import Proxor.MacHelper.DeadMan
import Proxor.MacHelper.TunRunner
import Proxor.MacHelper.TunLifecycle
import Proxor.MacHelper.TunServer
import Proxor.MacHelper.StopRetry
import Proxor.MacHelper.TunNotices
import Proxor.MacHelper.OwnersTold
import Proxor.Core.GrpcBox
import Proxor.Lib.OrdMap
import Proxor.Lib.Json
import Proxor.Lib.Double
import Proxor.Lib.Run
import Proxor.Db.ProfileManager
import Proxor.Db.Consistency
import Proxor.Db.Operations
import Proxor.Db.LoadManager
import Proxor.Fmt.ChainBean
import Proxor.Db.Loaded
import Proxor.Db.StoreInvariant
import Proxor.Db.ProfilePart
import Proxor.Db.GroupPart
import Proxor.Db.BuildChain
import Proxor.Db.Identifiers
import Proxor.Db.Renumbering
import Proxor.Db.ReorderProfiles
import Proxor.Db.References
import Proxor.Db.Migrate
import Proxor.Db.MigrateCrash
import Proxor.Ui.Speedtest
import Proxor.Db.ProfileFilter
import Proxor.Sub.RawUpdater
import Proxor.Sub.GroupUpdater
import Proxor.Sub.Merge
import Proxor.Sub.SubscriptionMerge
import Proxor.Sub.FailedUpdate
import Proxor.Db.ConfigRule
import Proxor.Platform.HostsMapping
import Proxor.Platform.WakeCoordinator
import Proxor.Platform.WakeRuns
import Proxor.Sys.MacModeCoordinator
import Proxor.Sys.GraceRuns
import Proxor.Sys.StopRuns
import Proxor.Sys.MacHelperService
import Proxor.Main.JsonStore
import Proxor.Main.Qt
import Proxor.Fmt.Beans
import Proxor.Fmt.CoreObj
import Proxor.Fmt.External
import Proxor.Db.ConfigSettings
import Proxor.Db.ChainBuilder
import Proxor.Db.ExternalHop
import Proxor.Db.ConfigBuilder
import Proxor.Db.ChainRuns
import Proxor.Db.BuildEffects
import Proxor.Db.ChainFields
import Proxor.Db.ChainLinks
import Proxor.Db.TagClosure
import Proxor.Sys.ServiceRuns
import Proxor.Grpc.UpdateVersion
import Proxor.Lib.FirstMax
import Proxor.Grpc.UpdateSelection
import Proxor.Grpc.Update
import Proxor.Grpc.UpdateRuns
import Proxor.Lib.Bytes
import Proxor.Grpc.Checksums
import Proxor.Grpc.Download
import Proxor.Grpc.DownloadAtomic
import Proxor.Lib.FileTree
import Proxor.Updater.ApplyUpdate
import Proxor.Updater.MoveSafety
import Proxor.Updater.ApplySafety
import Proxor.Updater.LinkMove
import Proxor.Lib.CommandLine
import Proxor.Sys.AdminScript
import Proxor.Main.WindowsLauncher
import Proxor.Platform.WakeSubscriptionRetry
import Proxor.Lib.Utf8
import Proxor.MacHelper.LineWriter
import Proxor.Lib.Bufio
import Proxor.MacHelper.Protocol
import Proxor.MacHelper.RequestJson
import Proxor.MacHelper.PersistFirst
import Proxor.Ui.SpeedtestRun
import Proxor.Lib.Base64
import Proxor.Lib.Uri
import Proxor.Main.QUrl
import Proxor.Fmt.Link2Bean
import Proxor.Fmt.AcceptedLinks
import Proxor.Fmt.BeanFromJson
import Proxor.Sub.LinkReader
import Proxor.Sub.LinkList
import Proxor.Lib.Framing
import Proxor.Sys.MacHelperClient
import Proxor.Sys.ClientRuns
import Proxor.MacHelper.ServiceListing
import Proxor.MacHelper.Coverage
import Proxor.Lib.Escape
import Proxor.Platform.WifiSsid
import Proxor.Sys.WifiMonitor
import Proxor.Platform.LinuxAutostart
import Proxor.Lib.DesktopEntry
import Proxor.Platform.AutostartExec
import Proxor.Lib.Cidr
import Proxor.Platform.LocalNetworks
import Proxor.MacHelper.Allowlist
import Proxor.Db.MergeLaw
import Proxor.Lib.Xml
import Proxor.Platform.MacLoginItem
import Proxor.Db.RuleKinds
import Proxor.Lib.JsonText
import Proxor.Lib.JsonWithin
import Proxor.Lib.Template
import Proxor.Lib.Edits
import Proxor.Lib.JsonEdits
import Proxor.Db.VpnTemplate
import Proxor.Db.VpnConfig
import Proxor.Db.VpnInjection
import Proxor.Lib.Search
import Proxor.Grpc.FullTest
import Proxor.Sub.UpdateInterval
import Proxor.Sys.CoreProcess
import Proxor.MacHelper.ListingRoundTrip
import Proxor.Lib.UriText
import Proxor.Fmt.Bean2Link
import Proxor.Fmt.ShareLink
import Proxor.Fmt.UserLinks
import Proxor.Fmt.StreamLinks
import Proxor.Fmt.TransportLinks
import Proxor.Lib.Reflect
import Proxor.MacHelper.ValidateOptions
import Proxor.MacHelper.TrustBoundary
import Proxor.Lib.Mutex
import Proxor.Ui.StartStop
import Proxor.Ui.StartStopAgrees
import Proxor.Lib.Spacing
import Proxor.MacHelper.Orphan
import Proxor.Db.TrafficLooper
import Proxor.Main.Restart
import Proxor.Fmt.BeanRestart
import Proxor.Sub.ProxorLink
import Proxor.Lib.RuleList
import Proxor.Db.RoutePolicy
