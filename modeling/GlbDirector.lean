import GlbDirector.ByteCodec
import GlbDirector.PaddedBuffers
import GlbDirector.RankedPair
import GlbDirector.SipHash
import GlbDirector.CLibrary
import GlbDirector.BuildConfig
import GlbDirector.FwdConfig
import GlbDirector.BuildConfigRun
import GlbDirector.BuildOutput
import GlbDirector.RendezvousRows
import GlbDirector.CheckedBuild
import GlbDirector.WellFormedConfig
import GlbDirector.FwdConfigRoundTrip
import GlbDirector.BuildValues
import GlbDirector.PacketParsing
import GlbDirector.UnrolledHash
import GlbDirector.SegmentedParsing
import GlbDirector.Encap
import GlbDirector.DirectorConfigFile
import GlbDirector.FallbackChain
import GlbDirector.Redirect
import GlbDirector.GueFrame
import GlbDirector.RedirectChain
import GlbDirector.BuiltRoutes
import GlbDirector.ProxyTransitions
import GlbDirector.RowDisruption
import GlbDirector.ConfigReload
import GlbDirector.ReloadErrors
import GlbDirector.ReloadLoops
import GlbDirector.ReloadOrder
import GlbDirector.ReloadFreshness
import GlbDirector.ProcessorLoop
import GlbDirector.MbufConservation
import GlbDirector.MetricReports
import GlbDirector.XdpDirector
import GlbDirector.XdpAccounting
import GlbDirector.XdpStats
import GlbDirector.XdpEquivalence
import GlbDirector.OnesComplement
import GlbDirector.XdpChecksum
import GlbDirector.OuterLengths
import GlbDirector.FlowAffinity
import GlbDirector.SameFlow
import GlbDirector.ConnectionRuns
import GlbDirector.RedirectRun
import GlbDirector.RedirectChecksum
import GlbDirector.RouteSafety
import GlbDirector.ConfigReads
import GlbDirector.AclMatch
import GlbDirector.PrefixMasks
import GlbDirector.BindClassifier
import GlbDirector.ClassifierRules
import GlbDirector.BindMatching
import GlbDirector.IcmpMatching
import GlbDirector.PathMtuTables
import GlbDirector.TypicalRules
import GlbDirector.BurstClassify
import GlbDirector.BurstForwarding
import GlbDirector.PortExpansion
import GlbDirector.XdpHandover
import GlbDirector.XdpReloadOrder
import GlbDirector.HealthManager
import GlbDirector.LabelledRuns
import GlbDirector.HealthRounds
import GlbDirector.HealthSteps
import GlbDirector.HealthProgress
import GlbDirector.HealthApp
import GlbDirector.HealthPublish
import GlbDirector.HealthStore
import GlbDirector.HealthDampening
import GlbDirector.HealthMerge
import GlbDirector.PublishedTables
import GlbDirector.TunnelChecks
import GlbDirector.TunnelResults
import GlbDirector.TunnelNetwork
import GlbDirector.PcapReplay
import GlbDirector.LabChecksums
import GlbDirector.LiveDirector
