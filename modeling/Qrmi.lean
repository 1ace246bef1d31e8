import Qrmi.InteractionServer
import Qrmi.InteractionHistory
import Qrmi.KeyedStore
import Qrmi.MaestroLifecycle
import Qrmi.MaestroQasm
import Qrmi.TaskRunner
import Qrmi.QuantumComputeTokens
import Qrmi.TaskStopRaces
import Qrmi.PasqalCloudHeaders
import Qrmi.PasqalTokenRefresh
import Qrmi.PasqalLocalRuns
import Qrmi.TaskStartContract
import Qrmi.QuantumComputeSessions
import Qrmi.ProviderIsolation
import Qrmi.MaestroFrames
import Qrmi.MaestroNegotiation
import Qrmi.MaestroSpellings
import Qrmi.MaestroStatus
import Qrmi.MaestroStop
import Qrmi.MaestroTransport
import Qrmi.CLastError
import Qrmi.CSuccess
import Qrmi.TaskRunnerApp
import Qrmi.JobEnvironment
import Qrmi.PulserConnection
import Qrmi.ConfigBoundary
import Qrmi.PasqalCloudResource
import Qrmi.PasqalHomePath
import Qrmi.TaskStartKinds
import Qrmi.DedicatedSessions
import Qrmi.FelisTargets
import Qrmi.ProviderListing
import Qrmi.FilterSegments
import Qrmi.IqmResults
import Qrmi.IqmStatus
import Qrmi.StickyStatuses
import Qrmi.CudaqResults
import Qrmi.TokenPanics
import Qrmi.BoundedResending
import Qrmi.LuaTokens
import Qrmi.QuantumSystemResults
import Qrmi.QuantumSystemListing
import Qrmi.OqtopusBridge
import Qrmi.OqtopusConfig
import Qrmi.OqtopusLoader
import Qrmi.OqtopusResource
import Qrmi.OqtopusSubmissions
import Qrmi.OqtopusRuns
import Qrmi.OqtopusCallers
