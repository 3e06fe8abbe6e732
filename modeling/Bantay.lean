import Bantay.Agent.HubVerification
import Bantay.Agent.EventLoop
import Bantay.Agent.Availability
import Bantay.Hub.TokenOwnership
import Bantay.Hub.FirstFingerprint
import Bantay.Hub.UniversalRegistration
import Bantay.Systems.PausedStatus
import Bantay.Alerts.StatusRecovery
import Bantay.Records.AveragedOnce
import Bantay.Records.Schedule
import Bantay.Alerts.AlertHistory
import Bantay.Alerts.Notifications
import Bantay.Alerts.Recipients
import Bantay.Hub.ConcurrentExpiryMap
import Bantay.Hub.MessageOwnership
import Bantay.Alerts.CacheCoherence
import Bantay.Hub.Transport
import Bantay.Systems.SavedStats
import Bantay.Systems.Replacement
import Bantay.Users.FirstUser
import Bantay.Alerts.MailSettings
import Bantay.Config.RoundTrip
import Bantay.Systems.Subscriptions
import Bantay.Systems.RealtimeWorker
import Bantay.Systems.UpdateEligibility
import Bantay.Agent.InstallBinary
import Bantay.Update.ReplaceExecutable
import Bantay.Update.Extract
import Bantay.Systems.CreateRecords
import Bantay.Agent.NetworkStats
import Bantay.Agent.GpuAverages
import Bantay.Agent.ContainerBandwidth
import Bantay.Agent.DockerDecode
import Bantay.Records.AveragePrecision
import Bantay.Alerts.AverageBounds
import Bantay.Alerts.AlertPaths
import Bantay.Agent.DiskDiscovery
import Bantay.Agent.DiskIo
import Bantay.Agent.CpuMetrics
import Bantay.Agent.MemoryStats
import Bantay.Agent.Smart
import Bantay.Agent.ContainerLogs
import Bantay.Agent.GpuCollectors
