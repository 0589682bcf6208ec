import CrossDesk.TransmissionManager.Operations
import CrossDesk.TransmissionManager.Routes
import CrossDesk.DeviceAuthLimiter.Runs
import CrossDesk.CredentialQueue.Conservation
import CrossDesk.CredentialQueue.Fairness
import CrossDesk.NotificationStore.Runs
import CrossDesk.DeviceDbManager.RetentionSafety
import CrossDesk.DeviceDbManager.Preview
import CrossDesk.DeviceDbManager.ReconnectRuns
import CrossDesk.DeviceDbManager.RetentionDrain
import CrossDesk.SignalServer.Restore
import CrossDesk.Application.Basic
import CrossDesk.Application.Login
import CrossDesk.Application.Jobs
import CrossDesk.Application.Acts
import CrossDesk.Application.StaleWork
import CrossDesk.Application.PasswordChanges
import CrossDesk.TransmissionManager.Sessions
import CrossDesk.CredentialWorkLimiter.Basic
import CrossDesk.Lib.FixedWindow
import CrossDesk.DeviceAuthLimiter.Backoff
import CrossDesk.DeviceAuthLimiter.Calls
import CrossDesk.DeviceAuthLimiter.Clearing
import CrossDesk.DeviceAuthLimiter.Isolation
import CrossDesk.DeviceAuthLimiter.Budgets
import CrossDesk.Application.Binding
import CrossDesk.Application.KeyChecks
import CrossDesk.CredentialWorkLimiter.Rate
import CrossDesk.DeviceDbManager.DailyActivity
import CrossDesk.TransmissionManager.Prune
import CrossDesk.CredentialQueue.Conserving
import CrossDesk.IceServerConfigIssuer.Normalization
import CrossDesk.SignalServer.CredentialDeadline
import CrossDesk.AdminController.Sessions
import CrossDesk.SignalServer.Dispatch
import CrossDesk.AdminController.Query
import CrossDesk.AdminController.Stats
import CrossDesk.Application.PresenceUpdates
import CrossDesk.Application.Attendance
import CrossDesk.DeviceDbManager.Sparing
import CrossDesk.TransmissionManager.Reports
import CrossDesk.Application.Arrivals
import CrossDesk.Application.Departures
import CrossDesk.Application.TruthfulPresence
import CrossDesk.DeviceDbManager.OtherRows
import CrossDesk.Application.TemporaryControllers
import CrossDesk.Application.PasswordRaces
import CrossDesk.SignalServer.Backlog
import CrossDesk.SignalServer.Lifecycle
import CrossDesk.Application.RetiredTokens
