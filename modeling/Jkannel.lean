import Jkannel.Platform.JobQueue
import Jkannel.Platform.Polls
import Jkannel.Platform.GridCursor
import Jkannel.DataModel.Retention
import Jkannel.Platform.Idempotency
import Jkannel.Security.Lockout
import Jkannel.Security.Deactivation
import Jkannel.Security.Sessions
import Jkannel.Security.OneTime
import Jkannel.Messaging.HoldOnce
import Jkannel.Messaging.HoldKept
import Jkannel.Messaging.CampaignEnds
import Jkannel.Messaging.MoPolling
import Jkannel.Messaging.MoPaths
import Jkannel.Messaging.MoDeliveries
import Jkannel.Platform.SwallowedErrors
import Jkannel.Routing.Simulator
import Jkannel.Messaging.Screening
import Jkannel.Messaging.SenderApproval
import Jkannel.Messaging.Affordable
import Jkannel.Messaging.RouteAgreement
import Jkannel.Messaging.RuleCache
import Jkannel.Messaging.FirstMatch
import Jkannel.Customers.QuotaWindows
import Jkannel.Customers.CreditLedger
import Jkannel.Messaging.DedupeRace
import Jkannel.Retry.OwnDuplicate
import Jkannel.Retry.DispatchJobs
import Jkannel.Retry.StormCap
import Jkannel.Messaging.DlrReceipts
import Jkannel.Routing.FailoverFlag
import Jkannel.Routing.LoadSharing
import Jkannel.Routing.Spacing
import Jkannel.Routing.WildcardCompiler
import Jkannel.Diagnostics.TraceIdentity
import Jkannel.Retry.LateReceipts
import Jkannel.Reporting.OncePerPeriod
import Jkannel.Monitoring.PagedOnce
import Jkannel.Backups.Truthful
import Jkannel.Messaging.Preview
import Jkannel.Routing.Occurrences
import Jkannel.Engine.SegmentCounts
import Jkannel.Messaging.ScheduleColumns
import Jkannel.Messaging.ParseInstant
import Jkannel.Messaging.DroppedSends
import Jkannel.Messaging.RegexSound
import Jkannel.Messaging.MoSpellings
import Jkannel.Retry.BindChoice
import Jkannel.Platform.Whitelist
import Jkannel.Platform.OffsetPages
import Jkannel.Messaging.ReceiptUrls
import Jkannel.Configuration.RequiredSecrets
import Jkannel.Configuration.Constructible
import Jkannel.Configuration.Rollback
import Jkannel.Routing.RouteRollback
import Jkannel.DataModel.ExportedChain
import Jkannel.Smsc.BindProbe
import Jkannel.Monitoring.BindTotals
import Jkannel.Connectivity.CarrierHealth
import Jkannel.Connectivity.QueueRates
import Jkannel.Engine.RequestGate
import Jkannel.Engine.Reconnect
import Jkannel.Security.Totp
import Jkannel.Platform.Settings
import Jkannel.Security.PasswordHistory
import Jkannel.Security.ClientIp
import Jkannel.Messaging.WebhookSecret
import Jkannel.Routing.Failover
