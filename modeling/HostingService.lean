import HostingService.Hosting.Confinement
import HostingService.Hosting.Current
import HostingService.Hosting.Finalizing
import HostingService.Hosting.Overtaking
import HostingService.Hosting.Quota
import HostingService.Hosting.References
import HostingService.Actions.Models
import HostingService.Actions.Transport
import HostingService.Actions.Delivery
import HostingService.Actions.Classification
import HostingService.Actions.Bookkeeping
import HostingService.Actions.Successes
import HostingService.Actions.Retries
import HostingService.Program.Stages
import HostingService.Actions.Exclusion
import HostingService.Api.DeployTokens
import HostingService.Hosting.Scopes
import HostingService.Api.Principals
import HostingService.Api.Endpoints
import HostingService.Api.Views
import HostingService.Api.AdminViews
import HostingService.Api.Dispatch
import HostingService.Api.Effects
import HostingService.Hosting.Frames
import HostingService.Api.Coverage
import HostingService.Api.Served
import HostingService.Hosting.Previews
import HostingService.Program.Runs
import HostingService.Api.Reach
import HostingService.Api.Waitlist
import HostingService.Api.ReadOnly
import HostingService.Api.Tenants
import HostingService.Api.Revocation
import HostingService.Api.Ownership
import HostingService.Api.TokenScope
import HostingService.Config.TaskLock
import HostingService.Config.LockHolders
import HostingService.Api.RulePolicy
import HostingService.Text.IpAddress
import HostingService.Text.Url
import HostingService.Actions.Endpoint
import HostingService.Actions.Pinning
import HostingService.Hosting.Transparency
import HostingService.Hosting.Freshness
import HostingService.Actions.ScheduledJobs
import HostingService.Actions.RunAccounts
import HostingService.Hosting.Sessions
import HostingService.Hosting.Uploads
import HostingService.Hosting.DeploymentLimit
import HostingService.Hosting.Redirects
import HostingService.Hosting.Deletion
import HostingService.Hosting.Interruptions
import HostingService.Api.RuleUpdates
import HostingService.Api.Deliverability
import HostingService.Actions.Unanswered
import HostingService.Api.Jwks
import HostingService.Api.Tokens
import HostingService.Api.Assertions
import HostingService.Actions.Retention
import HostingService.Actions.Purges
import HostingService.Actions.LiveDeliveries
import HostingService.Actions.RetryAccounts
import HostingService.Hosting.Refusals
import HostingService.Hosting.Caps
import HostingService.Actions.Authority
import HostingService.Actions.RetryDelays
import HostingService.Actions.Coherence
import HostingService.Actions.RetryClaims
import HostingService.Actions.DryRuns
import HostingService.Actions.RetrySurvival
import HostingService.Actions.RetryBatches
import HostingService.Actions.RetryTotals
import HostingService.Actions.SecretRedaction
import HostingService.Config.ClientIp
import HostingService.Config.Throttling
import HostingService.Api.DeclaredKeys
import HostingService.Api.TokenLedger
import HostingService.Hosting.Hosts
import HostingService.Hosting.Versions
import HostingService.Actions.Counters
import HostingService.Actions.KeyRedaction
import HostingService.Actions.EmailKey
import HostingService.Actions.DeletionRequests
import HostingService.Actions.SweepWindow
import HostingService.Hosting.CompanyPurge
import HostingService.Hosting.Statistics
import HostingService.Api.Outbox
import HostingService.Api.EventLog
import HostingService.Api.JwksCache
import HostingService.Actions.JobHealth
import HostingService.Api.Recipients
import HostingService.Api.OneStep
import HostingService.Actions.AttemptLimit
import HostingService.Hosting.RedirectSync
import HostingService.Hosting.CookieScope
