import PromptRail.Library.Transition
import PromptRail.Library.Table
import PromptRail.Library.PyText
import PromptRail.Library.Json
import PromptRail.Controller.System
import PromptRail.Controller.Changes
import PromptRail.Controller.Ledger
import PromptRail.Controller.Reservations
import PromptRail.Controller.Ceiling
import PromptRail.Controller.Accounts
import PromptRail.Cache
import PromptRail.Compaction
import PromptRail.Compaction.Fill
import PromptRail.Compaction.Floor
import PromptRail.Billing
import PromptRail.Billing.CreditOnce
import PromptRail.Billing.Balance
import PromptRail.Workflow
import PromptRail.Workflow.Changes
import PromptRail.Workflow.Ledger
import PromptRail.Workflow.Finish
import PromptRail.Workflow.Finalize
import PromptRail.Library.Document
import PromptRail.Library.Round
import PromptRail.Numbers
import PromptRail.Library.Concurrent
import PromptRail.Library.Collection
import PromptRail.Library.Outcome
import PromptRail.Workflow.Assured
import PromptRail.Workflow.Grant
import PromptRail.Usage
import PromptRail.Usage.Agreement
import PromptRail.RouteBudget
import PromptRail.RouteBudget.Setup
import PromptRail.RouteBudget.Execution
import PromptRail.RouteBudget.Changes
import PromptRail.RouteBudget.Ledger
import PromptRail.RouteBudget.Refresh
import PromptRail.RouteBudget.Replay
import PromptRail.RouteBudget.Accounted
import PromptRail.Site
import PromptRail.Site.Isolation
import PromptRail.Site.Subscriptions
import PromptRail.Site.Access
import PromptRail.Gateway
import PromptRail.Gateway.Release
import PromptRail.Routing
import PromptRail.Routing.Selected
import PromptRail.Routing.Authorised
import PromptRail.Routing.Deadline
import PromptRail.Routing.Rejection
import PromptRail.WorkflowBudget
import PromptRail.Models
import PromptRail.Library.Base64
import PromptRail.Library.JsonText
import PromptRail.Library.JsonRoundTrip
import PromptRail.Compaction.Confirmed
import PromptRail.Cache.Prefix
import PromptRail.Gateway.Call
import PromptRail.Gateway.Fits
import PromptRail.Gateway.Rewritten
import PromptRail.LangChain
import PromptRail.LangChain.NamedRoute
import PromptRail.LangChain.Middleware
import PromptRail.LangChain.Resolved
import PromptRail.AccountingToken
import PromptRail.AccountingToken.Profile
import PromptRail.AccountingToken.RoundTrip
import PromptRail.AccountingToken.Verified
import PromptRail.AccountingToken.Environment
import PromptRail.AccountingToken.Issued
import PromptRail.Privacy
import PromptRail.Privacy.Sanitized
import PromptRail.Tracing
import PromptRail.Tracing.Registry
import PromptRail.ProviderConnections
import PromptRail.ProviderConnections.Changes
import PromptRail.ProviderConnections.Rotation
import PromptRail.ProviderConnections.Shape
import PromptRail.Device
import PromptRail.Device.Changes
import PromptRail.Device.Granted
import PromptRail.Device.Rejected
import PromptRail.InfiniteAuthority
import PromptRail.InfiniteAuthority.Materialised
import PromptRail.Library.JsonLines
import PromptRail.Historical
import PromptRail.Historical.Formats
import PromptRail.Runtime.Lifecycle
import PromptRail.Runtime.Headers
import PromptRail.Runtime.Identity
import PromptRail.Runtime.Streams
import PromptRail.AuthRedirect.Safe
import PromptRail.Provider.Tools
import PromptRail.Provider.ToolCalls
import PromptRail.Usage.Managed
import PromptRail.RouteBudget.Scoring
import PromptRail.RouteUpdate.Due
import PromptRail.Hermes.Accounted
import PromptRail.Compaction.Fairness
import PromptRail.Compaction.Frame
import PromptRail.Routing.Window
import PromptRail.Routing.Reuse
import PromptRail.Routing.Reordered
import PromptRail.BoundedBody
import PromptRail.CandidatePool.Reload
import PromptRail.CandidatePool.Saves
import PromptRail.CandidateSelection.Selected
import PromptRail.SetupJobs.Running
import PromptRail.Hermes.Sent
import PromptRail.Selection.HandedOut
import PromptRail.Cache.Evidence
import PromptRail.Controller.Allocation
import PromptRail.Gateway.Failover
import PromptRail.Privacy.Idempotent
import PromptRail.Historical.Projection
import PromptRail.Runtime.Attachment
import PromptRail.Propagation.Traceparent
import PromptRail.StreamProxy.Faithful
import PromptRail.PolicyAgent.Binding
import PromptRail.StrictSchema.Narrowing
import PromptRail.Receipts.Stored
import PromptRail.Exporter.Conserved
import PromptRail.Exporter.Serialized
import PromptRail.Completions.Streamed
import PromptRail.RouteBudget.Weighed
import PromptRail.RouteBudget.Continued
