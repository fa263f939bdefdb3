import NebulaCloud.Data.Rows
import NebulaCloud.Data.Store
import NebulaCloud.Data.Transaction
import NebulaCloud.Data.System
import NebulaCloud.Platform.Text
import NebulaCloud.Database.Schema
import NebulaCloud.Database.Provisioning
import NebulaCloud.Provisioning.Lifecycle
import NebulaCloud.Provisioning.StateMachine
import NebulaCloud.Provisioning.Interleaving
import NebulaCloud.Data.Lease
import NebulaCloud.Provisioning.Fencing
import NebulaCloud.Data.Ledger
import NebulaCloud.Database.WorkerHost
import NebulaCloud.Database.Deletion
import NebulaCloud.Capacity.Conservation
import NebulaCloud.Capacity.WorkerAdministration
import NebulaCloud.Capacity.StickyDrain
import NebulaCloud.Database.Entitlement
import NebulaCloud.Platform.Uri
import NebulaCloud.Access.Gateway
import NebulaCloud.Access.ConsoleAccess
import NebulaCloud.Access.RuntimeRoute
import NebulaCloud.Database.Billing
import NebulaCloud.Database.Invoice
import NebulaCloud.Database.Seats
import NebulaCloud.Billing.SeatCapacity
import NebulaCloud.Billing.CachedAccess
import NebulaCloud.Data.Register
import NebulaCloud.Billing.Delivery
import NebulaCloud.Billing.Convergence
import NebulaCloud.Billing.InvoiceDelivery
import NebulaCloud.Billing.InvoiceOrder
import NebulaCloud.Billing.Line
import NebulaCloud.Billing.Superseded
import NebulaCloud.Billing.SubscriptionDelivery
import NebulaCloud.Billing.Cancellation
import NebulaCloud.Platform.Json
import NebulaCloud.Webhook.StripeWebhook
import NebulaCloud.Webhook.Ledger
import NebulaCloud.Webhook.ExactlyOnce
import NebulaCloud.Database.Usage
import NebulaCloud.Usage.Isolation
import NebulaCloud.Database.PlatformControl
import NebulaCloud.Provisioning.KillSwitch
import NebulaCloud.Database.PublishedService
import NebulaCloud.Publication.Quotas
import NebulaCloud.Publication.Addresses
import NebulaCloud.Audit.PlatformMutations
import NebulaCloud.Data.Tally
import NebulaCloud.Data.FixedWindow
import NebulaCloud.Ingress.ConnectionLimiter
import NebulaCloud.Ingress.Connections
import NebulaCloud.Ingress.Reconciliation
import NebulaCloud.Ingress.Activation
import NebulaCloud.Ingress.BandwidthLimiter
import NebulaCloud.Auth.RateLimiter
import NebulaCloud.Email.Delivery
import NebulaCloud.Email.Status
import NebulaCloud.Email.Webhook
import NebulaCloud.Usage.Replay
import NebulaCloud.Billing.StorableWindows
import NebulaCloud.Data.Grouping
import NebulaCloud.Platform.Double
import NebulaCloud.Usage.Pricing
import NebulaCloud.Usage.Synchronization
import NebulaCloud.Usage.Reports
import NebulaCloud.Publication.IngressCapacity
import NebulaCloud.Publication.WorkspaceServices
import NebulaCloud.Publication.FailedUpdates
import NebulaCloud.Publication.Reconnection
import NebulaCloud.Publication.Disconnection
import NebulaCloud.Data.Delimiter
import NebulaCloud.Ingress.TunnelHandshake
import NebulaCloud.Ingress.PublishedServiceGateway
import NebulaCloud.Auth.AddressLimit
import NebulaCloud.Data.SlidingWindow
import NebulaCloud.Database.ContactRequest
import NebulaCloud.Contact.Throttle
import NebulaCloud.Data.Keyset
import NebulaCloud.Data.Runs
import NebulaCloud.Data.Replace
import NebulaCloud.Data.Csv
import NebulaCloud.Data.Transducer
import NebulaCloud.Data.Chunks
import NebulaCloud.Platform.Base64
import NebulaCloud.Platform.Utf8
import NebulaCloud.Platform.JsonParse
import NebulaCloud.Platform.TextDecoder
import NebulaCloud.Platform.UrlPath
import NebulaCloud.Platform.Hostname
import NebulaCloud.Platform.HttpUrl
import NebulaCloud.Contact.Pagination
import NebulaCloud.Audit.Pagination
import NebulaCloud.Contact.Notification
import NebulaCloud.Export.CsvExport
import NebulaCloud.Log.SafeLog
import NebulaCloud.Log.Credentials
import NebulaCloud.Access.RuntimeBody
import NebulaCloud.Ingress.ServiceProxy
import NebulaCloud.Ingress.HostRouting
import NebulaCloud.Web.WorkspaceStartup
import NebulaCloud.Console.Relay
import NebulaCloud.Publication.Migrations
import NebulaCloud.Auth.ClockSteps
import NebulaCloud.Data.PrefixCode
import NebulaCloud.Platform.UriCode
import NebulaCloud.Usage.LegacyIds
import NebulaCloud.Data.Separation
import NebulaCloud.Capacity.HealthAlerts
import NebulaCloud.Capacity.Placement
import NebulaCloud.Provisioning.Retries
import NebulaCloud.Organization.Members
import NebulaCloud.Organization.Dashboard
import NebulaCloud.Data.History
import NebulaCloud.Organization.Administration
import NebulaCloud.Organization.AdministrationRequests
import NebulaCloud.Organization.Membership
import NebulaCloud.Organization.JoinCodes
import NebulaCloud.Organization.PlanAccounts
import NebulaCloud.Publication.AccessTokens
import NebulaCloud.Data.Fields
import NebulaCloud.Worker.Authorization
import NebulaCloud.Worker.Client
import NebulaCloud.Worker.Directory
import NebulaCloud.Worker.Routing
import NebulaCloud.Worker.Fleet
import NebulaCloud.Data.Program
import NebulaCloud.Platform.Number
import NebulaCloud.Server.Request
import NebulaCloud.Server.Callbacks
import NebulaCloud.Server.Administration
import NebulaCloud.Server.Routes
import NebulaCloud.Server.Handler
import NebulaCloud.Server.Mediation
import NebulaCloud.Platform.RoundTrips
import NebulaCloud.Web.PersonalWorkspace
import NebulaCloud.Web.RemoteCalls
import NebulaCloud.Server.Arguments
import NebulaCloud.Data.Flights
import NebulaCloud.Server.Concurrency
