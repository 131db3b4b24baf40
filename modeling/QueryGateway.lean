import QueryGateway.Config
import QueryGateway.Error
import QueryGateway.Gateway
import QueryGateway.Guard
import QueryGateway.Postgres.Session
import QueryGateway.Session
import QueryGateway.Sorting
import QueryGateway.Wire.Models
import QueryGateway.Proofs.Catalog.Changes
import QueryGateway.Proofs.Catalog.Connections
import QueryGateway.Proofs.Catalog.Ids
import QueryGateway.Proofs.Catalog.Isolation
import QueryGateway.Proofs.Catalog.Snapshots
import QueryGateway.Proofs.Catalog.Stamps
import QueryGateway.Proofs.Config.Layers
import QueryGateway.Proofs.Config.Sources
import QueryGateway.Proofs.Gateway.Acts
import QueryGateway.Proofs.Gateway.Rows
import QueryGateway.Proofs.Gateway.Syncs
import QueryGateway.Proofs.Guard.FirstRows
import QueryGateway.Proofs.Guard.Parentheses
import QueryGateway.Proofs.Guard.Quotes
import QueryGateway.Proofs.Guard.ReadOnly
import QueryGateway.Proofs.Guard.Rereading
import QueryGateway.Proofs.Guard.RowCap
import QueryGateway.Proofs.Guard.Scripts
import QueryGateway.Proofs.Guard.Visits
import QueryGateway.Proofs.Http.Origins
import QueryGateway.Proofs.Http.Paths
import QueryGateway.Proofs.Http.Requests
import QueryGateway.Proofs.Json.Accepted
import QueryGateway.Proofs.Json.Grammar
import QueryGateway.Proofs.Json.Layouts
import QueryGateway.Proofs.Json.Members
import QueryGateway.Proofs.Json.Outlines
import QueryGateway.Proofs.Json.Trees
import QueryGateway.Proofs.Moment.Instants
import QueryGateway.Proofs.Moment.Order
import QueryGateway.Proofs.Moment.Reading
import QueryGateway.Proofs.Outcome
import QueryGateway.Proofs.Postgres.Documents
import QueryGateway.Proofs.Postgres.Grouping
import QueryGateway.Proofs.Postgres.Integers
import QueryGateway.Proofs.Postgres.LocalTimestamps
import QueryGateway.Proofs.Postgres.Runs
import QueryGateway.Proofs.Postgres.Settings
import QueryGateway.Proofs.Postgres.Statements
import QueryGateway.Proofs.Postgres.Timestamps
import QueryGateway.Proofs.Session.Consistency
import QueryGateway.Proofs.Session.Disclosure
import QueryGateway.Proofs.Session.Failures
import QueryGateway.Proofs.Session.Ids
import QueryGateway.Proofs.Session.Introspection
import QueryGateway.Proofs.Session.Isolation
import QueryGateway.Proofs.Session.Labels
import QueryGateway.Proofs.Session.Leads
import QueryGateway.Proofs.Session.Listing
import QueryGateway.Proofs.Session.Queries
import QueryGateway.Proofs.Session.Refusals
import QueryGateway.Proofs.Session.Registration
import QueryGateway.Proofs.Session.Requests
import QueryGateway.Proofs.Session.Snapshots
import QueryGateway.Proofs.Session.Turns
import QueryGateway.Proofs.Text.Order
import QueryGateway.Proofs.Url.Authorities
import QueryGateway.Proofs.Url.Hosts
import QueryGateway.Proofs.Url.Paths
import QueryGateway.Proofs.Url.Redaction
import QueryGateway.Proofs.Url.Secrets
import QueryGateway.Proofs.Wire.Accepted
import QueryGateway.Proofs.Wire.Alike
import QueryGateway.Proofs.Wire.Documents
import QueryGateway.Proofs.Wire.Readers
import QueryGateway.Proofs.Wire.Records
import QueryGateway.Proofs.Wire.Written
