import ConnectorPlane.Json.Basic
import ConnectorPlane.Decimal.Shortest
import ConnectorPlane.Json.Render
import ConnectorPlane.Json.Read
import ConnectorPlane.Text.Base64
import ConnectorPlane.Text.Utf8
import ConnectorPlane.Text.Blank
import ConnectorPlane.Time.Instant
import ConnectorPlane.Time.Rfc3339
import ConnectorPlane.Uuid
import ConnectorPlane.Url
import ConnectorPlane.Store.Page
import ConnectorPlane.Resource.Name
import ConnectorPlane.Request.Metadata
import ConnectorPlane.Connector.Kind
import ConnectorPlane.Json.MergePatch
import ConnectorPlane.Json.Redact
import ConnectorPlane.Store.Error
import ConnectorPlane.Catalog.Error
import ConnectorPlane.Workflow.Error
import ConnectorPlane.Service.Error
import ConnectorPlane.Connector.Id
import ConnectorPlane.Workflow.Kind
import ConnectorPlane.Workflow.Batch
import ConnectorPlane.Decimal.Nearest
import ConnectorPlane.Toml.Value
import ConnectorPlane.Toml.Read
import ConnectorPlane.Time.Clock
import ConnectorPlane.Connector.Record
import ConnectorPlane.Toml.Decode
import ConnectorPlane.Catalog.Family
import ConnectorPlane.Catalog.Registry
import ConnectorPlane.Host.Path
import ConnectorPlane.Toml.Write
import ConnectorPlane.Config.Basic
import ConnectorPlane.Config.Toml
import ConnectorPlane.Store.Tables
import ConnectorPlane.Host.Files
import ConnectorPlane.Store.Repository
import ConnectorPlane.Identity
import ConnectorPlane.Workflow.Engine
import ConnectorPlane.Service.Plane
import ConnectorPlane.Service.Definitions
import ConnectorPlane.Service.Connectors
import ConnectorPlane.Service.Runs
import ConnectorPlane.Catalog.Directory
import ConnectorPlane.Host.Env
import ConnectorPlane.Config.Discovery
import ConnectorPlane.Cli.Grammar
import ConnectorPlane.Cli.Suggest
import ConnectorPlane.Cli.Help
import ConnectorPlane.Cli.Parse
import ConnectorPlane.Console.Failure
import ConnectorPlane.Console.Commands
import ConnectorPlane.Json.Record
import ConnectorPlane.Console.Print
import ConnectorPlane.Console.Process
import ConnectorPlane.Console.Session
import ConnectorPlane.Console.Actions
import ConnectorPlane.Console.Settings
import ConnectorPlane.Console.Program
import ConnectorPlane.Console.Redact
import ConnectorPlane.Main
import ConnectorPlane.Proofs.Digits
import ConnectorPlane.Proofs.Calendar
import ConnectorPlane.Proofs.UuidText
import ConnectorPlane.Proofs.Timestamp
import ConnectorPlane.Proofs.TokenCodec
import ConnectorPlane.Proofs.Listing.Order
import ConnectorPlane.Proofs.Listing.Walk
import ConnectorPlane.Proofs.Listing.Store
import ConnectorPlane.Proofs.Listing.Interleaved
import ConnectorPlane.Proofs.Store.Writes
import ConnectorPlane.Proofs.Store.ReadBack
import ConnectorPlane.Proofs.Json.Mask
import ConnectorPlane.Proofs.Json.Canonical
import ConnectorPlane.Proofs.Json.Echo
import ConnectorPlane.Proofs.Json.KeptSecrets
import ConnectorPlane.Proofs.Service.Masking
import ConnectorPlane.Proofs.Service.Writes
import ConnectorPlane.Proofs.Service.LoadedRow
import ConnectorPlane.Proofs.Catalog.Families
import ConnectorPlane.Proofs.Catalog.Routing
import ConnectorPlane.Proofs.Service.Effects
import ConnectorPlane.Proofs.ConnectorIds
import ConnectorPlane.Proofs.Service.Invariants
import ConnectorPlane.Proofs.Service.Seeding
import ConnectorPlane.Proofs.Service.Concurrent
import ConnectorPlane.Proofs.Service.IdClaims
import ConnectorPlane.Proofs.OwnerResolution
import ConnectorPlane.Proofs.Workflow.RunTable
import ConnectorPlane.Proofs.Json.LeafChains
import ConnectorPlane.Proofs.Catalog.CredentialFields
import ConnectorPlane.Proofs.Service.Retries
import ConnectorPlane.Proofs.Listing.Seek
import ConnectorPlane.Proofs.Service.Submissions
import ConnectorPlane.Proofs.Workflow.Ids
import ConnectorPlane.Proofs.Workflow.Batches
import ConnectorPlane.Proofs.ResourceNames
import ConnectorPlane.Proofs.Service.PreCheck
import ConnectorPlane.Proofs.StoredKeys
