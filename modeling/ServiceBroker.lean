import ServiceBroker.Appliance
import ServiceBroker.Broker
import ServiceBroker.Catalog.Basic
import ServiceBroker.Catalog.Builtin
import ServiceBroker.Catalog.Document
import ServiceBroker.CommandLine
import ServiceBroker.Concurrency.KeyedLock
import ServiceBroker.Concurrency.LockTable
import ServiceBroker.Concurrency.Locking
import ServiceBroker.Concurrency.Scheduler
import ServiceBroker.Config
import ServiceBroker.Connection
import ServiceBroker.Crypto.Aes256
import ServiceBroker.Crypto.GcmSiv
import ServiceBroker.Crypto.Polyval
import ServiceBroker.Crypto.Sha256
import ServiceBroker.Decimal.Double
import ServiceBroker.Decimal.Shortest
import ServiceBroker.Deletion
import ServiceBroker.Dialect.Basic
import ServiceBroker.Dialect.BindingTable
import ServiceBroker.Dialect.MariaDb
import ServiceBroker.Dialect.Memory
import ServiceBroker.Dialect.PostgreSql
import ServiceBroker.Engine
import ServiceBroker.Handler.Basic
import ServiceBroker.Handler.Database
import ServiceBroker.Http.Front
import ServiceBroker.Http.Gate
import ServiceBroker.Http.Message
import ServiceBroker.Http.Percent
import ServiceBroker.Http.Query
import ServiceBroker.Http.Request
import ServiceBroker.Http.Response
import ServiceBroker.Http.Route
import ServiceBroker.Http.Target
import ServiceBroker.Instance
import ServiceBroker.Json.Document
import ServiceBroker.Json.Fields
import ServiceBroker.Json.Numeral
import ServiceBroker.Json.Shape
import ServiceBroker.Json.Text
import ServiceBroker.Json.Token
import ServiceBroker.Json.Value
import ServiceBroker.Lifecycle
import ServiceBroker.Main
import ServiceBroker.Net.Ipv4
import ServiceBroker.Operation
import ServiceBroker.Parameters
import ServiceBroker.Program
import ServiceBroker.Proofs.Binding
import ServiceBroker.Proofs.BindingStore
import ServiceBroker.Proofs.Bookkeeping
import ServiceBroker.Proofs.Checks
import ServiceBroker.Proofs.Collision
import ServiceBroker.Proofs.Columns
import ServiceBroker.Proofs.Contents
import ServiceBroker.Proofs.Credentials
import ServiceBroker.Proofs.Deprovision
import ServiceBroker.Proofs.Discipline
import ServiceBroker.Proofs.Discretion
import ServiceBroker.Proofs.Documents
import ServiceBroker.Proofs.Encoding
import ServiceBroker.Proofs.Ending
import ServiceBroker.Proofs.Errand
import ServiceBroker.Proofs.Exclusion
import ServiceBroker.Proofs.Fairness
import ServiceBroker.Proofs.Foreign
import ServiceBroker.Proofs.Grammar
import ServiceBroker.Proofs.Ledger
import ServiceBroker.Proofs.Lives
import ServiceBroker.Proofs.Locking
import ServiceBroker.Proofs.LookAlikes
import ServiceBroker.Proofs.Mirror
import ServiceBroker.Proofs.Numerals
import ServiceBroker.Proofs.Offers
import ServiceBroker.Proofs.Opening
import ServiceBroker.Proofs.Pending
import ServiceBroker.Proofs.Performing
import ServiceBroker.Proofs.Printing
import ServiceBroker.Proofs.Provisioning
import ServiceBroker.Proofs.Quoting
import ServiceBroker.Proofs.Refinement
import ServiceBroker.Proofs.Refusals
import ServiceBroker.Proofs.Repertoire
import ServiceBroker.Proofs.Report
import ServiceBroker.Proofs.Residue
import ServiceBroker.Proofs.Retrying
import ServiceBroker.Proofs.RoundTrip
import ServiceBroker.Proofs.Rows
import ServiceBroker.Proofs.Sealing
import ServiceBroker.Proofs.SearchPath
import ServiceBroker.Proofs.Secrecy
import ServiceBroker.Proofs.Sequence
import ServiceBroker.Proofs.Settling
import ServiceBroker.Proofs.Shapes
import ServiceBroker.Proofs.Splicing
import ServiceBroker.Proofs.SqlServer
import ServiceBroker.Proofs.Standing
import ServiceBroker.Proofs.Teardown
import ServiceBroker.Proofs.Timing
import ServiceBroker.Proofs.Traffic
import ServiceBroker.Proofs.SqlMemory
import ServiceBroker.Proofs.Uri
import ServiceBroker.Provider.Basic
import ServiceBroker.Provider.Error
import ServiceBroker.Provider.Memory
import ServiceBroker.Provider.Polling
import ServiceBroker.Provider.Rest.Client
import ServiceBroker.Provider.Rest.Wire
import ServiceBroker.Provider.Wait
import ServiceBroker.Registry
import ServiceBroker.Sealing
import ServiceBroker.ServiceError
import ServiceBroker.Sql.Basic
import ServiceBroker.Sql.Declared
import ServiceBroker.Startup
import ServiceBroker.Table
import ServiceBroker.Text.Base64
import ServiceBroker.Text.Blank
import ServiceBroker.Text.Bytes
import ServiceBroker.Text.Hex
import ServiceBroker.Text.Integer
import ServiceBroker.Text.Invisible
import ServiceBroker.Text.Letters
import ServiceBroker.Text.Quoted
import ServiceBroker.Time.Duration
import ServiceBroker.Time.Spelled
