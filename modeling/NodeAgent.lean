import NodeAgent.Agent
import NodeAgent.Backend
import NodeAgent.Backup
import NodeAgent.Configuration
import NodeAgent.Configuration.Coercion
import NodeAgent.Configuration.Secret
import NodeAgent.Configuration.Setting
import NodeAgent.Configuration.VolumeSection
import NodeAgent.Constants
import NodeAgent.Decimal.Double
import NodeAgent.Decimal.Nearest
import NodeAgent.Decimal.Shortest
import NodeAgent.Dialogue
import NodeAgent.Environment
import NodeAgent.Environment.Fragment
import NodeAgent.Environment.Line
import NodeAgent.Failure
import NodeAgent.Host.Call
import NodeAgent.Host.Invocation
import NodeAgent.Json.Decoder
import NodeAgent.Json.Fault
import NodeAgent.Json.Node
import NodeAgent.Json.Numeral
import NodeAgent.Json.Printer
import NodeAgent.Json.Token
import NodeAgent.Json.Value
import NodeAgent.Main
import NodeAgent.Memory.Backends
import NodeAgent.Memory.Place
import NodeAgent.Memory.RepositoryStore
import NodeAgent.Memory.ScriptedHost
import NodeAgent.Memory.VolumeStore
import NodeAgent.Naming
import NodeAgent.Nearest
import NodeAgent.Path
import NodeAgent.Phase
import NodeAgent.Pool
import NodeAgent.Proofs.Answering
import NodeAgent.Proofs.Awaiting
import NodeAgent.Proofs.Backups
import NodeAgent.Proofs.Blaming
import NodeAgent.Proofs.Boundary
import NodeAgent.Proofs.Calls
import NodeAgent.Proofs.Canonical
import NodeAgent.Proofs.Chronology
import NodeAgent.Proofs.Concealment
import NodeAgent.Proofs.Connection
import NodeAgent.Proofs.Contents
import NodeAgent.Proofs.Convergence
import NodeAgent.Proofs.Conversation
import NodeAgent.Proofs.Course
import NodeAgent.Proofs.Creation
import NodeAgent.Proofs.Dating
import NodeAgent.Proofs.Delivery
import NodeAgent.Proofs.Digits
import NodeAgent.Proofs.Errand
import NodeAgent.Proofs.Growth
import NodeAgent.Proofs.History
import NodeAgent.Proofs.Independence
import NodeAgent.Proofs.Keeping
import NodeAgent.Proofs.Lexing
import NodeAgent.Proofs.Likeness
import NodeAgent.Proofs.Locks
import NodeAgent.Proofs.Measures
import NodeAgent.Proofs.Mirroring
import NodeAgent.Proofs.Moments
import NodeAgent.Proofs.Moving
import NodeAgent.Proofs.Observing
import NodeAgent.Proofs.Outage
import NodeAgent.Proofs.Parsing
import NodeAgent.Proofs.Paths
import NodeAgent.Proofs.Points
import NodeAgent.Proofs.Pool
import NodeAgent.Proofs.Provision
import NodeAgent.Proofs.Questions
import NodeAgent.Proofs.Records
import NodeAgent.Proofs.Refreshing
import NodeAgent.Proofs.Release
import NodeAgent.Proofs.Repeating
import NodeAgent.Proofs.Replying
import NodeAgent.Proofs.Reporting
import NodeAgent.Proofs.Requests
import NodeAgent.Proofs.Resting
import NodeAgent.Proofs.Restoring
import NodeAgent.Proofs.Retrying
import NodeAgent.Proofs.RoundTrip
import NodeAgent.Proofs.Secrecy
import NodeAgent.Proofs.Seeding
import NodeAgent.Proofs.Selecting
import NodeAgent.Proofs.Servers
import NodeAgent.Proofs.Serving
import NodeAgent.Proofs.Session
import NodeAgent.Proofs.Sighting
import NodeAgent.Proofs.Spelling
import NodeAgent.Proofs.Staging
import NodeAgent.Proofs.Store
import NodeAgent.Proofs.Substitution
import NodeAgent.Proofs.Succession
import NodeAgent.Proofs.Templates
import NodeAgent.Proofs.Traffic
import NodeAgent.Proofs.Trimming
import NodeAgent.Repository.Destination
import NodeAgent.Repository.Snapshot
import NodeAgent.Restore
import NodeAgent.Rpc.Address
import NodeAgent.Rpc.Code
import NodeAgent.Rpc.Frame
import NodeAgent.Rpc.Handler
import NodeAgent.Rpc.Message
import NodeAgent.Rpc.Payload
import NodeAgent.Rpc.Session
import NodeAgent.Selection
import NodeAgent.Size
import NodeAgent.Startup
import NodeAgent.Table
import NodeAgent.Text.Alphanumeric
import NodeAgent.Text.Blank
import NodeAgent.Text.Octets
import NodeAgent.Text.Printable
import NodeAgent.Text.Quoted
import NodeAgent.Time.Calendar
import NodeAgent.Time.Instant
import NodeAgent.Time.Reader
import NodeAgent.Timestamp
import NodeAgent.Toml.Item
import NodeAgent.Toml.Moment
import NodeAgent.Toml.Number
import NodeAgent.Toml.Reader
import NodeAgent.Toml.Text
import NodeAgent.Toml.Value
import NodeAgent.Tools.Repositories
import NodeAgent.Tools.Toolbox
import NodeAgent.Tools.Volumes
import NodeAgent.Volume
import NodeAgent.Word
