import PodInventory.Address
import PodInventory.Audit
import PodInventory.Cli.Grammar
import PodInventory.Cli.Grid
import PodInventory.Cli.Invocation
import PodInventory.Cli.Run
import PodInventory.Dict
import PodInventory.Discovery
import PodInventory.Duration
import PodInventory.Failure
import PodInventory.FanOut
import PodInventory.Feed
import PodInventory.Http.Domain
import PodInventory.Http.Domain.Label
import PodInventory.Http.Domain.Mapping
import PodInventory.Http.Exchange
import PodInventory.Http.Host
import PodInventory.Http.Status
import PodInventory.Http.Url
import PodInventory.Json.Basic
import PodInventory.Json.Binary64
import PodInventory.Json.Cursor
import PodInventory.Json.Decode
import PodInventory.Json.Document
import PodInventory.Json.Fault
import PodInventory.Json.Render
import PodInventory.Json.Scan
import PodInventory.Main
import PodInventory.Note
import PodInventory.Partition
import PodInventory.Plan
import PodInventory.Pod.Record
import PodInventory.Pod.Snapshot
import PodInventory.PowerAddress
import PodInventory.Proofs.Address
import PodInventory.Proofs.Attempt
import PodInventory.Proofs.Audit
import PodInventory.Proofs.Cli.Commands
import PodInventory.Proofs.Cli.Words
import PodInventory.Proofs.Deadline
import PodInventory.Proofs.Dict
import PodInventory.Proofs.Discovery
import PodInventory.Proofs.FanOut.Calls
import PodInventory.Proofs.FanOut.Race
import PodInventory.Proofs.Feed
import PodInventory.Proofs.Interleaving
import PodInventory.Proofs.Json.Decoding
import PodInventory.Proofs.Json.Exact
import PodInventory.Proofs.Json.Forms
import PodInventory.Proofs.Json.Grammar
import PodInventory.Proofs.Json.Reading
import PodInventory.Proofs.Json.Tokens
import PodInventory.Proofs.Keys
import PodInventory.Proofs.Linearization
import PodInventory.Proofs.Literal
import PodInventory.Proofs.Partition
import PodInventory.Proofs.Pod.Encoding
import PodInventory.Proofs.Pod.History
import PodInventory.Proofs.Pod.Record
import PodInventory.Proofs.PowerAddress
import PodInventory.Proofs.Reply
import PodInventory.Proofs.Service
import PodInventory.Proofs.Staleness
import PodInventory.Proofs.Store.Atomicity
import PodInventory.Proofs.Store.Connection
import PodInventory.Proofs.Store.Course
import PodInventory.Proofs.Store.Deletion
import PodInventory.Proofs.Store.Discovered
import PodInventory.Proofs.Store.Equivalence
import PodInventory.Proofs.Store.History
import PodInventory.Proofs.Store.Holding
import PodInventory.Proofs.Store.Independence
import PodInventory.Proofs.Store.Laws
import PodInventory.Proofs.Store.Locality
import PodInventory.Proofs.Store.Operation
import PodInventory.Proofs.Store.Overwriting
import PodInventory.Proofs.Store.Query
import PodInventory.Proofs.Store.Reachable
import PodInventory.Proofs.Store.Ready
import PodInventory.Proofs.Store.Reconstruction
import PodInventory.Proofs.Store.Repetition
import PodInventory.Proofs.Store.RoundTrip
import PodInventory.Proofs.Store.Row
import PodInventory.Proofs.Store.Simulation
import PodInventory.Proofs.Store.Transaction
import PodInventory.Proofs.Store.Turn
import PodInventory.Proofs.Store.Writes
import PodInventory.Proofs.Sync
import PodInventory.Proofs.Text.Numeral
import PodInventory.Proofs.Text.Order
import PodInventory.Proofs.Text.Split
import PodInventory.Proofs.Timeline
import PodInventory.Proofs.Worker.Encoding
import PodInventory.Proofs.Worker.Registry
import PodInventory.Service
import PodInventory.Store.Affinity
import PodInventory.Store.Archive
import PodInventory.Store.Backing
import PodInventory.Store.Basic
import PodInventory.Store.Disk
import PodInventory.Store.Keyed
import PodInventory.Store.Operation
import PodInventory.Store.Row
import PodInventory.Store.Table
import PodInventory.Store.Tables
import PodInventory.Sync
import PodInventory.Text.Blank
import PodInventory.Text.Numeral
import PodInventory.Text.Percent
import PodInventory.Text.Punycode
import PodInventory.Text.Quoted
import PodInventory.Text.Range
import PodInventory.Text.Split
import PodInventory.Text.Utf8
import PodInventory.Text.Width
import PodInventory.Timeline
import PodInventory.Unicode.Category
import PodInventory.Unicode.CombiningClass
import PodInventory.Unicode.Composition
import PodInventory.Unicode.Direction
import PodInventory.Unicode.Emoji
import PodInventory.Unicode.Joining
import PodInventory.Unicode.Normal
import PodInventory.Unicode.Table
import PodInventory.Unicode.Wide
import PodInventory.Worker.Call
import PodInventory.Worker.Error
import PodInventory.Worker.Registry
import PodInventory.Proofs.Cli.Parameters
import PodInventory.Proofs.Json.Parsing
import PodInventory.Proofs.Json.Tracing
import PodInventory.Proofs.Json.Spelling
import PodInventory.Proofs.Text.Utf8
import PodInventory.Proofs.Http.Fault
import PodInventory.Proofs.Http.Responses
