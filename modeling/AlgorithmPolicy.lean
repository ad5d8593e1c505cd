import AlgorithmPolicy.FileSystem.Tree
import AlgorithmPolicy.Main
import AlgorithmPolicy.Proofs.Acceptability.Views
import AlgorithmPolicy.Proofs.Acceptability.Queries
import AlgorithmPolicy.Proofs.Catalogue.Evaluations
import AlgorithmPolicy.Proofs.Catalogue.Lossless
import AlgorithmPolicy.Proofs.Suite.Queries
import AlgorithmPolicy.Proofs.Policy.Rearrangement
import AlgorithmPolicy.Proofs.Suite.Rearrangement
import AlgorithmPolicy.Proofs.Decimal
import AlgorithmPolicy.Proofs.Time.Rfc3339
import AlgorithmPolicy.Proofs.Json.Tokens
import AlgorithmPolicy.Proofs.Except
import AlgorithmPolicy.Proofs.Json.Canonical
import AlgorithmPolicy.Proofs.Suite.Snapshot
import AlgorithmPolicy.Proofs.Acceptability.Order
import AlgorithmPolicy.Proofs.Registry.Listing
import AlgorithmPolicy.Proofs.Suite.EntryOrder
import AlgorithmPolicy.Proofs.Suite.Checks
import AlgorithmPolicy.Proofs.Suite.KeySizes
import AlgorithmPolicy.Proofs.Suite.Persistence
import AlgorithmPolicy.Proofs.Acceptability.Insertion
import AlgorithmPolicy.Proofs.Suite.Insertion
import AlgorithmPolicy.Proofs.Acceptability.Events
import AlgorithmPolicy.Proofs.Acceptability.Diagnostics
import AlgorithmPolicy.Proofs.Acceptability.Exclusion
import AlgorithmPolicy.Proofs.Suite.Fingerprint
import AlgorithmPolicy.Proofs.Suite.Offsets
import AlgorithmPolicy.Proofs.Json.Document
import AlgorithmPolicy.Proofs.Json.Reader
import AlgorithmPolicy.Proofs.Json.Record
import AlgorithmPolicy.Proofs.Policy.Schema
import AlgorithmPolicy.Proofs.Json.RoundTrip
import AlgorithmPolicy.Proofs.Policy.RoundTrip
import AlgorithmPolicy.Proofs.Catalogue.RoundTrip
import AlgorithmPolicy.Proofs.Suite.RoundTrip
import AlgorithmPolicy.Proofs.Suite.Inspection
import AlgorithmPolicy.Proofs.Level.History
import AlgorithmPolicy.Proofs.CommandLine.Loading
import AlgorithmPolicy.Proofs.CommandLine.Status
import AlgorithmPolicy.Proofs.CommandLine.Validation
import AlgorithmPolicy.Proofs.Configuration.Sources
import AlgorithmPolicy.Proofs.Text
import AlgorithmPolicy.Proofs.Algorithm.Name
import AlgorithmPolicy.Proofs.Registry.Aliases
import AlgorithmPolicy.Proofs.Registry.Standard
import AlgorithmPolicy.Proofs.Registry.NameCount
import AlgorithmPolicy.Proofs.Registry.References
import AlgorithmPolicy.Proofs.Registry.Spelling
import AlgorithmPolicy.Proofs.Path
import AlgorithmPolicy.Proofs.Configuration.Files
import AlgorithmPolicy.Proofs.Configuration.Fields
import AlgorithmPolicy.Proofs.Configuration.Limits
