import EventTracking.Base64
import EventTracking.Calendar
import EventTracking.CommandLine.Arguments
import EventTracking.CommandLine.Command
import EventTracking.CommandLine.Outcome
import EventTracking.CommandLine.Terminal
import EventTracking.Container
import EventTracking.Context.Classification
import EventTracking.Context.Event
import EventTracking.Context.Registry
import EventTracking.Context.Resolution
import EventTracking.Directory
import EventTracking.Entity
import EventTracking.Event
import EventTracking.Fault
import EventTracking.FileTree
import EventTracking.Json.Basic
import EventTracking.Json.Reader
import EventTracking.Json.Writer
import EventTracking.Log
import EventTracking.Main
import EventTracking.Manifest
import EventTracking.Manifest.Cache
import EventTracking.Number.Binary64
import EventTracking.Number.Decimal
import EventTracking.Number.Shortest
import EventTracking.Pairs
import EventTracking.Payload.Build
import EventTracking.Payload.Builder
import EventTracking.Payload.Processing
import EventTracking.Plugin
import EventTracking.Schema.Identifier
import EventTracking.Schema.Parts
import EventTracking.Schema.Rule
import EventTracking.Schema.RuleSet
import EventTracking.Schema.Valuation
import EventTracking.Session
import EventTracking.Settings
import EventTracking.Settings.EnvFile
import EventTracking.Settings.Shared
import EventTracking.Signature
import EventTracking.Text.Blank
import EventTracking.Text.Case
import EventTracking.Text.CaseTable
import EventTracking.Text.Digit
import EventTracking.Text.Encoding
import EventTracking.Text.Printable
import EventTracking.Text.Quoted
import EventTracking.Timestamp
import EventTracking.Tracker.Basic
import EventTracking.Tracker.Track
import EventTracking.Validation
import EventTracking.Value
import EventTracking.Value.Equality
import EventTracking.Value.Text
import EventTracking.Yaml.Cursor
import EventTracking.Yaml.Document
import EventTracking.Yaml.Merge
import EventTracking.Yaml.Node
import EventTracking.Yaml.Scalar
import EventTracking.Yaml.ScalarValue
import EventTracking.Yaml.Tag
import EventTracking.Yaml.Token
import EventTracking.Proofs.Act
import EventTracking.Proofs.Agreement
import EventTracking.Proofs.Base64.RoundTrip
import EventTracking.Proofs.Base64.Spelling
import EventTracking.Proofs.CommandLine.Preview
import EventTracking.Proofs.CommandLine.Verdict
import EventTracking.Proofs.Context.Agreement
import EventTracking.Proofs.Context.Arity
import EventTracking.Proofs.Context.Contributions
import EventTracking.Proofs.Context.Direct
import EventTracking.Proofs.Context.Equivalence
import EventTracking.Proofs.Context.Isolation
import EventTracking.Proofs.Context.Recognition
import EventTracking.Proofs.Context.Registrations
import EventTracking.Proofs.Context.Removal
import EventTracking.Proofs.Context.SelfDescribing
import EventTracking.Proofs.Context.Snapshots
import EventTracking.Proofs.Context.Spelling
import EventTracking.Proofs.Event
import EventTracking.Proofs.Json.Characters
import EventTracking.Proofs.Json.Data
import EventTracking.Proofs.Json.Fields
import EventTracking.Proofs.Json.Floating
import EventTracking.Proofs.Json.Grammar
import EventTracking.Proofs.Json.Plain
import EventTracking.Proofs.Json.RoundTrip
import EventTracking.Proofs.Json.Scalar
import EventTracking.Proofs.Log
import EventTracking.Proofs.Manifest.Caching
import EventTracking.Proofs.Manifest.Language
import EventTracking.Proofs.Manifest.Registration
import EventTracking.Proofs.Manifest.Tracking
import EventTracking.Proofs.Number.Decimal
import EventTracking.Proofs.Pairs
import EventTracking.Proofs.Payload.Build
import EventTracking.Proofs.Payload.Builder
import EventTracking.Proofs.Payload.Contexts
import EventTracking.Proofs.Payload.Deferred
import EventTracking.Proofs.Payload.Document
import EventTracking.Proofs.Payload.Encodings
import EventTracking.Proofs.Payload.Forms
import EventTracking.Proofs.Payload.Frozen
import EventTracking.Proofs.Payload.Merging
import EventTracking.Proofs.Payload.Obstacles
import EventTracking.Proofs.Payload.Processing
import EventTracking.Proofs.Payload.Routes
import EventTracking.Proofs.Payload.Success
import EventTracking.Proofs.Payload.Texts
import EventTracking.Proofs.Schema.Grammar
import EventTracking.Proofs.Schema.Identifier
import EventTracking.Proofs.Schema.Inclusion
import EventTracking.Proofs.Schema.Matching
import EventTracking.Proofs.Schema.RuleSet
import EventTracking.Proofs.Schema.Spelling
import EventTracking.Proofs.Schema.Valuation
import EventTracking.Proofs.Session
import EventTracking.Proofs.Timestamp
import EventTracking.Proofs.Tracker.Adoption
import EventTracking.Proofs.Tracker.Contexts
import EventTracking.Proofs.Tracker.Course
import EventTracking.Proofs.Tracker.EventSchema
import EventTracking.Proofs.Tracker.Failures
import EventTracking.Proofs.Tracker.Hooks
import EventTracking.Proofs.Tracker.Overlay
import EventTracking.Proofs.Tracker.Plugins
import EventTracking.Proofs.Tracker.Returned
import EventTracking.Proofs.Validation
import EventTracking.Proofs.Value.Entries
import EventTracking.Proofs.Value.Equality
import EventTracking.Proofs.Value.Json
