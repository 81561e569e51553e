import XmlSchema.Builtin
import XmlSchema.CommandLine
import XmlSchema.Compilation.Basic
import XmlSchema.Compilation.Gathering
import XmlSchema.Compilation.Loading
import XmlSchema.Content
import XmlSchema.Count
import XmlSchema.Document.Basic
import XmlSchema.Document.Declaration
import XmlSchema.Document.Reading
import XmlSchema.Failure
import XmlSchema.FileTree
import XmlSchema.Grammar.Kind
import XmlSchema.Grammar.Rule
import XmlSchema.Grammar.RuleSet
import XmlSchema.Graph
import XmlSchema.Ids
import XmlSchema.Json
import XmlSchema.Limits
import XmlSchema.LocalFile
import XmlSchema.Location.Domain
import XmlSchema.Location.Domain.Composition
import XmlSchema.Location.Domain.Direction
import XmlSchema.Location.Domain.Folding
import XmlSchema.Location.Domain.Ideographs
import XmlSchema.Location.Domain.Joining
import XmlSchema.Location.Domain.Known
import XmlSchema.Location.Domain.Letters
import XmlSchema.Location.Domain.Mark
import XmlSchema.Location.Domain.Punycode
import XmlSchema.Location.Domain.Spellings
import XmlSchema.Location.FilePath
import XmlSchema.Location.Host
import XmlSchema.Location.Percent
import XmlSchema.Location.Trail
import XmlSchema.Location.Url
import XmlSchema.Main
import XmlSchema.Markup.Attribute
import XmlSchema.Markup.Construct
import XmlSchema.Markup.Escape
import XmlSchema.Markup.Event
import XmlSchema.Model.Basic
import XmlSchema.Model.Queue
import XmlSchema.Model.Reference
import XmlSchema.Model.Resolution
import XmlSchema.Name
import XmlSchema.Namespaces
import XmlSchema.Node
import XmlSchema.Occurs
import XmlSchema.Prefixes
import XmlSchema.Proofs.Accumulation
import XmlSchema.Proofs.Arenas
import XmlSchema.Proofs.Bounded
import XmlSchema.Proofs.Bounds
import XmlSchema.Proofs.Climbing
import XmlSchema.Proofs.Content.Contribution
import XmlSchema.Proofs.Content.Declaration
import XmlSchema.Proofs.Content.Derivation
import XmlSchema.Proofs.Content.Flattening
import XmlSchema.Proofs.Content.Globals
import XmlSchema.Proofs.Content.Merging
import XmlSchema.Proofs.Content.Particles
import XmlSchema.Proofs.Content.Substitution
import XmlSchema.Proofs.Content.Wildcards
import XmlSchema.Proofs.Deferral
import XmlSchema.Proofs.Documents.Arrival
import XmlSchema.Proofs.Documents.Documentation
import XmlSchema.Proofs.Documents.Exposure
import XmlSchema.Proofs.Documents.Founded
import XmlSchema.Proofs.Documents.Invariants
import XmlSchema.Proofs.Documents.Labels
import XmlSchema.Proofs.Documents.Memory
import XmlSchema.Proofs.Documents.Milestones
import XmlSchema.Proofs.Documents.Raising
import XmlSchema.Proofs.Documents.Rearrangement
import XmlSchema.Proofs.Documents.Service
import XmlSchema.Proofs.Documents.States
import XmlSchema.Proofs.Feeding
import XmlSchema.Proofs.Filing
import XmlSchema.Proofs.Grammar.Linking
import XmlSchema.Proofs.Grammar.Spelling
import XmlSchema.Proofs.Indexing
import XmlSchema.Proofs.Inlining
import XmlSchema.Proofs.Json.Grammar
import XmlSchema.Proofs.Json.Keys
import XmlSchema.Proofs.Json.Writing
import XmlSchema.Proofs.Labels
import XmlSchema.Proofs.Markup.Consumption
import XmlSchema.Proofs.Markup.Lines
import XmlSchema.Proofs.Markup.Nesting
import XmlSchema.Proofs.Markup.Outline
import XmlSchema.Proofs.Markup.Texts
import XmlSchema.Proofs.Names
import XmlSchema.Proofs.Reading.Adoption
import XmlSchema.Proofs.Reading.Allotment
import XmlSchema.Proofs.Reading.Attributes
import XmlSchema.Proofs.Reading.Bounded
import XmlSchema.Proofs.Reading.Builtins
import XmlSchema.Proofs.Reading.Capture
import XmlSchema.Proofs.Reading.Catalogue
import XmlSchema.Proofs.Reading.Chameleons
import XmlSchema.Proofs.Reading.Depth
import XmlSchema.Proofs.Reading.Documentation
import XmlSchema.Proofs.Reading.Documents
import XmlSchema.Proofs.Reading.Edit
import XmlSchema.Proofs.Reading.Frames
import XmlSchema.Proofs.Reading.Grounded
import XmlSchema.Proofs.Reading.Header
import XmlSchema.Proofs.Reading.Imports
import XmlSchema.Proofs.Reading.Inner
import XmlSchema.Proofs.Reading.Labels
import XmlSchema.Proofs.Reading.Moves
import XmlSchema.Proofs.Reading.Names
import XmlSchema.Proofs.Reading.Preservation
import XmlSchema.Proofs.Reading.Rearrangement
import XmlSchema.Proofs.Reading.Registration
import XmlSchema.Proofs.Reading.Requests
import XmlSchema.Proofs.Reading.Skipping
import XmlSchema.Proofs.Reading.Soundness
import XmlSchema.Proofs.Reading.Sources
import XmlSchema.Proofs.Reading.Steps
import XmlSchema.Proofs.Reading.Targets
import XmlSchema.Proofs.Reading.Turns
import XmlSchema.Proofs.Reading.Twins
import XmlSchema.Proofs.Reading.Wildcards
import XmlSchema.Proofs.Redirects
import XmlSchema.Proofs.Registering
import XmlSchema.Proofs.Registry
import XmlSchema.Proofs.Representation
import XmlSchema.Proofs.Resolution.Bounded
import XmlSchema.Proofs.Resolution.Builtins
import XmlSchema.Proofs.Resolution.Circles
import XmlSchema.Proofs.Resolution.Completion
import XmlSchema.Proofs.Resolution.Coverage
import XmlSchema.Proofs.Resolution.Finality
import XmlSchema.Proofs.Resolution.Founded
import XmlSchema.Proofs.Resolution.Ledger
import XmlSchema.Proofs.Resolution.LookUps
import XmlSchema.Proofs.Resolution.Machine
import XmlSchema.Proofs.Resolution.Mentions
import XmlSchema.Proofs.Resolution.Names
import XmlSchema.Proofs.Resolution.Naming
import XmlSchema.Proofs.Resolution.Notes
import XmlSchema.Proofs.Resolution.Passing
import XmlSchema.Proofs.Resolution.Progress
import XmlSchema.Proofs.Resolution.Records
import XmlSchema.Proofs.Resolution.References
import XmlSchema.Proofs.Resolution.Referents
import XmlSchema.Proofs.Resolution.Scanning
import XmlSchema.Proofs.Resolution.Scheduling
import XmlSchema.Proofs.Resolution.Settlement
import XmlSchema.Proofs.Resolution.Targets
import XmlSchema.Proofs.Resolution.Types
import XmlSchema.Proofs.Shape
import XmlSchema.Proofs.View.Bounded
import XmlSchema.Proofs.View.Imports
import XmlSchema.Proofs.View.Labels
import XmlSchema.Proofs.View.Lossless
import XmlSchema.Proofs.View.Nesting
import XmlSchema.Proofs.Visibility
import XmlSchema.Proofs.Walk
import XmlSchema.Scope.Definition
import XmlSchema.Scope.Scopes
import XmlSchema.Store
import XmlSchema.Symbols
import XmlSchema.Table
import XmlSchema.Text.Blank
import XmlSchema.Text.Hidden
import XmlSchema.Text.Quoted
import XmlSchema.Text.Ranges
import XmlSchema.Text.Split
import XmlSchema.Text.Utf8
import XmlSchema.View.Basic
import XmlSchema.View.Json
