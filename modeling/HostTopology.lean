import HostTopology.AppHost.Build
import HostTopology.AppHost.Declaration
import HostTopology.AppHost.Reader
import HostTopology.Artifacts
import HostTopology.Canvas
import HostTopology.Catalog.Aspire
import HostTopology.Catalog.Basic
import HostTopology.Catalog.Check
import HostTopology.Catalog.Registry
import HostTopology.Command.FileTree
import HostTopology.Command.Files
import HostTopology.Command.Grammar
import HostTopology.Command.Help
import HostTopology.Command.Invocation
import HostTopology.Command.Path
import HostTopology.Command.Run
import HostTopology.Companion.Files
import HostTopology.Companion.Json
import HostTopology.Compose.Image
import HostTopology.Compose.Reader
import HostTopology.Compose.Service
import HostTopology.Config
import HostTopology.Decimal
import HostTopology.Dockerfile.Naming
import HostTopology.Dockerfile.Reader
import HostTopology.Document.Printer
import HostTopology.Document.Reader
import HostTopology.Identifier
import HostTopology.Import.Format
import HostTopology.Main
import HostTopology.Naming
import HostTopology.Proofs.Acceptance
import HostTopology.Proofs.Agreement
import HostTopology.Proofs.Allocation
import HostTopology.Proofs.Assignments
import HostTopology.Proofs.Blocks
import HostTopology.Proofs.Builds
import HostTopology.Proofs.Calls
import HostTopology.Proofs.Casing
import HostTopology.Proofs.Chain
import HostTopology.Proofs.Chaining
import HostTopology.Proofs.Code
import HostTopology.Proofs.Comments
import HostTopology.Proofs.Completion
import HostTopology.Proofs.Components
import HostTopology.Proofs.Constraints
import HostTopology.Proofs.Continuation
import HostTopology.Proofs.Counts
import HostTopology.Proofs.Cycle
import HostTopology.Proofs.Decoding
import HostTopology.Proofs.DefaultIds
import HostTopology.Proofs.Degrees
import HostTopology.Proofs.Dependencies
import HostTopology.Proofs.Drawing
import HostTopology.Proofs.Editing
import HostTopology.Proofs.Families
import HostTopology.Proofs.Faultless
import HostTopology.Proofs.Faults
import HostTopology.Proofs.Fragments
import HostTopology.Proofs.Identifiers
import HostTopology.Proofs.Images
import HostTopology.Proofs.ImportedNames
import HostTopology.Proofs.Importing
import HostTopology.Proofs.Insertion
import HostTopology.Proofs.Integrity
import HostTopology.Proofs.Issues
import HostTopology.Proofs.Labels
import HostTopology.Proofs.Layout
import HostTopology.Proofs.Levels
import HostTopology.Proofs.Lexing
import HostTopology.Proofs.Literals
import HostTopology.Proofs.Loading
import HostTopology.Proofs.Messages
import HostTopology.Proofs.Names
import HostTopology.Proofs.Notices
import HostTopology.Proofs.Numbering
import HostTopology.Proofs.Opacity
import HostTopology.Proofs.Order
import HostTopology.Proofs.Outline
import HostTopology.Proofs.Passing
import HostTopology.Proofs.Pieces
import HostTopology.Proofs.Placeholder
import HostTopology.Proofs.Places
import HostTopology.Proofs.Plain
import HostTopology.Proofs.Queueing
import HostTopology.Proofs.Quoting
import HostTopology.Proofs.Reading
import HostTopology.Proofs.Rearranging
import HostTopology.Proofs.Reconnection
import HostTopology.Proofs.Recovery
import HostTopology.Proofs.Reissue
import HostTopology.Proofs.Relabeling
import HostTopology.Proofs.Remarks
import HostTopology.Proofs.Renaming
import HostTopology.Proofs.Replay
import HostTopology.Proofs.Reprint
import HostTopology.Proofs.Reserved
import HostTopology.Proofs.Results
import HostTopology.Proofs.Revalidation
import HostTopology.Proofs.RoundTrip
import HostTopology.Proofs.Saving
import HostTopology.Proofs.Scaling
import HostTopology.Proofs.Scanning
import HostTopology.Proofs.Scope
import HostTopology.Proofs.Sections
import HostTopology.Proofs.Sequencing
import HostTopology.Proofs.Settings
import HostTopology.Proofs.Shapes
import HostTopology.Proofs.Spacing
import HostTopology.Proofs.Spelling
import HostTopology.Proofs.Statements
import HostTopology.Proofs.Suggestions
import HostTopology.Proofs.Ties
import HostTopology.Proofs.Trailing
import HostTopology.Proofs.Trees
import HostTopology.Proofs.Values
import HostTopology.Proofs.Visiting
import HostTopology.Render.Options
import HostTopology.Sequence
import HostTopology.Session
import HostTopology.Shape.Basic
import HostTopology.Template
import HostTopology.Text.Blank
import HostTopology.Text.CaseTable
import HostTopology.Text.Digit
import HostTopology.Text.Letter
import HostTopology.Text.LowerTable
import HostTopology.Text.Points
import HostTopology.Text.PrintableTable
import HostTopology.Text.Quoted
import HostTopology.Text.Ranges
import HostTopology.Text.Scan
import HostTopology.Text.UpperTable
import HostTopology.Text.Word
import HostTopology.Text.WordTable
import HostTopology.Topology.Basic
import HostTopology.Topology.Shape
import HostTopology.Topology.Typed
import HostTopology.Validation.Cycle
import HostTopology.Validation.Finding
import HostTopology.Validation.Report
import HostTopology.Validation.Rules
import HostTopology.Value.Basic
import HostTopology.Value.Display
import HostTopology.Yaml.Node.Basic
import HostTopology.Yaml.Node.Meaning
import HostTopology.Yaml.Node.Merge
import HostTopology.Yaml.Node.Reader
import HostTopology.Yaml.Scalar
import HostTopology.Yaml.Scalar.Meaning
import HostTopology.Yaml.Token
import HostTopology.Yaml.Token.Lexer
import HostTopology.Yaml.Token.Scalar
import HostTopology.Yaml.Tree
import HostTopology.Yaml.Tree.Printer
