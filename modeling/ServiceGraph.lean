import ServiceGraph.Editor.Message
import ServiceGraph.Main
import ServiceGraph.Proofs.Annotation.Values
import ServiceGraph.Proofs.Noted
import ServiceGraph.Proofs.Schema.Nodes
import ServiceGraph.Proofs.Graph.WellFormed
import ServiceGraph.Proofs.Descriptor.Draft
import ServiceGraph.Proofs.Schema.Notes
import ServiceGraph.Proofs.Descriptor.Shapes
import ServiceGraph.Proofs.Schema.OfType
import ServiceGraph.Proofs.Schema.Accounted
import ServiceGraph.Proofs.Conflict
import ServiceGraph.Proofs.Graph.Consistent
import ServiceGraph.Proofs.Keyed
import ServiceGraph.Proofs.Shape.Heritage
import ServiceGraph.Proofs.Annotation.Lookup
import ServiceGraph.Proofs.Binding.Lookup
import ServiceGraph.Proofs.Binding.Places
import ServiceGraph.Proofs.Descriptor.Order
import ServiceGraph.Proofs.Shape.Catalog
import ServiceGraph.Proofs.Shape.Fields
import ServiceGraph.Proofs.Shape.Places
import ServiceGraph.Proofs.Shape.Removal
import ServiceGraph.Proofs.Graph.Confined
import ServiceGraph.Proofs.Graph.Places
import ServiceGraph.Proofs.Graph.Order
import ServiceGraph.Proofs.Source.Coherent
import ServiceGraph.Proofs.Annotation.Places
import ServiceGraph.Proofs.Syntax.Scanning
import ServiceGraph.Proofs.Syntax.Moves
import ServiceGraph.Proofs.Syntax.Parts
import ServiceGraph.Proofs.Syntax.Places
import ServiceGraph.Proofs.Syntax.Written
import ServiceGraph.Proofs.Syntax.Declarations
import ServiceGraph.Proofs.Emission.Comment
import ServiceGraph.Proofs.Emission.Descriptions
import ServiceGraph.Proofs.Emission.Tags
import ServiceGraph.Proofs.Json.Compact
import ServiceGraph.Proofs.Emission.Notes
import ServiceGraph.Proofs.Emission.Types
import ServiceGraph.Proofs.Graph.Comments
import ServiceGraph.Proofs.Graph.Stubs
import ServiceGraph.Proofs.Emission.Literals
import ServiceGraph.Proofs.Emission.Files
import ServiceGraph.Proofs.Emission.Names
import ServiceGraph.Proofs.Editor.Session
import ServiceGraph.Proofs.Binding.Counting
import ServiceGraph.Proofs.Schema.Stack
import ServiceGraph.Proofs.Schema.Recursion
import ServiceGraph.Proofs.Syntax.Inlining
import ServiceGraph.Proofs.Annotation.Inlining
import ServiceGraph.Proofs.Shape.Inlining
import ServiceGraph.Proofs.Schema.Inlining
import ServiceGraph.Proofs.Descriptor.Inlining
import ServiceGraph.Proofs.Graph.Inlining
import ServiceGraph.Proofs.Emission.Interfaces
import ServiceGraph.Proofs.Related
import ServiceGraph.Proofs.Emission.Catalog
import ServiceGraph.Proofs.Emission.Schemas
import ServiceGraph.Proofs.Emission.Fields
import ServiceGraph.Proofs.Emission.Declarations
import ServiceGraph.Proofs.Emission.Descriptors
import ServiceGraph.Proofs.Shape.Cycles
import ServiceGraph.Proofs.Shape.Merging
import ServiceGraph.Proofs.Schema.Built
import ServiceGraph.Proofs.Schema.Texts
import ServiceGraph.Proofs.Schema.Validation
import ServiceGraph.Proofs.Syntax.Documented
import ServiceGraph.Proofs.Emission.Closers
import ServiceGraph.Proofs.Emission.Pieces
import ServiceGraph.Proofs.Emission.RoundTrip
import ServiceGraph.Proofs.Emission.Rebound
import ServiceGraph.Proofs.Schema.Unions
import ServiceGraph.Proofs.Annotation.Positions
import ServiceGraph.Proofs.Graph.Positions
import ServiceGraph.Proofs.Shape.Overriding
import ServiceGraph.Proofs.Shape.Aliases
import ServiceGraph.Proofs.Schema.Entries
import ServiceGraph.Proofs.Graph.Aliases
import ServiceGraph.Proofs.Text.Offsets
import ServiceGraph.Proofs.Editor.Tag
import ServiceGraph.Proofs.Repeats
import ServiceGraph.Proofs.Conflict.Complete
import ServiceGraph.Proofs.Json.Reading
import ServiceGraph.Proofs.Json.RoundTrip
import ServiceGraph.Proofs.Emission.Codec
import ServiceGraph.Proofs.Template.Search
import ServiceGraph.Proofs.Naming.Spellings
import ServiceGraph.Proofs.Text.Bytes
import ServiceGraph.Proofs.Text.LineStarts
import ServiceGraph.Proofs.Editor.Position
import ServiceGraph.Proofs.Editor.Word
import ServiceGraph.Proofs.Naming.Words
import ServiceGraph.Proofs.Emission.Fresh
import ServiceGraph.Proofs.Annotation.Delimiters
