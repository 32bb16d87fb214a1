import EntityQuery.Query.Builder
import EntityQuery.Samples.Catalogue
import EntityQuery.Settings.Load
import EntityQuery.Proofs.Query.Run
import EntityQuery.Proofs.Query.Clauses
import EntityQuery.Proofs.Text.Slice
import EntityQuery.Proofs.Query.Numbering
import EntityQuery.Proofs.Query.Scanning
import EntityQuery.Proofs.Query.Markers
import EntityQuery.Proofs.Derive.Slots
import EntityQuery.Proofs.Query.Binding
import EntityQuery.Proofs.Query.Filled
import EntityQuery.Proofs.Query.Grouping
import EntityQuery.Proofs.Query.Writing
import EntityQuery.Proofs.Query.Decoding
import EntityQuery.Proofs.Schema.Sections
import EntityQuery.Proofs.Derive.Accessors
import EntityQuery.Proofs.Query.Forgetting
import EntityQuery.Proofs.Query.Turns
import EntityQuery.Proofs.Query.Disjunction
import EntityQuery.Proofs.Query.Cells
import EntityQuery.Proofs.Query.Nulls
import EntityQuery.Proofs.Query.Destinations
import EntityQuery.Proofs.Schema.Checks
import EntityQuery.Proofs.Derive.Conditions
import EntityQuery.Proofs.Query.Counting
import EntityQuery.Proofs.Query.Spelled
import EntityQuery.Proofs.Query.Violations
import EntityQuery.Proofs.Query.Grammar
import EntityQuery.Proofs.Value.Integers
import EntityQuery.Proofs.Schema.Words
import EntityQuery.Proofs.Schema.Seams
import EntityQuery.Proofs.Query.Cutting
