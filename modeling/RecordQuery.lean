import RecordQuery.Argument.Basic
import RecordQuery.Argument.Conversion
import RecordQuery.Argument.Scalar
import RecordQuery.Calendar
import RecordQuery.Fault
import RecordQuery.Filter.Basic
import RecordQuery.Log
import RecordQuery.Mapping.Basic
import RecordQuery.Mapping.Derivation
import RecordQuery.Number.Binary
import RecordQuery.Number.Decimal
import RecordQuery.Number.Shortest
import RecordQuery.Record.Attribute
import RecordQuery.Record.Declaration
import RecordQuery.Record.Directives
import RecordQuery.Record.Target
import RecordQuery.Registry
import RecordQuery.Session.Basic
import RecordQuery.Session.Numbering
import RecordQuery.Session.Selection
import RecordQuery.Sql.Dialect
import RecordQuery.Sql.Draft
import RecordQuery.Sql.Rendering
import RecordQuery.Text.Numeral
import RecordQuery.Text.Pieces
import RecordQuery.Text.SnakeCase
import RecordQuery.Text.Substitution
import RecordQuery.Text.Uppercase
import RecordQuery.Proofs.Sql.Emission
import RecordQuery.Proofs.Filter.Arguments
import RecordQuery.Proofs.Sql.Binding
import RecordQuery.Proofs.Sql.Parameterization
import RecordQuery.Proofs.Filter.Path
import RecordQuery.Proofs.Sql.FirstFault
import RecordQuery.Proofs.Text.Quoting
import RecordQuery.Proofs.Sql.Wording
import RecordQuery.Proofs.Sql.Unambiguity
import RecordQuery.Proofs.Session.Building
import RecordQuery.Proofs.Sql.DialectIndependence
import RecordQuery.Proofs.Record.Tag
import RecordQuery.Proofs.Record.Derivation
import RecordQuery.Proofs.Registry.Outcome
import RecordQuery.Proofs.Registry.Registration
import RecordQuery.Proofs.Choice
import RecordQuery.Proofs.Registry.History
import RecordQuery.Proofs.Filter.Fields
import RecordQuery.Proofs.Sql.Region
import RecordQuery.Proofs.Sql.Grouping
import RecordQuery.Proofs.Sql.Conjunction
import RecordQuery.Proofs.Session.Calls
import RecordQuery.Proofs.Session.SharedRegistry
import RecordQuery.Proofs.Registry.Logging
import RecordQuery.Proofs.Session.Trace
import RecordQuery.Proofs.Session.Accounting
import RecordQuery.Proofs.Registry.Thinning
import RecordQuery.Proofs.Session.Isolation
import RecordQuery.Proofs.Text.Cutting
import RecordQuery.Proofs.Record.Grammar
import RecordQuery.Proofs.Record.Naming
import RecordQuery.Proofs.Registry.Naming
import RecordQuery.Proofs.Sql.Locality
import RecordQuery.Proofs.Text.Enclosure
import RecordQuery.Proofs.Text.Figures
import RecordQuery.Proofs.Argument.Listing
import RecordQuery.Proofs.Argument.Nesting
import RecordQuery.Proofs.Session.QuotedName
import RecordQuery.Proofs.Text.SnakeCase
import RecordQuery.Proofs.Text.Substitution
import RecordQuery.Proofs.Record.Attribute
import RecordQuery.Proofs.Record.FieldTag
import RecordQuery.Proofs.Record.TypeMark
