import Keyset.Text.Blank
import Keyset.Text.Alphanumeric
import Keyset.Text.Printable
import Keyset.Text.Casing
import Keyset.FieldMap
import Keyset.Decimal.Layout
import Keyset.Decimal.Scaled
import Keyset.Time.Rfc3339
import Keyset.Json.Reader
import Keyset.Json.Writer
import Keyset.Base64
import Keyset.Value.Text
import Keyset.Record
import Keyset.Operator
import Keyset.SortKey
import Keyset.Order.Parser
import Keyset.AttributeType
import Keyset.Filter.Wire
import Keyset.Predicate.Eval
import Keyset.Filter.ToPredicate
import Keyset.Cql
import Keyset.Sorting
import Keyset.Connection
import Keyset.Existence
import Keyset.Config
import Keyset.Error
import Keyset.Page
import Keyset.Session
import Keyset.Command.Run
import Keyset.Main
import Keyset.Proofs.Cursor.Selection
import Keyset.Proofs.Text.Base64
import Keyset.Proofs.Json.Literal
import Keyset.Proofs.Json.RoundTrip
import Keyset.Proofs.FieldMap
import Keyset.Proofs.Value.Wire
import Keyset.Proofs.Position
import Keyset.Proofs.Cursor.Token
import Keyset.Proofs.Paging.Loop
import Keyset.Proofs.Paging.Changing
import Keyset.Proofs.Paging.Filtered
import Keyset.Proofs.Paging.Backward
import Keyset.Proofs.Paging.Session
import Keyset.Proofs.Cursor.Null
import Keyset.Proofs.Filter.Wire
import Keyset.Proofs.Filter.Meaning
import Keyset.Proofs.Cql.Clause
import Keyset.Proofs.Filter.Answer
import Keyset.Proofs.Predicate.Strings
import Keyset.Proofs.Predicate.Scan
import Keyset.Proofs.Predicate.Casing
import Keyset.Proofs.Containment.Block
import Keyset.Proofs.Cql.Predicate
import Keyset.Proofs.Order.Parser
import Keyset.Proofs.Value.Transitivity
import Keyset.Proofs.Filter.Acceptance
import Keyset.Proofs.Filter.Nodes
import Keyset.Proofs.Value.Comparable
import Keyset.Proofs.Predicate.Comparison
import Keyset.Proofs.Predicate.Lists
import Keyset.Proofs.Cursor.Reversal
import Keyset.Proofs.Cql.Undeclared
import Keyset.Proofs.Sorting.Stable
import Keyset.Proofs.Time.Calendar
import Keyset.Proofs.Time.Rfc3339
import Keyset.Proofs.Cursor.Timestamp
import Keyset.Proofs.Cursor.Source
import Keyset.Proofs.Existence.Batch
import Keyset.Proofs.Existence.Store
import Keyset.Proofs.Cql.Blank
import Keyset.Proofs.Cql.Rewording
import Keyset.Proofs.Cql.Quoting
import Keyset.Proofs.Predicate.Wire
import Keyset.Proofs.Order.Longest
import Keyset.Proofs.Order.Edits
import Keyset.Proofs.Cursor.Fallback
import Keyset.Proofs.AttributeType
import Keyset.Proofs.Predicate.Conjunction
