import RecordFilter.Clause.Export
import RecordFilter.Filter
import RecordFilter.Pattern.Engine
import RecordFilter.QueryText.Reader
import RecordFilter.QueryText.Writing
import RecordFilter.Proofs.Traversal
import RecordFilter.Proofs.QueryText.Transition
import RecordFilter.Proofs.QueryText.Run
import RecordFilter.Proofs.QueryText.Reader
import RecordFilter.Proofs.QueryText.Grammar
import RecordFilter.Proofs.QueryText.Recognition
import RecordFilter.Proofs.QueryText.RoundTrip
import RecordFilter.Proofs.QueryText.Position
import RecordFilter.Proofs.Clause.Fault
import RecordFilter.Proofs.Clause.Typing
import RecordFilter.Proofs.Clause.Shown
import RecordFilter.Proofs.QueryText.Concatenation
import RecordFilter.Proofs.QueryText.Restriction
import RecordFilter.Proofs.Clause.RoundTrip
import RecordFilter.Proofs.Filter.Observation
import RecordFilter.Proofs.Number.Digits
import RecordFilter.Proofs.Number.Grammar
import RecordFilter.Proofs.Number.Rounding
import RecordFilter.Proofs.Number.Numeral
import RecordFilter.Proofs.Number.Order
import RecordFilter.Proofs.Time.Calendar
import RecordFilter.Proofs.Time.RoundTrip
import RecordFilter.Proofs.Time.AnyYear
import RecordFilter.Proofs.Time.DateText
import RecordFilter.Proofs.Time.TimeText
import RecordFilter.Proofs.Time.Forms
import RecordFilter.Proofs.Time.Readings
import RecordFilter.Proofs.Time.Spellings
import RecordFilter.Proofs.QueryText.Parts
import RecordFilter.Proofs.Clause.Construction
import RecordFilter.Proofs.Clause.Export
import RecordFilter.Proofs.Criterion.Complement
import RecordFilter.Proofs.Filter.Selection
import RecordFilter.Proofs.Clause.Refusal
import RecordFilter.Proofs.QueryText.FaultKind
import RecordFilter.Proofs.QueryText.FaultPosition
import RecordFilter.Proofs.QueryText.Interchange
import RecordFilter.Proofs.QueryText.TrailingSeparator
import RecordFilter.Proofs.QueryText.Unescaping
import RecordFilter.Proofs.QueryText.GroupValues
import RecordFilter.Proofs.Criterion.Elementwise
import RecordFilter.Proofs.Criterion.Expansion
import RecordFilter.Proofs.Criterion.Incomparable
import RecordFilter.Proofs.Criterion.Patterns
import RecordFilter.Proofs.Criterion.Range
import RecordFilter.Proofs.Filter.Mismatch
import RecordFilter.Proofs.Criterion.Integers
import RecordFilter.Proofs.Whitelist
import RecordFilter.Proofs.QueryText.Calls
import RecordFilter.Proofs.QueryText.Registers
import RecordFilter.Proofs.QueryText.Lockstep
import RecordFilter.Proofs.QueryText.Invariant
import RecordFilter.Proofs.Stages
