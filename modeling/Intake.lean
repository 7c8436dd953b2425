import Intake.RecordLibrary.BuiltIn
import Intake.Function
import Intake.Schema.Keywords
import Intake.LocaleScope
import Intake.Proofs.Outcome
import Intake.Proofs.Value.Equality
import Intake.Proofs.Text.Blank
import Intake.Proofs.Text.Digits
import Intake.Proofs.Calendar.RoundTrip
import Intake.Proofs.Calendar.Zone
import Intake.Proofs.Calendar.Grammar.Date
import Intake.Proofs.Numeric.Place
import Intake.Proofs.Numeric.Written
import Intake.Proofs.Numeric.Limit
import Intake.Proofs.Numeric.Whole
import Intake.Proofs.Numeric.Nearest
import Intake.Proofs.Numeric.Shortest
import Intake.Proofs.Numeric.ReadBack
import Intake.Proofs.Numeric.Significant
import Intake.Proofs.Numeric.Fits
import Intake.Proofs.Draws
import Intake.Proofs.Context
import Intake.Proofs.Rule.Numeric
import Intake.Proofs.Leaf.Settled
import Intake.Proofs.Leaf.Canonical
import Intake.Proofs.Value.Entries
import Intake.Proofs.Schema.Build
import Intake.Proofs.Schema.Parts
import Intake.Proofs.Schema.Locale
import Intake.Proofs.Schema.Modifiers
import Intake.Proofs.Schema.Nodes
import Intake.Proofs.Schema.Settled
import Intake.Proofs.Alike
import Intake.Proofs.Rule.Alike
import Intake.Proofs.Faults.Text
import Intake.Proofs.Faults.Numeric
import Intake.Proofs.Faults.Temporal
import Intake.Proofs.Faults.Leaf
import Intake.Proofs.Schema.Union
import Intake.Proofs.Schema.Alike
import Intake.Proofs.Schema.Errors
import Intake.Proofs.Schema.Reliable
import Intake.Proofs.Faults.Schema
import Intake.Proofs.Schema.Projection
import Intake.Proofs.Schema.Choice
import Intake.Proofs.RecordLibrary
import Intake.Proofs.RecordModel
import Intake.Proofs.Rule.Named
import Intake.Proofs.Schema.Paths
import Intake.Proofs.Leaf.Sampled
import Intake.Proofs.Schema.Accepts
import Intake.Proofs.Schema.Infer
import Intake.Proofs.Schema.Layout
import Intake.Proofs.Leaf.Range
import Intake.Proofs.Leaf.Exact
import Intake.Proofs.Leaf.Reasons
import Intake.Proofs.Value.Mild
import Intake.Proofs.Leaf.RandomMoment
import Intake.Proofs.Leaf.Stock
import Intake.Proofs.Schema.Answered
import Intake.Proofs.Schema.Sampling
import Intake.Proofs.Calendar.Grammar.Search
import Intake.Proofs.Leaf.Concord
import Intake.Proofs.Leaf.TimeText
import Intake.Proofs.Schema.Chain
import Intake.Proofs.Value.Merging
import Intake.Proofs.Schema.Merging
import Intake.Proofs.Numeric.Rounded
import Intake.Proofs.Numeric.Ordered
import Intake.Proofs.Numeric.Error
import Intake.Proofs.Leaf.FloatBounds
import Intake.Proofs.Leaf.Trimmed
import Intake.Proofs.Calendar.Ordinal
import Intake.Proofs.Calendar.Seconds
import Intake.Proofs.Calendar.Millis
import Intake.Proofs.Leaf.DateRange
import Intake.Proofs.Leaf.Millis
import Intake.Proofs.Rule.Readable
import Intake.Proofs.Schema.Marks
import Intake.Proofs.Numeric.Spelled
import Intake.Proofs.Leaf.NumberText
import Intake.Proofs.Value.Facing
import Intake.Proofs.Leaf.Strict
import Intake.Proofs.Leaf.Link
import Intake.Proofs.Leaf.Anchored
import Intake.Proofs.RecordModel.Fields
import Intake.Proofs.RecordModel.Attributes
import Intake.Proofs.Schema.Candidates
import Intake.Proofs.Leaf.Override
import Intake.Proofs.Numeric.Places
import Intake.Proofs.Numeric.Finite
import Intake.Proofs.Rule.Rounding
import Intake.Proofs.Leaf.Noise
import Intake.Proofs.LocaleScope
import Intake.Proofs.Schema.OwnSample
