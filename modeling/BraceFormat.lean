import BraceFormat.Http
import BraceFormat.Main
import BraceFormat.Session
import BraceFormat.Proofs.Numeral
import BraceFormat.Proofs.Spec.Grammar
import BraceFormat.Proofs.Spec.RoundTrip
import BraceFormat.Proofs.Placeholder
import BraceFormat.Proofs.Template.RoundTrip
import BraceFormat.Proofs.Argument
import BraceFormat.Proofs.Formatting
import BraceFormat.Proofs.Rendering
import BraceFormat.Proofs.Feature
import BraceFormat.Proofs.Template.Grammar
import BraceFormat.Proofs.Session
import BraceFormat.Proofs.Composition
import BraceFormat.Proofs.References
import BraceFormat.Proofs.Template.Defect
import BraceFormat.Proofs.Requirement
import BraceFormat.Proofs.Shape
import BraceFormat.Proofs.CommandLine
import BraceFormat.Proofs.Table
import BraceFormat.Proofs.Arrangement
import BraceFormat.Proofs.Padding
import BraceFormat.Proofs.Integer
import BraceFormat.Proofs.Number.Binary64
import BraceFormat.Proofs.Number.Decimal
import BraceFormat.Proofs.Number.Shortest
import BraceFormat.Proofs.Argument.Kind
import BraceFormat.Proofs.ReadBack
import BraceFormat.Proofs.FixedPlaces
import BraceFormat.Proofs.Placeholder.Grammar
import BraceFormat.Proofs.Argument.RoundTrip
import BraceFormat.Proofs.Table.Index
import BraceFormat.Proofs.Width.Bounds
import BraceFormat.Proofs.ZeroPadding
