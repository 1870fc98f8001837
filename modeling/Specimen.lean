import Specimen.Main
import Specimen.Proofs.CodePointSet.Search
import Specimen.Proofs.CodePointSet.WellFormed
import Specimen.Proofs.CodePointSet.Members
import Specimen.Proofs.CodePointSet.CaseClosure
import Specimen.Proofs.CodePointSet.Canonical
import Specimen.Proofs.Reader.Reads
import Specimen.Proofs.Reader.Move
import Specimen.Proofs.Pattern.Tree
import Specimen.Proofs.Reader.BracketMove
import Specimen.Proofs.Reader.WellBuilt
import Specimen.Proofs.Pattern.Visits
import Specimen.Proofs.Reader.Numbering
import Specimen.Proofs.Sample.Derivation
import Specimen.Proofs.CodePointSet.Offered
import Specimen.Proofs.Sample.Exhaustive
import Specimen.Proofs.Sample.Soundness
import Specimen.Proofs.Sample.Exactness
import Specimen.Proofs.Sample.Emptiness
import Specimen.Proofs.Reader.Inert
import Specimen.Proofs.Reader.ControlScan
import Specimen.Proofs.Reader.EscapeText
import Specimen.Proofs.Reader.BracketCount
import Specimen.Proofs.Reader.GroupCount
import Specimen.Proofs.Reader.SetExpr
import Specimen.Proofs.Reader.BracketRun
import Specimen.Proofs.Reader.BracketText
import Specimen.Proofs.Pattern.Written
import Specimen.Proofs.Reader.WrittenParts
import Specimen.Proofs.Reader.PatternRun
import Specimen.Proofs.Reader.WrittenRun
import Specimen.Proofs.Pattern.Options
import Specimen.Proofs.Reader.OptionScope
import Specimen.Proofs.Reader.AnchorPlace
import Specimen.Proofs.Reader.Agree
import Specimen.Proofs.Reader.Shift
import Specimen.Proofs.Pattern.Alike
import Specimen.Proofs.Reader.Likeness
import Specimen.Proofs.Reader.InStep
import Specimen.Proofs.Reader.InStepRun
import Specimen.Proofs.Reader.OptionSyntax
import Specimen.Proofs.Reader.LeadingOptions
import Specimen.Proofs.Sample.Choices
import Specimen.Proofs.Sample.Repeating
import Specimen.Proofs.Pattern.Children
import Specimen.Proofs.Reader.Reached
import Specimen.Proofs.Reader.Loops
import Specimen.Proofs.Reader.RepeatBounds
import Specimen.Proofs.Text.Printed
import Specimen.Proofs.Pattern.Label
import Specimen.Proofs.Pattern.OutlineText
import Specimen.Proofs.Sample.Failing
import Specimen.Proofs.CodePointSet.ClosureLaws
import Specimen.Proofs.Sample.NegatedBracket
import Specimen.Proofs.Reader.CharSpelling
import Specimen.Proofs.Sample.SpelledText
import Specimen.Proofs.Reader.Annotate
import Specimen.Proofs.Reader.AnnotateBracket
import Specimen.Proofs.Reader.AnnotateTerm
import Specimen.Proofs.Reader.AnnotateStep
import Specimen.Proofs.Reader.Relocate
import Specimen.Proofs.Reader.Comment
import Specimen.Proofs.Sample.SampleOrder
import Specimen.Proofs.Reader.TreeShape
import Specimen.Proofs.Pattern.Swapped
import Specimen.Proofs.Reader.SwappedRun
import Specimen.Proofs.Checked.Fault
import Specimen.Proofs.Checked.Sets
import Specimen.Proofs.Checked.Classes
import Specimen.Proofs.Checked.Text
import Specimen.Proofs.Checked.Bracket
import Specimen.Proofs.Checked.Escape
import Specimen.Proofs.Checked.Read
import Specimen.Proofs.Reader.QuantifierText
import Specimen.Proofs.Search.LinearScan
import Specimen.Proofs.Sample.Normal
import Specimen.Proofs.Sample.Meaning
import Specimen.Proofs.Sample.Monoid
import Specimen.Proofs.Reader.GroupFrame
