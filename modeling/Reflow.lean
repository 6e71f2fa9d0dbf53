import Reflow.Main
import Reflow.Report.Markdown
import Reflow.Report.Summary
import Reflow.Proofs.Report.Frames
import Reflow.Proofs.Stylesheet.Printing
import Reflow.Proofs.Cache.History
import Reflow.Proofs.Analysis.Failures
import Reflow.Proofs.Length.Pixels
import Reflow.Proofs.Length.Words
import Reflow.Proofs.Length.Units
import Reflow.Proofs.Position.Bounds
import Reflow.Proofs.Position.Declarations
import Reflow.Proofs.Position.Layout
import Reflow.Proofs.Check.Thresholds
import Reflow.Proofs.Check.Ignoring
import Reflow.Proofs.Check.Breakpoints
import Reflow.Proofs.Check.Disagreements
import Reflow.Proofs.Check.MediaWidths
import Reflow.Proofs.Check.FlexShorthand
import Reflow.Proofs.Check.Witnesses
import Reflow.Proofs.Studio.Unanswered
import Reflow.Proofs.Stylesheet.Comments
import Reflow.Proofs.Stylesheet.FlatRules
import Reflow.Proofs.Stylesheet.Fragments
import Reflow.Proofs.Stylesheet.Partition
import Reflow.Proofs.Stylesheet.Rebuilding
import Reflow.Proofs.Diagram.Growth
import Reflow.Proofs.Diagram.Heading
import Reflow.Proofs.Diagram.Notice
import Reflow.Proofs.Diagram.Sizes
import Reflow.Proofs.Diagram.WellFormed
import Reflow.Proofs.Painter.Texts
import Reflow.Proofs.Report.Diagrams
import Reflow.Proofs.LineScan.Rows
import Reflow.Proofs.Analysis.Dialects
import Reflow.Proofs.Report.Highlights
import Reflow.Proofs.Roster.Runs
import Reflow.Proofs.Painter.PaletteText
import Reflow.Proofs.Diagram.Distinct
import Reflow.Proofs.Studio.Replacements
import Reflow.Proofs.Text.Truncation
import Reflow.Proofs.Diagram.Counts
import Reflow.Proofs.Check.Gates
