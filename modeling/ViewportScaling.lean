import ViewportScaling.CommandLine.Program
import ViewportScaling.Css.Printer
import ViewportScaling.Css.Reader
import ViewportScaling.Document.Walk
import ViewportScaling.Main
import ViewportScaling.Media.Pass
import ViewportScaling.Scaling.Length
import ViewportScaling.Settings.File
import ViewportScaling.Proofs.Document.Coherence
import ViewportScaling.Proofs.Document.Extension
import ViewportScaling.Proofs.Document.Merging
import ViewportScaling.Proofs.Media.Blocks
import ViewportScaling.Proofs.Media.Growth
import ViewportScaling.Proofs.Document.Planting
import ViewportScaling.Proofs.Media.Passes
import ViewportScaling.Proofs.Media.Specification
import ViewportScaling.Proofs.Css.Cleaning
import ViewportScaling.Proofs.Css.Conservation
import ViewportScaling.Proofs.Css.Recognition
import ViewportScaling.Proofs.Css.Splitting
import ViewportScaling.Proofs.Css.Tidying
import ViewportScaling.Proofs.Css.Declarations
import ViewportScaling.Proofs.Css.Printable
import ViewportScaling.Proofs.Css.Rereading
import ViewportScaling.Proofs.Css.Likeness
import ViewportScaling.Proofs.Scaling.Values
import ViewportScaling.Proofs.Media.Printing
import ViewportScaling.Proofs.Media.RoundTrip
import ViewportScaling.Proofs.Numeric.Exactness
import ViewportScaling.Proofs.Scaling.Lengths
import ViewportScaling.Proofs.Media.Atomicity
import ViewportScaling.Proofs.Document.Grouping
import ViewportScaling.Proofs.Media.Contributions
import ViewportScaling.Proofs.Media.Mirroring
import ViewportScaling.Proofs.Media.SingleClass
import ViewportScaling.Proofs.Media.Cascade
import ViewportScaling.Proofs.Document.ParentLinks
import ViewportScaling.Proofs.Document.Walking
import ViewportScaling.Proofs.Document.Folding
import ViewportScaling.Proofs.Media.Histories
import ViewportScaling.Proofs.Css.Agreement
import ViewportScaling.Proofs.Css.Stability
import ViewportScaling.Proofs.Css.Concatenation
import ViewportScaling.Proofs.Css.InertComments
import ViewportScaling.Proofs.Css.CommentedTokens
import ViewportScaling.Proofs.Css.Insertion
import ViewportScaling.Proofs.Css.Units
import ViewportScaling.Proofs.Scaling.Units
import ViewportScaling.Proofs.Scaling.Runs
import ViewportScaling.Proofs.Media.Units
import ViewportScaling.Proofs.Media.Juxtaposition
import ViewportScaling.Proofs.Settings.Overriding
import ViewportScaling.Proofs.Numeric.Respelling
import ViewportScaling.Proofs.Media.Respelling
import ViewportScaling.Proofs.Numeric.Denotation
import ViewportScaling.Proofs.Numeric.Thousandths
import ViewportScaling.Proofs.Settings.Construction
import ViewportScaling.Proofs.Media.Sizes
import ViewportScaling.Proofs.CommandLine.Parameters
import ViewportScaling.Proofs.CommandLine.Conversion
import ViewportScaling.Proofs.Media.Copies
import ViewportScaling.Proofs.Media.Reordering
import ViewportScaling.Proofs.Css.FirstFault
import ViewportScaling.Proofs.Css.Overlap
import ViewportScaling.Proofs.Css.NormalForm
import ViewportScaling.Proofs.Document.Consumers
import ViewportScaling.Proofs.Css.Settling
import ViewportScaling.Proofs.Css.Respacing
