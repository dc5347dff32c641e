import IgnoreRules.Glob.Match
import IgnoreRules.Main
import IgnoreRules.Proofs.FullMatch
import IgnoreRules.Proofs.ClassContent
import IgnoreRules.Proofs.Translation
import IgnoreRules.Proofs.LastMatch
import IgnoreRules.Proofs.Results
import IgnoreRules.Proofs.Layering
import IgnoreRules.Proofs.Overflow
import IgnoreRules.Proofs.SegmentStarts
import IgnoreRules.Proofs.Accounting
import IgnoreRules.Proofs.ExactLines
import IgnoreRules.Proofs.Explanation
import IgnoreRules.Proofs.Provenance
import IgnoreRules.Proofs.TextBytes
import IgnoreRules.Proofs.Escaping
import IgnoreRules.Proofs.Cells
import IgnoreRules.Proofs.CheckWords
import IgnoreRules.Proofs.Checking
import IgnoreRules.Proofs.LineEndings
import IgnoreRules.Proofs.InlineLines
import IgnoreRules.Proofs.NamedFiles
import IgnoreRules.Proofs.TokenFaults
import IgnoreRules.Proofs.ScalarFaults
import IgnoreRules.Proofs.ShownNumbers
import IgnoreRules.Proofs.Merging
import IgnoreRules.Proofs.ConfigFaults
import IgnoreRules.Proofs.Insertion
import IgnoreRules.Proofs.CanonicalLines
import IgnoreRules.Proofs.Tokenization
import IgnoreRules.Proofs.ClassEnds
import IgnoreRules.Proofs.TokenRuns
import IgnoreRules.Proofs.Separators
import IgnoreRules.Proofs.OwnBrackets
import IgnoreRules.Proofs.LastSegment
import IgnoreRules.Proofs.Spellings
import IgnoreRules.Proofs.TrailingBlanks
import IgnoreRules.Proofs.HomeInMessages
import IgnoreRules.Proofs.FirstFailure
import IgnoreRules.Proofs.LeastFault
import IgnoreRules.Proofs.Overviews
import IgnoreRules.Proofs.EscapedEnds
import IgnoreRules.Proofs.DirectoryMarkers
import IgnoreRules.Proofs.HomeCompaction
