import LogQuery.Main
import LogQuery.Session
import LogQuery.Proofs.Fragment.Lines
import LogQuery.Proofs.Highlight
import LogQuery.Proofs.Token.FrameRule
import LogQuery.Proofs.Token.Growth
import LogQuery.Proofs.Token.Keystroke
import LogQuery.Proofs.Token.Provenance
import LogQuery.Proofs.Token.Seam
import LogQuery.Proofs.Fragment.Boundary
import LogQuery.Proofs.Fragment.Closing
import LogQuery.Proofs.Fragment.Longest
import LogQuery.Proofs.Token.LineBreak
import LogQuery.Proofs.Token.Operator
import LogQuery.Proofs.Token.Coverage
import LogQuery.Proofs.FunctionList.Refresh
import LogQuery.Proofs.CommandLine.Files
import LogQuery.Proofs.Settings
import LogQuery.Proofs.CommandLine.Endings
import LogQuery.Proofs.Session
import LogQuery.Proofs.Token.Lookup
import LogQuery.Proofs.Token.Neighbours
import LogQuery.Proofs.Token.Grouping
import LogQuery.Proofs.Fragment.Gap
import LogQuery.Proofs.Fragment.Spacing
import LogQuery.Proofs.Token.Spacing
import LogQuery.Proofs.Token.Callable
import LogQuery.Proofs.FunctionList.Entries
import LogQuery.Proofs.ReferencePage.Layout
