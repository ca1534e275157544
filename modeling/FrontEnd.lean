import FrontEnd.Diagnostic.Collector
import FrontEnd.Files.Tree
import FrontEnd.Main
import FrontEnd.Proofs.Splits
import FrontEnd.Typing.Scopes
import FrontEnd.Typing.TypeName
import FrontEnd.Proofs.Bodies
import FrontEnd.Proofs.Pieces
import FrontEnd.Proofs.Reading
import FrontEnd.Proofs.Lines
import FrontEnd.Proofs.Anchors
import FrontEnd.Proofs.Printing
import FrontEnd.Proofs.Places
import FrontEnd.Proofs.LineBreaks
import FrontEnd.Proofs.Rows
import FrontEnd.Proofs.Carets
import FrontEnd.Proofs.Marks
import FrontEnd.Proofs.Modes
import FrontEnd.Proofs.DeclarationLog
import FrontEnd.Proofs.Contents
import FrontEnd.Proofs.Listing
import FrontEnd.Proofs.LexCommand
import FrontEnd.Proofs.Streams
import FrontEnd.Proofs.Collecting
import FrontEnd.Proofs.Blocks
import FrontEnd.Proofs.Legible
import FrontEnd.Proofs.Escapes
import FrontEnd.Proofs.TypeNames
import FrontEnd.Proofs.Widths
import FrontEnd.Proofs.Gaps
import FrontEnd.Proofs.Samples
import FrontEnd.Proofs.Assignments
import FrontEnd.Proofs.TypeGrammar
import FrontEnd.Proofs.Lookahead
import FrontEnd.Proofs.Spans
import FrontEnd.Proofs.Arguments
import FrontEnd.Proofs.Excerpts
import FrontEnd.Proofs.Summaries
import FrontEnd.Proofs.Cursors
import FrontEnd.Proofs.LineWindows
import FrontEnd.Proofs.Bounds
