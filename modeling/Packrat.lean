import Packrat.Pattern
import Packrat.Text.Quoted
import Packrat.Lexer.Reading
import Packrat.Tree
import Packrat.Error.Hint
import Packrat.Error.Excerpt
import Packrat.Log
import Packrat.Config
import Packrat.Cache
import Packrat.Failure
import Packrat.Rule
import Packrat.Parser
import Packrat.Grammar.Recording
import Packrat.Grammar.Analyzer
import Packrat.Grammar.Validation
import Packrat.Form
import Packrat.Proofs.Position
import Packrat.Proofs.Reading
import Packrat.Proofs.Failure
import Packrat.Proofs.Session.Invocation
import Packrat.Proofs.Session.Settled
import Packrat.Proofs.Session.Keeping
import Packrat.Proofs.Session.Task
import Packrat.Proofs.Meaning
import Packrat.Proofs.Meaning.Forward
import Packrat.Proofs.Budget
import Packrat.Proofs.Peg
import Packrat.Proofs.RecoveryPath
import Packrat.Proofs.Refinement
import Packrat.Proofs.Spot
import Packrat.Proofs.Session.Growth
import Packrat.Proofs.Undo
import Packrat.Proofs.Accord
import Packrat.Proofs.Course
import Packrat.Proofs.Session.Coursing
import Packrat.Proofs.Session.Destined
import Packrat.Proofs.DepthGuard
import Packrat.Proofs.Grammar.Expanding
import Packrat.Proofs.Grammar.Uncut
import Packrat.Proofs.Grammar.Cycles
import Packrat.Proofs.Grammar.Derivation
import Packrat.Proofs.Grammar.Level
import Packrat.Proofs.Grammar.Levelling
import Packrat.Proofs.Grammar.FirstCut
import Packrat.Proofs.Grammar.Acceptance
import Packrat.Proofs.Grammar.Recording
import Packrat.Proofs.Session.Deriving
import Packrat.Proofs.LeftRecursion
import Packrat.Proofs.Grammar.Asked
import Packrat.Proofs.Coverage
import Packrat.Proofs.Grammar.Lockstep
import Packrat.Proofs.Grammar.Agreement
import Packrat.Proofs.Grammar.Unfolding
import Packrat.Proofs.Grammar.Consulted
import Packrat.Proofs.Grammar.Answers
import Packrat.Proofs.Grammar.Lasting
import Packrat.Proofs.Grammar.Reaching
import Packrat.Proofs.Grammar.Judging
import Packrat.Proofs.Grammar.Reported
import Packrat.Proofs.Session.Lenient
import Packrat.Proofs.Session.Foretelling
import Packrat.Proofs.Vanishing
import Packrat.Proofs.Lexing
import Packrat.Proofs.Session.Tracking
import Packrat.Proofs.Deciding
import Packrat.Proofs.Unreachable
import Packrat.Proofs.Tokenization
import Packrat.Proofs.Session.Indifference
import Packrat.Proofs.Reuse
import Packrat.Proofs.Session.Ending
import Packrat.Proofs.Session.Halting
import Packrat.Proofs.Termination
import Packrat.Proofs.Lexing.Winner
import Packrat.Proofs.Lexing.Choice
import Packrat.Proofs.Lines
import Packrat.Proofs.Lexing.Pieces
import Packrat.Proofs.Lexing.Chain
import Packrat.Proofs.Partition
import Packrat.Proofs.LineCount
import Packrat.Proofs.LineStart
import Packrat.Proofs.Session.Spelling
import Packrat.Proofs.LineBreak
import Packrat.Proofs.Session.Counting
import Packrat.Proofs.Scanning
import Packrat.Proofs.Session.Skipping
import Packrat.Proofs.Resuming
import Packrat.Proofs.Grammar.Discovery
import Packrat.Proofs.Session.Raising
import Packrat.Proofs.Session.Entering
import Packrat.Proofs.Reentry
import Packrat.Proofs.Session.Missing
import Packrat.Proofs.Session.Missed
import Packrat.Proofs.Session.Proper
import Packrat.Proofs.FurthestFailure
import Packrat.Proofs.Session.Arranging
import Packrat.Proofs.TreeRanges
import Packrat.Proofs.Naming
import Packrat.Proofs.Session.Locating
import Packrat.Proofs.ErrorSpans
import Packrat.Proofs.ErrorLines
import Packrat.Proofs.Session.Storing
import Packrat.Proofs.Storage
import Packrat.Proofs.ByteSearch
import Packrat.Proofs.EditDistance
