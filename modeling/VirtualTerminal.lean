import VirtualTerminal.Main
import VirtualTerminal.Timer.Script
import VirtualTerminal.Transcript.Operation
import VirtualTerminal.Proofs.Pattern.Cut
import VirtualTerminal.Proofs.Chain.Segmentation
import VirtualTerminal.Proofs.Chain.Expression
import VirtualTerminal.Proofs.Timer.Queue
import VirtualTerminal.Proofs.Timer.History
import VirtualTerminal.Proofs.Timer.Runs
import VirtualTerminal.Proofs.Animation.Settled
import VirtualTerminal.Proofs.Timer.Advance
import VirtualTerminal.Proofs.Animation.Advance
import VirtualTerminal.Proofs.Animation.Plan
import VirtualTerminal.Proofs.Session.Reachable
import VirtualTerminal.Proofs.Session.Ticks
import VirtualTerminal.Proofs.Command.Lookup
import VirtualTerminal.Proofs.Text.Lowercase
import VirtualTerminal.Proofs.Command.Category
import VirtualTerminal.Proofs.Command.Listing
import VirtualTerminal.Proofs.Path
import VirtualTerminal.Proofs.FileTree
import VirtualTerminal.Proofs.Token
import VirtualTerminal.Proofs.Invocation.Parse
import VirtualTerminal.Proofs.Pipe
import VirtualTerminal.Proofs.Animation.Ledger
import VirtualTerminal.Proofs.Animation.Orderly
import VirtualTerminal.Proofs.Animation.Drawing
import VirtualTerminal.Proofs.Executor.Segments
import VirtualTerminal.Proofs.Session.Submit
import VirtualTerminal.Proofs.Animation.Repaint
import VirtualTerminal.Proofs.Session.Repaint
import VirtualTerminal.Proofs.Session.Deadline
import VirtualTerminal.Proofs.Session.WorkingDirectory
import VirtualTerminal.Proofs.Token.Runs
import VirtualTerminal.Proofs.Command.Unprompted
import VirtualTerminal.Proofs.Host
import VirtualTerminal.Proofs.Animation.Alike
import VirtualTerminal.Proofs.Session.Reset
import VirtualTerminal.Proofs.Invocation.Within
import VirtualTerminal.Proofs.Chain.Rejoin
import VirtualTerminal.Proofs.Path.Resolve
import VirtualTerminal.Proofs.Command.Replacement
import VirtualTerminal.Proofs.Pattern.Exact
import VirtualTerminal.Proofs.Shell.Aliases
import VirtualTerminal.Proofs.Path.Display
import VirtualTerminal.Proofs.FileTree.Listing
import VirtualTerminal.Proofs.Session.Prompt
import VirtualTerminal.Proofs.FileTree.Creation
import VirtualTerminal.Proofs.FileTree.Removal
import VirtualTerminal.Proofs.FileTree.Failure
import VirtualTerminal.Proofs.FileTree.Preorder
import VirtualTerminal.Proofs.Builtin.Remove
import VirtualTerminal.Proofs.Builtin.Tree
import VirtualTerminal.Proofs.Animation.Frames
import VirtualTerminal.Proofs.Transcript
import VirtualTerminal.Proofs.Completion
import VirtualTerminal.Proofs.Completion.Listing
import VirtualTerminal.Proofs.Animation.Registers
import VirtualTerminal.Proofs.Animation.Moves
import VirtualTerminal.Proofs.Animation.Failure
import VirtualTerminal.Proofs.Session.FailedStart
import VirtualTerminal.Proofs.Line.Json
import VirtualTerminal.Proofs.Text.Search
import VirtualTerminal.Proofs.Builtin.Grep
import VirtualTerminal.Proofs.Token.LeftOut
import VirtualTerminal.Proofs.Shell.Replay
import VirtualTerminal.Proofs.Session.Replay
import VirtualTerminal.Proofs.Path.Dotless
import VirtualTerminal.Proofs.FileTree.Dotless
import VirtualTerminal.Proofs.Session.CompletedPath
import VirtualTerminal.Proofs.Token.Spelling
import VirtualTerminal.Proofs.Shell.History
import VirtualTerminal.Proofs.Builtin.Base64
import VirtualTerminal.Proofs.Line.Ansi
import VirtualTerminal.Proofs.Quote.Enclosed
