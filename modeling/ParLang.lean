import ParLang.Builtin
import ParLang.CommandLine
import ParLang.Diagnostic
import ParLang.Execution.Arrays
import ParLang.Execution.Builtins
import ParLang.Execution.Error
import ParLang.Execution.Evaluator
import ParLang.Execution.Interpreter
import ParLang.Execution.Operations
import ParLang.Execution.Process
import ParLang.Execution.Scheduler
import ParLang.Execution.Task
import ParLang.Execution.Turn
import ParLang.Main
import ParLang.Number.Binary
import ParLang.Number.Reading
import ParLang.Number.Shortest
import ParLang.Number.Whole
import ParLang.Pattern.Automaton
import ParLang.Pattern.Basic
import ParLang.Pattern.Engine
import ParLang.Pattern.Footprint
import ParLang.Pattern.Parser
import ParLang.Pattern.Split
import ParLang.Program.Basic
import ParLang.Program.Parser
import ParLang.Program.Printer
import ParLang.Program.RoundTrip
import ParLang.Program.SyntaxError
import ParLang.Proofs.Channels.Agreement
import ParLang.Proofs.Channels.Interpreter
import ParLang.Proofs.Channels.Logged
import ParLang.Proofs.Channels.Matches
import ParLang.Proofs.Channels.Places
import ParLang.Proofs.Execution.Built
import ParLang.Proofs.Execution.Conclusion
import ParLang.Proofs.Execution.Confined
import ParLang.Proofs.Execution.Discipline
import ParLang.Proofs.Execution.Ending
import ParLang.Proofs.Execution.Fragment
import ParLang.Proofs.Execution.InStep
import ParLang.Proofs.Execution.Indexing
import ParLang.Proofs.Execution.Lengths
import ParLang.Proofs.Execution.Oblivious
import ParLang.Proofs.Execution.Protocol
import ParLang.Proofs.Execution.Recast
import ParLang.Proofs.Execution.Relined
import ParLang.Proofs.Execution.Rooted
import ParLang.Proofs.Execution.Runs
import ParLang.Proofs.Execution.Schedule
import ParLang.Proofs.Execution.Wrapped
import ParLang.Proofs.Grammar.Basic
import ParLang.Proofs.Grammar.Complaints
import ParLang.Proofs.Grammar.Complete
import ParLang.Proofs.Grammar.Exact
import ParLang.Proofs.Grammar.Lines
import ParLang.Proofs.Grammar.Lookahead
import ParLang.Proofs.Grammar.Prefixes
import ParLang.Proofs.Grammar.Reader
import ParLang.Proofs.Grammar.Sound
import ParLang.Proofs.Grammar.Stops
import ParLang.Proofs.Jumps.Checked
import ParLang.Proofs.Jumps.Return
import ParLang.Proofs.Network.Accounts
import ParLang.Proofs.Network.Exchanges
import ParLang.Proofs.Network.Lines
import ParLang.Proofs.Network.Paired
import ParLang.Proofs.Network.Spared
import ParLang.Proofs.Network.Turns
import ParLang.Proofs.Number.Bits
import ParLang.Proofs.Number.Decimal
import ParLang.Proofs.Number.Rounding
import ParLang.Proofs.Number.Shortest
import ParLang.Proofs.Number.Slots
import ParLang.Proofs.Number.Text
import ParLang.Proofs.Output.Finishes
import ParLang.Proofs.Output.Full
import ParLang.Proofs.Output.Interpreter
import ParLang.Proofs.Output.Room
import ParLang.Proofs.Parallel.Alone
import ParLang.Proofs.Parallel.Independent
import ParLang.Proofs.Parallel.Lockstep
import ParLang.Proofs.Parallel.Schedules
import ParLang.Proofs.Parallel.Worlds
import ParLang.Proofs.Pattern.Matches
import ParLang.Proofs.Pattern.Splitting
import ParLang.Proofs.Printing.Expressions
import ParLang.Proofs.Printing.Formatted
import ParLang.Proofs.Printing.Parentheses
import ParLang.Proofs.Printing.RoundTrip
import ParLang.Proofs.Printing.Statements
import ParLang.Proofs.Printing.Writes
import ParLang.Proofs.Program.AsWritten
import ParLang.Proofs.Program.Complaints
import ParLang.Proofs.Program.Diagnostics
import ParLang.Proofs.Program.Joined
import ParLang.Proofs.Program.Lines
import ParLang.Proofs.Program.Refusals
import ParLang.Proofs.Program.Relined
import ParLang.Proofs.Resolution.Agreement
import ParLang.Proofs.Resolution.Calls
import ParLang.Proofs.Resolution.Defined
import ParLang.Proofs.Resolution.Follows
import ParLang.Proofs.Resolution.Interpreter
import ParLang.Proofs.Resolution.Invariant
import ParLang.Proofs.Resolution.Lexical
import ParLang.Proofs.Resolution.Scoping
import ParLang.Proofs.Resolution.Traced
import ParLang.Proofs.Scope.Labels
import ParLang.Proofs.Scope.Names
import ParLang.Proofs.Scope.Nesting
import ParLang.Proofs.Scope.Raised
import ParLang.Proofs.Scope.Stack
import ParLang.Proofs.Soundness.Evaluation
import ParLang.Proofs.Soundness.Exact
import ParLang.Proofs.Soundness.Expressions
import ParLang.Proofs.Soundness.Interpreter
import ParLang.Proofs.Soundness.Invariant
import ParLang.Proofs.Soundness.Mismatch
import ParLang.Proofs.Soundness.Operations
import ParLang.Proofs.Soundness.Secure
import ParLang.Proofs.Soundness.Sound
import ParLang.Proofs.Soundness.Store
import ParLang.Proofs.Source.Lines
import ParLang.Proofs.Token.Joined
import ParLang.Proofs.Token.Lossless
import ParLang.Proofs.Token.Places
import ParLang.Proofs.Token.Progress
import ParLang.Proofs.Token.Rendering
import ParLang.Proofs.Token.Scanning
import ParLang.Proofs.Token.Trivia
import ParLang.Proofs.Typing.Accepted
import ParLang.Proofs.Typing.Check
import ParLang.Proofs.Typing.Fragment
import ParLang.Proofs.Typing.Frame
import ParLang.Proofs.Typing.Inversion
import ParLang.Proofs.Typing.Relined
import ParLang.Proofs.Typing.Rules
import ParLang.Proofs.Typing.Tables
import ParLang.Proofs.Value.Comparison
import ParLang.Proofs.Value.Equality
import ParLang.Proofs.Value.Heap
import ParLang.Scope.NameMap
import ParLang.Scope.Stack
import ParLang.Session
import ParLang.Source.Span
import ParLang.Text.Blank
import ParLang.Text.CaseFold
import ParLang.Text.CharSet
import ParLang.Text.Encoded
import ParLang.Text.Letter
import ParLang.Text.Numeral
import ParLang.Text.Property
import ParLang.Text.Property.Age
import ParLang.Text.Property.Basic
import ParLang.Text.Property.Binary
import ParLang.Text.Property.Break
import ParLang.Text.Property.Category
import ParLang.Text.Property.Script
import ParLang.Text.Range
import ParLang.Token.Basic
import ParLang.Token.Lexer
import ParLang.Typing.Basic
import ParLang.Typing.Checker
import ParLang.Typing.Error
import ParLang.Typing.Expression
import ParLang.Value.Basic
import ParLang.Value.Heap
import ParLang.World.Basic
import ParLang.World.Network
import ParLang.World.Stream
