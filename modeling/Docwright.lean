import Docwright.Text.Word
import Docwright.Text.Printable
import Docwright.Text.Identifier
import Docwright.Text.Blank
import Docwright.Text.Cells
import Docwright.Text.Normal
import Docwright.Sorting
import Docwright.Source.Number
import Docwright.Source.Token
import Docwright.Source.Tree
import Docwright.Source.Lexer
import Docwright.Source.Literal
import Docwright.Source.Pattern
import Docwright.Source.Grammar.Mistakes
import Docwright.Source.Grammar.Statements
import Docwright.Source.Parser
import Docwright.Number.Decimal
import Docwright.Text.Quoted
import Docwright.Severity
import Docwright.Message
import Docwright.Json.Printer
import Docwright.Json.Reader
import Docwright.Time.Reader
import Docwright.Record
import Docwright.Log
import Docwright.Check
import Docwright.Failure
import Docwright.Build.Report
import Docwright.Console.Screen
import Docwright.Console.Line
import Docwright.Event
import Docwright.Exchange
import Docwright.Digest.Md5
import Docwright.Text.Utf8
import Docwright.Path
import Docwright.Cache.Row
import Docwright.Disk
import Docwright.Discovery
import Docwright.Cache
import Docwright.Build
import Docwright.Text.Digit
import Docwright.CommandLine
import Docwright.Main
import Docwright.Proofs.Acts
import Docwright.Proofs.Exchange.Trace
import Docwright.Proofs.Build.Settling
import Docwright.Proofs.Cache.Faithful
import Docwright.Proofs.Build.Run
import Docwright.Proofs.Build.Judgement
import Docwright.Proofs.Build.Calm
import Docwright.Proofs.Build.History
import Docwright.Proofs.Build.Incremental
import Docwright.Proofs.Disk.Extension
import Docwright.Proofs.Disk.Following
import Docwright.Proofs.Disk.Opening
import Docwright.Proofs.Cache.Transaction
import Docwright.Proofs.Cache.Sight
import Docwright.Proofs.Cache.Atomicity
import Docwright.Proofs.Number.Digits
import Docwright.Proofs.Number.Rounding
import Docwright.Proofs.Number.Shortest
import Docwright.Proofs.Json.Strings
import Docwright.Proofs.Json.Numbers
import Docwright.Proofs.Json.Lists
import Docwright.Proofs.Cache.Rows
import Docwright.Proofs.Cache.Records
import Docwright.Proofs.Cache.Refinement
import Docwright.Proofs.Build.Hits
import Docwright.Proofs.Build.Current
import Docwright.Proofs.CommandLine.Screens
import Docwright.Proofs.Cache.Glimpse
import Docwright.Proofs.Build.Repetition
import Docwright.Proofs.Disk.Making
import Docwright.Proofs.Disk.Files
import Docwright.Proofs.CommandLine.Delivery
import Docwright.Proofs.Check.Texts
import Docwright.Proofs.CommandLine.Repetition
import Docwright.Proofs.Build.Exactness
import Docwright.Proofs.CommandLine.Exactness
import Docwright.Proofs.Build.Conservation
import Docwright.Proofs.Message.Filling
import Docwright.Proofs.Console.Shown
import Docwright.Proofs.Exchange.Printing
import Docwright.Proofs.Build.Display
import Docwright.Proofs.Build.Thresholds
import Docwright.Proofs.CommandLine.Thresholds
import Docwright.Proofs.Cache.Clients
import Docwright.Proofs.Cache.TornReads
import Docwright.Proofs.Build.Failing
import Docwright.Proofs.Build.Endings
import Docwright.Proofs.Build.Listeners
import Docwright.Proofs.Build.Commitment
import Docwright.Proofs.Build.Order
import Docwright.Proofs.Exchange.Journal
import Docwright.Proofs.Exchange.Dispatch
import Docwright.Proofs.Exchange.Reentrancy
import Docwright.Proofs.Exchange.Chorus
import Docwright.Proofs.Disk.Rewriting
import Docwright.Proofs.Build.Contents
import Docwright.Proofs.Cache.Emptying
import Docwright.Proofs.Cache.Reliability
import Docwright.Proofs.Check.Attested
import Docwright.Proofs.CommandLine.Rebuilding
import Docwright.Proofs.CommandLine.Summaries
import Docwright.Proofs.CommandLine.ExitCodes
import Docwright.Proofs.Cache.Failures
import Docwright.Proofs.CommandLine.CacheFailures
import Docwright.Proofs.Cache.RoundTrip
import Docwright.Proofs.Check.Sites
import Docwright.Proofs.Check.Reference
import Docwright.Proofs.Check.Coverage
import Docwright.Proofs.Check.Arguments
import Docwright.Proofs.Console.Verbatim
import Docwright.Proofs.CommandLine.Wording
import Docwright.Proofs.Message.Scanning
import Docwright.Proofs.Message.Substitution
import Docwright.Proofs.Message.Members
import Docwright.Proofs.Message.Reach
import Docwright.Proofs.Sorting
import Docwright.Proofs.Disk.Names
import Docwright.Proofs.Disk.Discovery
import Docwright.Proofs.Exchange.Calls
import Docwright.Proofs.Exchange.Containment
import Docwright.Proofs.Exchange.Connections
import Docwright.Proofs.Cache.Integrity
import Docwright.Proofs.Source.Tokens
import Docwright.Proofs.Source.Matching
import Docwright.Proofs.Source.Gathering
import Docwright.Proofs.Source.Layout
import Docwright.Proofs.Check.Order
