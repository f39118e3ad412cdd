import SqlConsole.Text.Word
import SqlConsole.Text.Fold
import SqlConsole.Text.Blank
import SqlConsole.Text.Quoted
import SqlConsole.Number.Shortest
import SqlConsole.Number.Numeral
import SqlConsole.Number.Order
import SqlConsole.Value.Order
import SqlConsole.Value.Comparison
import SqlConsole.Catalog.Bundled
import SqlConsole.Token.Scan
import SqlConsole.Statement.Parse
import SqlConsole.Selection.Execution
import SqlConsole.Layout.Listing
import SqlConsole.Suggestion.Candidates
import SqlConsole.Shell.Loop
import SqlConsole.Http.Server
import SqlConsole.Main
import SqlConsole.Proofs.Session.Lines
import SqlConsole.Proofs.Session.Consistency
import SqlConsole.Proofs.Query.Grammar
import SqlConsole.Proofs.Query.RoundTrip
import SqlConsole.Proofs.Selection.Rows
import SqlConsole.Proofs.Value.Order
import SqlConsole.Proofs.Selection.Sorting
import SqlConsole.Proofs.Selection.Running
import SqlConsole.Proofs.Selection.Resolution
import SqlConsole.Proofs.Statement.Selection
import SqlConsole.Proofs.Catalog.Loading
import SqlConsole.Proofs.Selection.Answers
import SqlConsole.Proofs.Http.Query
import SqlConsole.Proofs.Text.Words
import SqlConsole.Proofs.Token.Numbers
import SqlConsole.Proofs.Statement.Reading
import SqlConsole.Proofs.Statement.Classification
import SqlConsole.Proofs.Token.Partition
import SqlConsole.Proofs.Selection.Search
import SqlConsole.Proofs.Session.Isolation
import SqlConsole.Proofs.Shell.Modes
import SqlConsole.Proofs.Shell.Ending
import SqlConsole.Proofs.Session.Spellings
import SqlConsole.Proofs.Catalog.Listing
import SqlConsole.Proofs.Value.Equality
import SqlConsole.Proofs.Catalog.RoundTrip
import SqlConsole.Proofs.Catalog.Validation
import SqlConsole.Proofs.Selection.Meaning
import SqlConsole.Proofs.Statement.Semicolon
import SqlConsole.Proofs.Query.Parentheses
import SqlConsole.Proofs.Value.Like
import SqlConsole.Proofs.Selection.Grouping
import SqlConsole.Proofs.Selection.Paging
import SqlConsole.Proofs.Layout.Listing
import SqlConsole.Proofs.Selection.Threshold
import SqlConsole.Proofs.Token.Quoted
import SqlConsole.Proofs.Token.Lines
import SqlConsole.Proofs.Token.Trailing
import SqlConsole.Proofs.Query.Blame
import SqlConsole.Proofs.Query.Stuck
import SqlConsole.Proofs.Statement.Refusal
import SqlConsole.Proofs.Query.Leftmost
import SqlConsole.Proofs.Selection.Named
import SqlConsole.Proofs.Suggestion.Completion
import SqlConsole.Proofs.Suggestion.Clauses
import SqlConsole.Proofs.Session.History
import SqlConsole.Proofs.Session.Failures
import SqlConsole.Proofs.Shell.Insertion
import SqlConsole.Proofs.Shell.Sizes
import SqlConsole.Proofs.Http.Bodies
