import SymbolDocs.Callout
import SymbolDocs.CommandLine.Arguments
import SymbolDocs.CommandLine.Files
import SymbolDocs.CommandLine.Load
import SymbolDocs.CommandLine.Run
import SymbolDocs.Coverage
import SymbolDocs.Decimal.Binary64
import SymbolDocs.Decimal.Shortest
import SymbolDocs.Discussion.Fragment
import SymbolDocs.Discussion.Key
import SymbolDocs.Discussion.Node
import SymbolDocs.Json.Reader
import SymbolDocs.Json.Value
import SymbolDocs.Main
import SymbolDocs.Markdown
import SymbolDocs.Markup.Declarations
import SymbolDocs.Markup.Doctype
import SymbolDocs.Markup.Document
import SymbolDocs.Markup.Entity
import SymbolDocs.Markup.Fault
import SymbolDocs.Markup.Item
import SymbolDocs.Markup.Ledger
import SymbolDocs.Markup.Lexeme
import SymbolDocs.Markup.Name
import SymbolDocs.Markup.Namespace
import SymbolDocs.Markup.NamespaceName
import SymbolDocs.Markup.Opening
import SymbolDocs.Markup.Print
import SymbolDocs.Markup.Target
import SymbolDocs.Markup.Token
import SymbolDocs.Markup.Token.Scan
import SymbolDocs.Notice
import SymbolDocs.Proofs.Callout.Order
import SymbolDocs.Proofs.Callout.Owner
import SymbolDocs.Proofs.Callout.Run
import SymbolDocs.Proofs.CommandLine.Failures
import SymbolDocs.Proofs.CommandLine.Files
import SymbolDocs.Proofs.CommandLine.Load
import SymbolDocs.Proofs.CommandLine.Run
import SymbolDocs.Proofs.CommandLine.Verdict
import SymbolDocs.Proofs.CommandLine.Warnings
import SymbolDocs.Proofs.Decimal.Percent
import SymbolDocs.Proofs.Decimal.Rounding
import SymbolDocs.Proofs.Discussion.Blocks
import SymbolDocs.Proofs.Discussion.Callouts
import SymbolDocs.Proofs.Discussion.Described
import SymbolDocs.Proofs.Discussion.Dispatch
import SymbolDocs.Proofs.Discussion.Documents
import SymbolDocs.Proofs.Discussion.Encodings
import SymbolDocs.Proofs.Discussion.Glossed
import SymbolDocs.Proofs.Discussion.Key
import SymbolDocs.Proofs.Discussion.Runs
import SymbolDocs.Proofs.Discussion.Spaced
import SymbolDocs.Proofs.Discussion.Streaming
import SymbolDocs.Proofs.Discussion.Texts
import SymbolDocs.Proofs.Json.Limits
import SymbolDocs.Proofs.Json.Steps
import SymbolDocs.Proofs.Json.Surrogates
import SymbolDocs.Proofs.Markup.Comparing
import SymbolDocs.Proofs.Markup.Completing
import SymbolDocs.Proofs.Markup.Gaps
import SymbolDocs.Proofs.Markup.Inserting
import SymbolDocs.Proofs.Markup.Ledgers
import SymbolDocs.Proofs.Markup.Openings
import SymbolDocs.Proofs.Markup.Printing
import SymbolDocs.Proofs.Markup.Reading
import SymbolDocs.Proofs.Markup.Removing
import SymbolDocs.Proofs.Markup.Resolving
import SymbolDocs.Proofs.Markup.Scanning
import SymbolDocs.Proofs.Markup.Spacing
import SymbolDocs.Proofs.Markup.Spelling
import SymbolDocs.Proofs.Markup.Steps
import SymbolDocs.Proofs.Markup.Trees
import SymbolDocs.Proofs.Markup.Unqualified
import SymbolDocs.Proofs.Symbol.Alike
import SymbolDocs.Proofs.Symbol.Batch
import SymbolDocs.Proofs.Symbol.Comment
import SymbolDocs.Proofs.Symbol.Documented
import SymbolDocs.Proofs.Symbol.Fences
import SymbolDocs.Proofs.Symbol.Paths
import SymbolDocs.Proofs.Text.Charsets
import SymbolDocs.Proofs.Text.Utf8
import SymbolDocs.Record
import SymbolDocs.Settings
import SymbolDocs.Symbol
import SymbolDocs.Text.Blank
import SymbolDocs.Text.Charset
import SymbolDocs.Text.Charset.DoubleByte
import SymbolDocs.Text.Charset.Grid
import SymbolDocs.Text.Charset.Japanese
import SymbolDocs.Text.Charset.Korean
import SymbolDocs.Text.Charset.Page
import SymbolDocs.Text.Charset.Shifted
import SymbolDocs.Text.Charset.SimplifiedChinese
import SymbolDocs.Text.Charset.TraditionalChinese
import SymbolDocs.Text.Digit
import SymbolDocs.Text.Gaps
import SymbolDocs.Text.Lines
import SymbolDocs.Text.Pieces
import SymbolDocs.Text.Printable
import SymbolDocs.Text.Quoted
import SymbolDocs.Text.Utf8
