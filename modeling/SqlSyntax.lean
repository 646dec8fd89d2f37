import SqlSyntax.Text.Alphabetic
import SqlSyntax.Text.Numeric
import SqlSyntax.Text.Printable
import SqlSyntax.Text.Line
import SqlSyntax.Text.Bytes
import SqlSyntax.Number.Reading
import SqlSyntax.Number.Text
import SqlSyntax.Token.Lexer
import SqlSyntax.Tree.Basic
import SqlSyntax.Tree.Query
import SqlSyntax.Outline.Tree
import SqlSyntax.Parser.Basic
import SqlSyntax.Parser.Statement
import SqlSyntax.Main
import SqlSyntax.Proofs.Printing.RoundTrip
import SqlSyntax.Proofs.Acceptance
import SqlSyntax.Proofs.WellFormed.Session
import SqlSyntax.Proofs.CorrectPrefix
import SqlSyntax.Proofs.Names.Basic
import SqlSyntax.Proofs.Names.Phrase
import SqlSyntax.Proofs.Names.Tokens
import SqlSyntax.Proofs.Nesting
import SqlSyntax.Proofs.Calls.Basic
import SqlSyntax.Proofs.Calls.Fresh
import SqlSyntax.Proofs.Calls.Sequence
import SqlSyntax.Proofs.SameKinds
import SqlSyntax.Proofs.Alike.Outlast
import SqlSyntax.Proofs.DepthLimit
import SqlSyntax.Proofs.LaxJoins
import SqlSyntax.Proofs.Depth.Basic
import SqlSyntax.Proofs.Depth.Phrase
import SqlSyntax.Proofs.Depth.Session
import SqlSyntax.Proofs.Brackets.Session
import SqlSyntax.Proofs.Chains
import SqlSyntax.Proofs.Subqueries
import SqlSyntax.Proofs.Tables.Session
import SqlSyntax.Proofs.Lexing.Gap
import SqlSyntax.Proofs.Lexing.Scan
import SqlSyntax.Proofs.Lexing.Tiling
import SqlSyntax.Proofs.Layout
import SqlSyntax.Proofs.Lexing.Cut
import SqlSyntax.Proofs.Lexing.Bytewise
import SqlSyntax.Proofs.Lexing.Slices
import SqlSyntax.Proofs.Lexing.Progress
import SqlSyntax.Proofs.Blame.Source
import SqlSyntax.Proofs.Corpus.Lines
import SqlSyntax.Proofs.Corpus.Report
import SqlSyntax.Proofs.Corpus.Trimmed
import SqlSyntax.Proofs.Lexing.Strings
import SqlSyntax.Proofs.Lexing.Numbers
import SqlSyntax.Proofs.Signs.Source
import SqlSyntax.Proofs.Columns.Definition
import SqlSyntax.Proofs.Columns.Source
import SqlSyntax.Proofs.Course.Session
