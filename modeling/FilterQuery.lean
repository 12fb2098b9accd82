import FilterQuery.Config.Basic
import FilterQuery.Config.File
import FilterQuery.Config.Reader
import FilterQuery.Context
import FilterQuery.Dump
import FilterQuery.Expr.Basic
import FilterQuery.Expr.Printer
import FilterQuery.Json.Basic
import FilterQuery.Json.Error
import FilterQuery.Json.Reader
import FilterQuery.Json.Reader.Number
import FilterQuery.Json.Reader.String
import FilterQuery.Json.Reader.Value
import FilterQuery.Lexer
import FilterQuery.Main
import FilterQuery.Numeral.Double
import FilterQuery.Numeral.Reading
import FilterQuery.Numeral.Shortest
import FilterQuery.Operator
import FilterQuery.ParseError
import FilterQuery.Parser.Basic
import FilterQuery.Parser.State
import FilterQuery.Parser.Step
import FilterQuery.Prompt.Command
import FilterQuery.Prompt.Line
import FilterQuery.Prompt.Session
import FilterQuery.Proofs.Expr.Parts
import FilterQuery.Proofs.Expr.Printing
import FilterQuery.Proofs.Expr.WellFormed
import FilterQuery.Proofs.Grammar.Basic
import FilterQuery.Proofs.Grammar.Shape
import FilterQuery.Proofs.Grammar.Spelled
import FilterQuery.Proofs.Grammar.Unambiguous
import FilterQuery.Proofs.Lexer.Lexemes
import FilterQuery.Proofs.Lexer.Spelling
import FilterQuery.Proofs.Lexer.Tokens
import FilterQuery.Proofs.Numeral.Plain
import FilterQuery.Proofs.Numeral.RoundTrip
import FilterQuery.Proofs.Numeral.Rounding
import FilterQuery.Proofs.Parser.Acceptance
import FilterQuery.Proofs.Parser.Advance
import FilterQuery.Proofs.Parser.Completeness
import FilterQuery.Proofs.Parser.Constructs
import FilterQuery.Proofs.Parser.Outcome
import FilterQuery.Proofs.Parser.Soundness
import FilterQuery.Proofs.Restriction
import FilterQuery.Proofs.RoundTrip
import FilterQuery.Query
import FilterQuery.Sql.Lowering
import FilterQuery.Sql.Predicate
import FilterQuery.Sql.Text
import FilterQuery.Text.Blank
import FilterQuery.Text.Cluster
import FilterQuery.Text.ClusterBreak
import FilterQuery.Text.Quoted
import FilterQuery.Text.Ranges
import FilterQuery.Text.Size
import FilterQuery.Text.Visible
import FilterQuery.Token
import FilterQuery.Proofs.Lexer.Spans
import FilterQuery.Proofs.Parser.Failure
import FilterQuery.Proofs.Viability
import FilterQuery.Proofs.FirstViolation
import FilterQuery.Proofs.Sql.Lowering
import FilterQuery.Proofs.Sql.Truth
import FilterQuery.Proofs.Sql.Meaning
import FilterQuery.Proofs.Sql.Grammar
import FilterQuery.Proofs.Sql.Unambiguous
import FilterQuery.Proofs.Sql.Lexing
import FilterQuery.Proofs.Sql.Grouping
import FilterQuery.Proofs.Resolution
import FilterQuery.Proofs.Composition
import FilterQuery.Proofs.CanonicalTokens
import FilterQuery.Proofs.Lexer.LongestMatch
import FilterQuery.Proofs.Parser.Depth
import FilterQuery.Proofs.Parser.Calls
import FilterQuery.Proofs.Height
import FilterQuery.Proofs.Sql.Contents
import FilterQuery.Proofs.Sql.Isolation
import FilterQuery.Proofs.ErrorSpan
import FilterQuery.Proofs.Parser.Places
import FilterQuery.Proofs.Layout
import FilterQuery.Proofs.Sql.Pattern
import FilterQuery.Proofs.Sql.Defects
import FilterQuery.Proofs.Sql.Numbers
import FilterQuery.Proofs.Consultation
import FilterQuery.Proofs.Unfiltered
import FilterQuery.Proofs.Lexer.Quoting
import FilterQuery.Proofs.Parser.MissingEnd
import FilterQuery.Proofs.Parser.Agreement
import FilterQuery.Proofs.Prompt.Bindings
import FilterQuery.Proofs.Lexer.Calls
import FilterQuery.Proofs.Lexer.Cursor
import FilterQuery.Proofs.Lexer.Boundaries
