import GaussMarkup.Command.Arguments
import GaussMarkup.Command.Files
import GaussMarkup.Command.Request
import GaussMarkup.Command.Run
import GaussMarkup.Decimal.Binary
import GaussMarkup.Decimal.Shortest
import GaussMarkup.Format.Html
import GaussMarkup.Format.Json
import GaussMarkup.Format.Raw
import GaussMarkup.Format.Registry
import GaussMarkup.Html.Escape
import GaussMarkup.Language.Basic
import GaussMarkup.Language.FileName
import GaussMarkup.Language.Glob
import GaussMarkup.Language.Registry
import GaussMarkup.Lexer.Comment
import GaussMarkup.Lexer.Cut
import GaussMarkup.Lexer.Directive
import GaussMarkup.Lexer.Disabled
import GaussMarkup.Lexer.Guard
import GaussMarkup.Lexer.Mode
import GaussMarkup.Lexer.Number
import GaussMarkup.Lexer.Operator
import GaussMarkup.Lexer.Rule
import GaussMarkup.Lexer.Rules
import GaussMarkup.Lexer.Step
import GaussMarkup.Lexer.StringBody
import GaussMarkup.Lexer.Word
import GaussMarkup.Lexicon.Alternation
import GaussMarkup.Lexicon.Basic
import GaussMarkup.Lexicon.Words
import GaussMarkup.Main
import GaussMarkup.Proofs.Decimal.Binary
import GaussMarkup.Proofs.Format.Dumps
import GaussMarkup.Proofs.Format.Highlighting
import GaussMarkup.Proofs.Format.Runs
import GaussMarkup.Proofs.Html.Elements
import GaussMarkup.Proofs.Html.Reading
import GaussMarkup.Proofs.Language.Glob
import GaussMarkup.Proofs.Language.Guess
import GaussMarkup.Proofs.Language.Lookup
import GaussMarkup.Proofs.Language.Registry
import GaussMarkup.Proofs.Lexer.CaseScanning
import GaussMarkup.Proofs.Lexer.CommentExtent
import GaussMarkup.Proofs.Lexer.Coverage
import GaussMarkup.Proofs.Lexer.CutOffRules
import GaussMarkup.Proofs.Lexer.CutOffRuns
import GaussMarkup.Proofs.Lexer.CutOffScanning
import GaussMarkup.Proofs.Lexer.DirectiveEnd
import GaussMarkup.Proofs.Lexer.DirectiveStart
import GaussMarkup.Proofs.Lexer.DisabledBlock
import GaussMarkup.Proofs.Lexer.FunctionHeader
import GaussMarkup.Proofs.Lexer.IncludeExtent
import GaussMarkup.Proofs.Lexer.Label
import GaussMarkup.Proofs.Lexer.LetterCase
import GaussMarkup.Proofs.Lexer.LineEffect
import GaussMarkup.Proofs.Lexer.Matches
import GaussMarkup.Proofs.Lexer.MemberChain
import GaussMarkup.Proofs.Lexer.NumberExtent
import GaussMarkup.Proofs.Lexer.PlainName
import GaussMarkup.Proofs.Lexer.Progress
import GaussMarkup.Proofs.Lexer.Restart
import GaussMarkup.Proofs.Lexer.RootRules
import GaussMarkup.Proofs.Lexer.Run
import GaussMarkup.Proofs.Lexer.Scanning
import GaussMarkup.Proofs.Lexer.SignedHex
import GaussMarkup.Proofs.Lexer.Stacks
import GaussMarkup.Proofs.Lexer.Stream
import GaussMarkup.Proofs.Lexer.StringExtent
import GaussMarkup.Proofs.Lexer.WordKind
import GaussMarkup.Proofs.Lexicon.Alternation
import GaussMarkup.Proofs.Role.Inline
import GaussMarkup.Proofs.Role.Markers
import GaussMarkup.Proofs.Role.MenuSelection
import GaussMarkup.Proofs.Settings.Keys
import GaussMarkup.Proofs.Settings.Layering
import GaussMarkup.Proofs.Settings.Tree
import GaussMarkup.Proofs.Signature.Brackets
import GaussMarkup.Proofs.Signature.ListEvents
import GaussMarkup.Proofs.Signature.PlainText
import GaussMarkup.Proofs.Signature.Reading
import GaussMarkup.Proofs.Signature.RoundTrip
import GaussMarkup.Proofs.Signature.Separators
import GaussMarkup.Proofs.Signature.Unbalanced
import GaussMarkup.Proofs.Source.Prepare
import GaussMarkup.Proofs.Source.Tabs
import GaussMarkup.Proofs.Text.CharClass
import GaussMarkup.Proofs.Text.Escapes
import GaussMarkup.Proofs.Text.LetterCase
import GaussMarkup.Proofs.Text.Lines
import GaussMarkup.Proofs.Text.Lowercase
import GaussMarkup.Proofs.Text.Order
import GaussMarkup.Proofs.Text.Prefixes
import GaussMarkup.Proofs.Text.SelfDelimiting
import GaussMarkup.Proofs.Text.Trim
import GaussMarkup.Registry.Ordered
import GaussMarkup.Role.Basic
import GaussMarkup.Role.Inline
import GaussMarkup.Role.MenuSelection
import GaussMarkup.Role.Registry
import GaussMarkup.Settings.Basic
import GaussMarkup.Settings.Decode
import GaussMarkup.Settings.KeyPath
import GaussMarkup.Settings.Loader
import GaussMarkup.Settings.Tree
import GaussMarkup.Signature.Basic
import GaussMarkup.Signature.Html
import GaussMarkup.Signature.Parse
import GaussMarkup.Source.Evidence
import GaussMarkup.Source.Prepare
import GaussMarkup.Text.Age
import GaussMarkup.Text.Alphabetic
import GaussMarkup.Text.Cased
import GaussMarkup.Text.CharClass
import GaussMarkup.Text.CodeRanges
import GaussMarkup.Text.Fold
import GaussMarkup.Text.Lowercase
import GaussMarkup.Text.LowercaseRuns
import GaussMarkup.Text.Mark
import GaussMarkup.Text.Numeral
import GaussMarkup.Text.Order
import GaussMarkup.Text.Quoted
import GaussMarkup.Text.Replace
import GaussMarkup.Text.Trim
import GaussMarkup.Text.Unprintable
import GaussMarkup.Text.Utf8
import GaussMarkup.Token.Basic
import GaussMarkup.Token.Kind
import GaussMarkup.Toml.Basic
import GaussMarkup.Toml.DateTime
import GaussMarkup.Toml.Document
import GaussMarkup.Toml.Scalar
import GaussMarkup.Toml.Tagged
import GaussMarkup.Toml.Text
import GaussMarkup.Proofs.Language.FileName
import GaussMarkup.Proofs.Lexicon.WholeWords
