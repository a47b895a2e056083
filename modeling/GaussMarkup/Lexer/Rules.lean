import GaussMarkup.Lexer.Directive
import GaussMarkup.Lexer.Disabled
import GaussMarkup.Lexer.Number
import GaussMarkup.Lexer.Operator
import GaussMarkup.Lexer.StringBody
import GaussMarkup.Lexer.Word

/-!
# The rules of each mode

The first rule that finds a match decides, so the order of the rules is part of the grammar:
directives come before blanks, numbers before operators, and headers before the lists of words.
-/

namespace GaussMarkup

/-- Any character but a line feed. -/
def Rule.other : Rule :=
  one .text .stay (cutOne? (· != '\n')) (joins_cutOne? _)

/-- The rules of a mode in the order in which they are tried. -/
def Mode.rules : Mode → List Rule
  | .root =>
    [.disabledStart, .directiveStart, .newline, .blanks, .continuation,
      .lineComment, .blockComment, .atComment,
      .stringStart, .hex, .scientific, .decimal, .integer,
      .strayCommentEnd, .comparisonWord, .logicalWord,
      .comparison, .stringSign, .product, .dottedSign, .loneSign, .punctuation,
      .structHeader, .loopHeader, .functionHeader,
      .literalWord, .keywordWord, .declarationWord,
      .call, .label, .memberAccess, .name, .other]
  | .string =>
    [.stringEnd, .stringEscape, .stringText, .stringContinuation, .stringBackslash]
  | .member => [.memberLink, .memberEnd]
  | .directive =>
    [.includeFile, .directiveText, .inlineComment, .closingComment, .directiveSlash,
      .directiveContinuation, .directiveEnd]
  | .disabled => [.nestedStart, .otherBranch, .disabledEnd, .disabledLine]

end GaussMarkup
