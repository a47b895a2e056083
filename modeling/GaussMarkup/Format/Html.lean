import GaussMarkup.Html.Escape
import GaussMarkup.Token.Basic

/-!
# Highlighted markup

The tokens of a text as a block of preformatted markup. Neighbouring lexemes of one kind are joined
to a run; a run is a `span` element with the class of its kind, and plain text stands bare.
-/

namespace GaussMarkup

/-- The classes that highlighted markup uses. -/
structure HtmlStyle where
  /-- The class of the block. -/
  blockClass : List Char := "highlight".toList
  /-- What stands in front of the class of each run. -/
  classStem : List Char := []
  deriving DecidableEq, Repr, Inhabited

/-- Lexemes with neighbours of one kind joined. -/
def mergeRuns : List Lexeme → List Lexeme
  | [] => []
  | l :: ls =>
    match mergeRuns ls with
    | [] => [l]
    | run :: runs =>
      if l.kind = run.kind then ⟨l.kind, l.text ++ run.text⟩ :: runs else l :: run :: runs

def HtmlStyle.renderRun (style : HtmlStyle) (run : Lexeme) : List Char :=
  let cssClass := run.kind.cssClass.toList
  if cssClass = [] then escapeHtml run.text
  else inSpan (escapeHtml style.classStem ++ cssClass) (escapeHtml run.text)

/-- Lexemes as a block of markup. -/
def HtmlStyle.render (style : HtmlStyle) (ls : List Lexeme) : List Char :=
  "<div class=\"".toList ++ escapeHtml style.blockClass ++ "\"><pre><span></span>".toList ++
    (mergeRuns ls).flatMap style.renderRun ++ "</pre></div>\n".toList

end GaussMarkup
