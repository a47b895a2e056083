import GaussMarkup.Html.Escape

/-!
# Inline nodes

What a role produces: texts, and spans with classes around further nodes.
-/

namespace GaussMarkup

/-- A text, or a span with classes. -/
inductive Inline
  | text (s : List Char)
  /-- The source that a span came from is kept where it is known. -/
  | span (rawText : Option (List Char)) (classes : List (List Char)) (children : List Inline)
  deriving Repr, Inhabited

/-- The opening tag of a span; one without classes is bare. -/
def openingTag (classes : List (List Char)) : List Char :=
  if classes = [] then "<span>".toList
  else spanTag (escapeHtml (List.intercalate [' '] classes))

namespace Inline

mutual

/-- The text of a node without its spans. -/
def plainText : Inline → List Char
  | .text s => s
  | .span _ _ children => plainTexts children

/-- The text of nodes, one after the other. -/
def plainTexts : List Inline → List Char
  | [] => []
  | node :: nodes => plainText node ++ plainTexts nodes

end

mutual

def render : Inline → List Char
  | .text s => escapeHtml s
  | .span _ classes children => openingTag classes ++ renderAll children ++ "</span>".toList

def renderAll : List Inline → List Char
  | [] => []
  | node :: nodes => render node ++ renderAll nodes

end

end Inline

end GaussMarkup
