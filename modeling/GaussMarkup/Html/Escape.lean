/-!
# Text in markup

The five characters that markup gives a meaning are written as entities, in content and in attribute
values alike; every other character stands for itself.
-/

namespace GaussMarkup

def escapeChar (c : Char) : List Char :=
  if c = '&' then "&amp;".toList
  else if c = '<' then "&lt;".toList
  else if c = '>' then "&gt;".toList
  else if c = '"' then "&quot;".toList
  else if c = '\'' then "&#39;".toList
  else [c]

def escapeHtml (s : List Char) : List Char :=
  s.flatMap escapeChar

@[simp] theorem escapeHtml_nil : escapeHtml [] = [] := rfl

@[simp] theorem escapeHtml_cons (c : Char) (s : List Char) :
    escapeHtml (c :: s) = escapeChar c ++ escapeHtml s := rfl

/-- An opening `span` tag with a class; the class is written as it is. -/
def spanTag (cssClass : List Char) : List Char :=
  "<span class=\"".toList ++ cssClass ++ "\">".toList

/-- Markup inside a `span` element with a class. -/
def inSpan (cssClass content : List Char) : List Char :=
  spanTag cssClass ++ content ++ "</span>".toList

end GaussMarkup
