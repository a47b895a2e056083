import GaussMarkup.Html.Escape
import GaussMarkup.Signature.Basic

/-!
# Signatures as markup

A signature is printed fragment by fragment while its lists are walked. While an element outside all
groups is still to come, the separator follows each element; once none is, it stands in front. So
`f([a, ]b, c[, d])` has its commas inside the brackets on both sides.

What a walk has to remember lies in a `ListContext`, one for each list.
-/

namespace GaussMarkup

/-- A piece of printed markup. -/
abbrev Fragment := List Char

/-- What is known while a list is walked. -/
structure ListContext where
  /-- No element was printed yet. -/
  first : Bool := true
  /-- How many groups are open. -/
  depth : Nat := 0
  /-- How many elements outside all groups are still to come. -/
  requiredLeft : Nat
  /-- The list has more than one item. -/
  several : Bool
  separator : List Char
  deriving DecidableEq, Repr, Inhabited

namespace ListContext

def ofList (list : ItemList) : ListContext where
  requiredLeft := list.requiredCount
  several := 1 < list.items.length
  separator := list.separator

/-- In front of a list of returned values: a brace if there are several. -/
def openReturns (ctx : ListContext) : List Fragment :=
  if ctx.several then ["<span class=\"sig-curly\">\x7b</span>&nbsp;".toList] else []

/-- Behind a list of returned values: the brace and an equals sign. -/
def closeReturns (ctx : ListContext) : List Fragment :=
  (if ctx.several then ["&nbsp;<span class=\"sig-curly\">\x7d</span>".toList] else []) ++
    ["&nbsp;<span class=\"sig-equals\">=</span>&nbsp;".toList]

def openParameters : List Fragment :=
  [inSpan "sig-paren".toList ['(']]

def closeParameters : List Fragment :=
  [inSpan "sig-paren".toList [')']]

/-- In front of the text of an element. -/
def enterElement (ctx : ListContext) (e : Element) : List Fragment × ListContext :=
  ((if !ctx.first && ctx.requiredLeft == 0 then [ctx.separator] else []) ++
      (if e.plain then [] else ["<em>".toList]),
    { ctx with
      first := false
      requiredLeft := if ctx.depth = 0 then ctx.requiredLeft - 1 else ctx.requiredLeft })

def leaveElement (ctx : ListContext) (e : Element) : List Fragment :=
  (if e.plain then [] else ["</em>".toList]) ++
    (if 0 < ctx.requiredLeft then [ctx.separator] else [])

def enterGroup (ctx : ListContext) : List Fragment × ListContext :=
  ([inSpan "optional".toList ['[']], { ctx with depth := ctx.depth + 1 })

def leaveGroup (ctx : ListContext) : List Fragment × ListContext :=
  ([inSpan "optional".toList [']']], { ctx with depth := ctx.depth - 1 })

mutual

/-- The fragments of an item. -/
def walkItem (ctx : ListContext) : Item → List Fragment × ListContext
  | .element e =>
    let entered := ctx.enterElement e
    (entered.1 ++ escapeHtml e.text :: entered.2.leaveElement e, entered.2)
  | .optional items =>
    let entered := ctx.enterGroup
    let walked := walkItems entered.2 items
    let left := walked.2.leaveGroup
    (entered.1 ++ walked.1 ++ left.1, left.2)

/-- The fragments of items, one after the other. -/
def walkItems (ctx : ListContext) : List Item → List Fragment × ListContext
  | [] => ([], ctx)
  | item :: items =>
    let walked := walkItem ctx item
    let later := walkItems walked.2 items
    (walked.1 ++ later.1, later.2)

end

end ListContext

def walkReturns (list : ItemList) : List Fragment :=
  let ctx := ListContext.ofList list
  let walked := ctx.walkItems list.items
  ctx.openReturns ++ walked.1 ++ walked.2.closeReturns

def walkParameters (list : ItemList) : List Fragment :=
  ListContext.openParameters ++ ((ListContext.ofList list).walkItems list.items).1 ++
    ListContext.closeParameters

def nameFragment (name : List Char) : Fragment :=
  "<code class=\"sig-name descname\">".toList ++ escapeHtml name ++ "</code>".toList

namespace Signature

def fragments (s : Signature) : List Fragment :=
  (s.returns.map walkReturns).getD [] ++ [nameFragment s.name] ++
    (s.parameters.map walkParameters).getD []

def render (s : Signature) : List Char :=
  s.fragments.flatten

end Signature

end GaussMarkup
