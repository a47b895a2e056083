import GaussMarkup.Text.Order

/-!
# Entries by name

A registry holds entries with distinct names in the order in which the names were first registered.
Registering a name again replaces its entry in place.
-/

namespace GaussMarkup

/-- The entries with `a` in place of the entry of the same name, or at the end. -/
def registerBy {α : Type} (nameOf : α → List Char) (a : α) : List α → List α
  | [] => [a]
  | b :: entries =>
    if nameOf b = nameOf a then a :: entries else b :: registerBy nameOf a entries

/-- The names of the entries, in order of texts. -/
def sortedNames {α : Type} (nameOf : α → List Char) (entries : List α) : List (List Char) :=
  sortTexts (entries.map nameOf)

end GaussMarkup
