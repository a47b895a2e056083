import GaussMarkup.Format.Html
import GaussMarkup.Role.Basic
import GaussMarkup.Signature.Basic
import GaussMarkup.Source.Prepare

/-!
# Settings

What can be set: how sources are prepared, how highlighted markup looks, what separates the elements
of a signature, and how roles behave.
-/

namespace GaussMarkup

/-- All settings, with their defaults. -/
structure Settings where
  source : SourceOptions := {}
  html : HtmlStyle := {}
  /-- What separates the elements of a signature. -/
  separator : List Char := defaultSeparator
  roles : RoleSettings := {}
  deriving DecidableEq, Repr, Inhabited

end GaussMarkup
