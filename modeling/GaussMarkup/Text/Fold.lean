/-!
# Letters without case

GAUSS words are the same in either case. Two letters outside ASCII fold to an ASCII one as well,
the long s and the Kelvin sign, and no other character does; so a text is compared with an ASCII
pattern after folding each of its characters.
-/

namespace GaussMarkup

/-- The character that stands for `c` where case does not matter. -/
def fold (c : Char) : Char :=
  if c = '\u017f' then 's' else if c = '\u212a' then 'k' else c.toLower

/-- Letters that open a name: an ASCII letter in folded form, or the underscore. -/
def isNameStart (c : Char) : Bool :=
  let f := fold c
  ('a' ≤ f && f ≤ 'z') || f == '_'

end GaussMarkup
