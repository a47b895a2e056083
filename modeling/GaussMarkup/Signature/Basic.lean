/-!
# Signatures

A signature names a procedure, its parameters and the values it returns. Both lists may hold
optional groups, nested to any depth. A list is printed with a separator between its elements.
-/

namespace GaussMarkup

/-- A parameter or return value. -/
structure Element where
  text : List Char
  /-- Print it without emphasis. -/
  plain : Bool := false
  deriving DecidableEq, Repr, Inhabited

/-- An element, or an optional group of items. -/
inductive Item
  | element (e : Element)
  | optional (items : List Item)
  deriving Repr, Inhabited

def Item.isElement : Item → Bool
  | .element _ => true
  | .optional _ => false

/-- The separator of lists that name no other. -/
def defaultSeparator : List Char :=
  ", ".toList

/-- A list of items and what separates its elements. -/
structure ItemList where
  items : List Item
  separator : List Char := defaultSeparator
  deriving Repr, Inhabited

/-- How many elements of a list are outside all groups. -/
def ItemList.requiredCount (list : ItemList) : Nat :=
  list.items.countP Item.isElement

/-- What a procedure returns, its name, and its parameters. -/
structure Signature where
  returns : Option ItemList := none
  name : List Char
  parameters : Option ItemList := none
  deriving Repr, Inhabited

/-- The signature with another separator in both its lists. -/
def Signature.withSeparator (s : Signature) (separator : List Char) : Signature :=
  let set := fun (list : ItemList) => { list with separator := separator }
  { s with returns := s.returns.map set, parameters := s.parameters.map set }

/-- Why a text is no signature. -/
inductive SignatureError
  | missingName
  | unbalanced (bracket : Char)
  deriving DecidableEq, Repr

def SignatureError.message : SignatureError → List Char
  | missingName => "signature has no function name".toList
  | unbalanced bracket => "unbalanced '".toList ++ bracket :: "' in signature".toList

end GaussMarkup
