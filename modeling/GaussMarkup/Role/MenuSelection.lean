import GaussMarkup.Role.Basic
import GaussMarkup.Text.CharClass
import GaussMarkup.Text.Lowercase
import GaussMarkup.Text.Replace

/-!
# Menu selections

In a menu selection `-->` stands between the levels of a menu and a single `&` in front of the
character that is the accelerator of an entry; two of them stand for one ampersand. The accelerator
becomes a span of its own.
-/

namespace GaussMarkup

/-- A text without the markers that stand for escaped characters: a null with a blank behind it,
then a null with a line feed, then any other null. -/
def unescape (s : List Char) : List Char :=
  replaceAll '\x00' [] [] (replaceAll '\x00' ['\n'] [] (replaceAll '\x00' [' '] [] s))

/-- Whether an ampersand between `last` and `s` marks an accelerator. -/
def marksAccelerator (last : Option Char) (s : List Char) : Bool :=
  last != some '&' &&
    match s with
    | [] => false
    | c :: _ => c != '&' && !isBlank c

/-- The stretches of a text between the ampersands that mark accelerators: the one in front of the
first, and those that begin with an accelerator. -/
def acceleratorSpansFrom (last : Option Char) : List Char → List Char × List (List Char)
  | [] => ([], [])
  | c :: s =>
    let later := acceleratorSpansFrom (some c) s
    if c = '&' ∧ marksAccelerator last s then ([], later.1 :: later.2)
    else (c :: later.1, later.2)

/-- A text node, unless the text is empty. -/
def textNode (s : List Char) : List Inline :=
  if s = [] then [] else [.text s]

/-- Two ampersands as one. -/
def singleAmpersands (s : List Char) : List Char :=
  replaceAll '&' ['&'] ['&'] s

/-- The nodes of a stretch that begins with an accelerator. -/
def acceleratorNodes (span : List Char) : List Inline :=
  match singleAmpersands span with
  | [] => []
  | c :: s => .span none ["accelerator".toList] [.text [c]] :: textNode s

def menuNodes (s : List Char) : List Inline :=
  let spans := acceleratorSpansFrom none s
  textNode (singleAmpersands spans.1) ++ spans.2.flatMap acceleratorNodes

/-- The name of the role whose text has menu arrows. -/
def menuSelectionName : List Char :=
  "menuselection".toList

/-- The name of the role for labels of controls. -/
def guiLabelName : List Char :=
  "guilabel".toList

/-- The role of menu selections and of labels of controls. -/
def menuRole : Role := fun call =>
  let name := if call.name = [] then call.settings.defaultRole else some call.name
  match name with
  | none =>
    { messages :=
        [⟨.error, call.line, "no role name given and no default role is set".toList⟩] }
  | some name =>
    let name := lowercase name
    let text := unescape call.text
    let text :=
      if name = menuSelectionName then replaceAll '-' ['-', '>'] call.settings.menuArrow text
      else text
    { nodes := [.span (some call.rawText) [name] (menuNodes text)] }

end GaussMarkup
