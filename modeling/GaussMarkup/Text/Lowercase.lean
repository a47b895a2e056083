import GaussMarkup.Text.CodeRanges
import GaussMarkup.Text.Cased
import GaussMarkup.Text.LowercaseRuns

/-!
# Lower case

The full lower-case mapping. Two letters need more than a partner: the dotted capital I becomes two
characters, and a capital sigma at the end of a word becomes the final form.
-/

namespace GaussMarkup

/-- The lower-case partner of a code point, from the ordered runs. -/
def lowercaseCode (n : Nat) : List (Nat × Nat × Nat × Int) → Nat
  | [] => n
  | (lo, hi, stride, delta) :: rest =>
    if n < lo then n
    else if n ≤ hi && (n - lo) % stride == 0 then (n + delta).toNat
    else lowercaseCode n rest

/-- The lower-case form of a character that has nothing to do with its neighbours. -/
def lowercaseChar (c : Char) : List Char :=
  if c.toNat < 0x80 then [c.toLower]
  else if c = '\u0130' then ['i', '\u0307']
  else [Char.ofNat (lowercaseCode c.toNat lowercaseRuns)]

/-- Whether a character is an upper-case, lower-case or title-case letter. -/
def isCased (c : Char) : Bool :=
  if c.toNat < 0x80 then c.isAlpha else inRanges c.toNat casedRanges

/-- Whether a search for a neighbouring cased letter passes over a character. -/
def isCaseIgnorable (c : Char) : Bool :=
  if c.toNat < 0x80 then c == '\'' || c == '.' || c == ':' || c == '^' || c == '\x60'
  else inRanges c.toNat caseIgnorableRanges

/-- Whether the first character that counts is a cased letter. -/
def startsCased (s : List Char) : Bool :=
  match s.dropWhile isCaseIgnorable with
  | [] => false
  | c :: _ => isCased c

/-- The lower-case form of a text behind the characters `before`, nearest first. -/
def lowercaseAfter (before : List Char) : List Char → List Char
  | [] => []
  | c :: s =>
    let here :=
      if c = '\u03a3' then
        if startsCased before && !startsCased s then ['\u03c2'] else ['\u03c3']
      else lowercaseChar c
    here ++ lowercaseAfter (c :: before) s

def lowercase (s : List Char) : List Char :=
  lowercaseAfter [] s

end GaussMarkup
