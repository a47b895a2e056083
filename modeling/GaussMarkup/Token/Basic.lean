import GaussMarkup.Text.Utf8
import GaussMarkup.Token.Kind

/-!
# Lexemes and tokens

A lexeme is a stretch of source with its kind; a token is a lexeme with its place. Lexers produce
lexemes in order and without gaps, so the places follow from the sizes: `locate` puts each lexeme
where the one before it ends.
-/

namespace GaussMarkup

/-- A stretch of source text and what it is. -/
structure Lexeme where
  kind : Kind
  text : List Char
  deriving DecidableEq, Repr, Inhabited

/-- A lexeme that begins at byte `start` of its source. -/
structure Token where
  kind : Kind
  text : List Char
  start : Nat
  deriving DecidableEq, Repr, Inhabited

/-- The byte directly behind a token. -/
def Token.stop (t : Token) : Nat :=
  t.start + byteSize t.text

def Token.lexeme (t : Token) : Lexeme :=
  ⟨t.kind, t.text⟩

/-- The text that lexemes cover together. -/
def textOf (ls : List Lexeme) : List Char :=
  ls.flatMap (·.text)

/-- Lexemes laid out one behind the other from byte `start` on. -/
def locate (start : Nat) : List Lexeme → List Token
  | [] => []
  | l :: ls => ⟨l.kind, l.text, start⟩ :: locate (start + byteSize l.text) ls

/-- A lexeme for a stretch that may be empty; an empty one gives none. -/
def lexemeOf (kind : Kind) (text : List Char) : List Lexeme :=
  if text = [] then [] else [⟨kind, text⟩]

@[simp] theorem textOf_nil : textOf [] = [] := rfl

@[simp] theorem textOf_cons (l : Lexeme) (ls : List Lexeme) :
    textOf (l :: ls) = l.text ++ textOf ls := rfl

@[simp] theorem textOf_append (ls ms : List Lexeme) :
    textOf (ls ++ ms) = textOf ls ++ textOf ms := by
  simp [textOf]

@[simp] theorem textOf_lexemeOf (kind : Kind) (text : List Char) :
    textOf (lexemeOf kind text) = text := by
  unfold lexemeOf; split <;> simp_all

theorem locate_append (start : Nat) (ls ms : List Lexeme) :
    locate start (ls ++ ms) = locate start ls ++ locate (start + byteSize (textOf ls)) ms := by
  induction ls generalizing start with
  | nil => simp [locate]
  | cons l ls ih => simp [locate, ih, Nat.add_assoc]

theorem map_lexeme_locate (start : Nat) (ls : List Lexeme) :
    (locate start ls).map Token.lexeme = ls := by
  induction ls generalizing start with
  | nil => rfl
  | cons l ls ih => simp [locate, ih, Token.lexeme]

end GaussMarkup
