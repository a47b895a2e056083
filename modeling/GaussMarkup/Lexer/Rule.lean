import GaussMarkup.Lexer.Cut
import GaussMarkup.Lexer.Guard
import GaussMarkup.Lexer.Mode
import GaussMarkup.Token.Basic

/-!
# Rules

A rule looks at the text in front of the cursor, and at the one character behind it, and may find a
match: some lexemes and a move on the stack of modes. A match may hold a stretch of text that is
lexed on its own, as if it were a whole source: the lead of an indented directive, or the
parameters in the header of a one-line function.

Every rule comes with two facts. What a match covers, followed by what it leaves, is the text it
was found in; and an embedded text is shorter than that text. The first makes lexing lossless, the
second makes it end.
-/

namespace GaussMarkup

/-- What a rule found. -/
structure Match where
  /-- Lexemes in front of the embedded text. -/
  front : List Lexeme
  /-- Text to be lexed on its own; most matches have none. -/
  inner : List Char
  /-- Lexemes behind the embedded text. -/
  back : List Lexeme
  rest : List Char
  /-- What becomes of the stack of modes. -/
  move : Move
  deriving DecidableEq, Repr

namespace Match

def text (m : Match) : List Char :=
  textOf m.front ++ m.inner ++ textOf m.back

def isEmpty (m : Match) : Bool :=
  m.text.isEmpty

/-- Whether a match covers all of `s` but its rest. -/
def Covers (m : Match) (s : List Char) : Prop :=
  m.text ++ m.rest = s ∧ (m.inner = [] ∨ m.inner.length < s.length)

/-- A match without an embedded text. -/
def plain (lexemes : List Lexeme) (rest : List Char) (move : Move) : Match :=
  ⟨lexemes, [], [], rest, move⟩

@[simp] theorem text_plain (lexemes : List Lexeme) (rest : List Char) (move : Move) :
    (plain lexemes rest move).text = textOf lexemes := by
  simp [plain, text]

@[simp] theorem rest_plain (lexemes : List Lexeme) (rest : List Char) (move : Move) :
    (plain lexemes rest move).rest = rest :=
  rfl

theorem covers_plain {lexemes : List Lexeme} {rest s : List Char} {move : Move}
    (h : textOf lexemes ++ rest = s) : (plain lexemes rest move).Covers s :=
  ⟨by simpa using h, .inl rfl⟩

end Match

/-- A rule of the lexer with the facts that hold of all its matches. -/
structure Rule where
  /-- The match in front of the cursor, if there is one, given the character behind the cursor. -/
  find? : (before : Option Char) → (s : List Char) → Option Match
  covers : ∀ {before : Option Char} {s : List Char} {m : Match},
    find? before s = some m → m.Covers s

/-- A rule that takes one lexeme of a fixed kind. -/
def Rule.one (kind : Kind) (move : Move) (scan : List Char → Option Cut) (h : Joins scan) :
    Rule where
  find? _ s := (scan s).map fun x => .plain (lexemeOf kind x.1) x.2 move
  covers := by
    intro _ s m hm
    obtain ⟨x, hx, rfl⟩ := Option.map_eq_some_iff.1 hm
    exact Match.covers_plain (by simpa using h hx)

/-- A rule that asks a guard about what it takes. -/
def Rule.guarded (kind : Kind) (move : Move) (scan : List Char → Option Cut) (guard : Guard)
    (h : Joins scan) : Rule where
  find? before s :=
    ((scan s).filter fun x => guard.admits before x.1 x.2).map fun x =>
      .plain (lexemeOf kind x.1) x.2 move
  covers := by
    intro _ s m hm
    obtain ⟨x, hx, rfl⟩ := Option.map_eq_some_iff.1 hm
    exact Match.covers_plain (by simpa using h (Option.filter_eq_some_iff.1 hx).1)

/-- A rule that only looks at the start of a line. -/
def Rule.atLineStart (rule : Rule) : Rule where
  find? before s := if GaussMarkup.atLineStart before then rule.find? before s else none
  covers := by
    intro _ s m hm
    split at hm
    · exact rule.covers hm
    · simp at hm

end GaussMarkup
