import GaussMarkup.Lexer.Rules

/-!
# Steps of the lexer

The lexer stands at a cursor: the character behind it, the stack of modes and the text in front.
One step applies the first rule of the current mode that finds a match. Where none does, a step
takes a single character as plain text, and a line feed taken that way leaves all modes but the
last.

`Cursor.steps` lists the steps from a cursor to the end of the text. It ends because a step either
takes some text or pops a mode, and because an embedded text is shorter than the text around it; so
twice the length of the text plus the height of the stack goes down.
-/

namespace GaussMarkup

/-- A place in a text and the modes that are open there. -/
structure Cursor where
  /-- The character directly behind the cursor; there is none at the start of the text. -/
  before : Option Char
  /-- The stack of modes, top first. -/
  stack : List Mode
  /-- The text in front of the cursor. -/
  rest : List Char
  deriving DecidableEq, Repr

namespace Cursor

def start (s : List Char) : Cursor :=
  ⟨none, [.root], s⟩

def mode (c : Cursor) : Mode :=
  currentMode c.stack

/-- Whether a match leads on from a cursor: it covers some text or takes a mode off the stack. -/
def advancesBy (c : Cursor) (m : Match) : Bool :=
  !m.isEmpty || m.move.drops c.stack

/-- The match of the first rule that leads on. -/
def match? (c : Cursor) : Option Match :=
  c.mode.rules.findSome? fun rule => (rule.find? c.before c.rest).filter c.advancesBy

/-- The last character of `taken`, or the one behind the cursor if nothing was taken. -/
def lastTaken (c : Cursor) (taken : List Char) : Option Char :=
  taken.getLast?.or c.before

def behind (c : Cursor) (m : Match) : Cursor :=
  ⟨c.lastTaken m.text, m.move.apply c.stack, m.rest⟩

/-- The cursor behind a single character that no rule takes. -/
def behindChar (c : Cursor) (ch : Char) (rest : List Char) : Cursor :=
  ⟨some ch, if ch = '\n' then c.stack.drop (c.stack.length - 1) else c.stack, rest⟩

/-- What goes down with every step. -/
def size (c : Cursor) : Nat :=
  2 * c.rest.length + c.stack.length

theorem find_of_match? {c : Cursor} {m : Match} (h : c.match? = some m) :
    ∃ rule ∈ c.mode.rules, rule.find? c.before c.rest = some m ∧ c.advancesBy m = true := by
  obtain ⟨rule, hr, h⟩ := List.exists_of_findSome?_eq_some h
  exact ⟨rule, hr, Option.filter_eq_some_iff.1 h⟩

theorem covers_of_match? {c : Cursor} {m : Match} (h : c.match? = some m) : m.Covers c.rest := by
  obtain ⟨rule, _, h, _⟩ := find_of_match? h
  exact rule.covers h

theorem length_of_match? {c : Cursor} {m : Match} (h : c.match? = some m) :
    m.text.length + m.rest.length = c.rest.length := by
  rw [← (covers_of_match? h).1, List.length_append]

theorem size_inner_lt {c : Cursor} {m : Match} (h : c.match? = some m) (hne : c.rest ≠ []) :
    (start m.inner).size < c.size := by
  have hlen : 0 < c.rest.length := List.length_pos_iff.2 hne
  rcases (covers_of_match? h).2 with hi | hi
  · simp only [start, size, hi, List.length_nil, List.length_singleton]; omega
  · simp only [start, size, List.length_singleton]; omega

theorem size_behind_lt {c : Cursor} {m : Match} (h : c.match? = some m) :
    (c.behind m).size < c.size := by
  obtain ⟨_, _, _, hadv⟩ := find_of_match? h
  have hlen := length_of_match? h
  have hstack := m.move.length_apply_le c.stack
  simp only [advancesBy, Bool.or_eq_true, Bool.not_eq_true'] at hadv
  simp only [behind, size]
  rcases hadv with hempty | hdrops
  · have : m.text.length ≠ 0 := by
      simpa [Match.isEmpty, List.isEmpty_eq_false_iff] using hempty
    omega
  · have := Move.length_apply_of_drops hdrops
    omega

theorem size_behindChar_lt {c : Cursor} {ch : Char} {rest : List Char} (h : c.rest = ch :: rest) :
    (c.behindChar ch rest).size < c.size := by
  simp only [behindChar, size, h, List.length_cons]
  split
  · simp only [List.length_drop]; omega
  · omega

end Cursor

/-- What one step produced and where it led. -/
structure Step where
  lexemes : List Lexeme
  next : Cursor
  deriving Repr

/-- The steps from a cursor to the end of the text. -/
def Cursor.steps (c : Cursor) : List Step :=
  match _hrest : c.rest with
  | [] => []
  | ch :: rest =>
    match _hm : c.match? with
    | some m =>
      ⟨m.front ++ (Cursor.start m.inner).steps.flatMap (·.lexemes) ++ m.back, c.behind m⟩ ::
        (c.behind m).steps
    | none => ⟨[⟨.text, [ch]⟩], c.behindChar ch rest⟩ :: (c.behindChar ch rest).steps
termination_by c.size
decreasing_by
  · exact Cursor.size_inner_lt _hm (by simp [_hrest])
  · exact Cursor.size_behind_lt _hm
  · exact Cursor.size_behindChar_lt _hrest

def Cursor.lexemes (c : Cursor) : List Lexeme :=
  c.steps.flatMap (·.lexemes)

/-- The stack of modes at the end of the text, top first. -/
def Cursor.finalStack (c : Cursor) : List Mode :=
  (c.steps.getLast?.map (·.next.stack)).getD c.stack

def lexemes (s : List Char) : List Lexeme :=
  (Cursor.start s).lexemes

/-- The tokens of a source text. -/
def tokenize (s : List Char) : List Token :=
  locate 0 (lexemes s)

/-- The stack of modes at the end of a source text, top first. -/
def finalStack (s : List Char) : List Mode :=
  (Cursor.start s).finalStack

/-- For each token of a source text, the stack of modes behind the step that produced it. -/
def tokenStacks (s : List Char) : List (List Mode) :=
  (Cursor.start s).steps.flatMap fun step => step.lexemes.map fun _ => step.next.stack

end GaussMarkup
