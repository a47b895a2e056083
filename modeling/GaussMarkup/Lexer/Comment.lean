import GaussMarkup.Lexer.Rule

/-!
# Blanks and comments

A comment runs from `//` to the end of its line, from a slash and a star to the next star and
slash, or from one `@` to the next. A backslash in front of the line feed continues a line comment,
and a backslash with a line feed may stand between the slash and the star of a block comment. An
open line or block comment runs to the end of the text; an open `@` is no comment.
-/

namespace GaussMarkup

/-- Everything up to a line feed that `last`, the character in front of it, does not escape. -/
def cutBareLine (last : Char) : List Char → Cut
  | [] => ([], [])
  | c :: s =>
    if c = '\n' ∧ last ≠ '\\' then ([c], s) else (c :: (cutBareLine c s).1, (cutBareLine c s).2)

@[simp] theorem cutBareLine_join (last : Char) (s : List Char) :
    (cutBareLine last s).1 ++ (cutBareLine last s).2 = s := by
  induction s generalizing last with
  | nil => rfl
  | cons c s ih => simp only [cutBareLine]; split <;> simp [ih]

def cutLineComment? : List Char → Option Cut
  | '/' :: '/' :: s => some ('/' :: '/' :: (cutBareLine '/' s).1, (cutBareLine '/' s).2)
  | _ => none

def cutBlockStart? : List Char → Option Cut
  | '/' :: '*' :: s => some (['/', '*'], s)
  | '/' :: '\\' :: '\n' :: '*' :: s => some (['/', '\\', '\n', '*'], s)
  | _ => none

def cutBlockEnd? : List Char → Option Cut
  | '*' :: '/' :: s => some (['*', '/'], s)
  | '*' :: '\\' :: '\n' :: '/' :: s => some (['*', '\\', '\n', '/'], s)
  | _ => none

/-- A block comment; one without an end takes everything. -/
def cutBlockComment? (s : List Char) : Option Cut :=
  (cutBlockStart? s).map fun x =>
    match cutThrough? cutBlockEnd? x.2 with
    | some y => (x.1 ++ y.1, y.2)
    | none => (s, [])

/-- A comment between two `@`. -/
def cutAtComment? : List Char → Option Cut
  | '@' :: s => (cutThrough? (cutMark? ['@']) s).map fun x => ('@' :: x.1, x.2)
  | _ => none

/-- A backslash with the line feed behind it. -/
def cutContinuation? (s : List Char) : Option Cut :=
  cutMark? ['\\', '\n'] s

theorem joins_cutLineComment? : Joins cutLineComment? := by
  intro s c h
  unfold cutLineComment? at h
  split at h
  · obtain rfl := Option.some.inj h
    simp
  · simp at h

theorem joins_cutBlockStart? : Joins cutBlockStart? := by
  intro s c h
  unfold cutBlockStart? at h
  split at h <;> first | (obtain rfl := Option.some.inj h; rfl) | simp at h

theorem joins_cutBlockEnd? : Joins cutBlockEnd? := by
  intro s c h
  unfold cutBlockEnd? at h
  split at h <;> first | (obtain rfl := Option.some.inj h; rfl) | simp at h

theorem joins_cutBlockComment? : Joins cutBlockComment? := by
  intro s c h
  obtain ⟨x, hx, rfl⟩ := Option.map_eq_some_iff.1 h
  have hs := joins_cutBlockStart? hx
  split
  · next y hy => simp [joins_cutThrough? joins_cutBlockEnd? hy, hs]
  · simp

theorem joins_cutAtComment? : Joins cutAtComment? := by
  intro s c h
  unfold cutAtComment? at h
  split at h
  · obtain ⟨x, hx, rfl⟩ := Option.map_eq_some_iff.1 h
    simp [joins_cutThrough? (joins_cutMark? _) hx]
  · simp at h

theorem joins_cutContinuation? : Joins cutContinuation? :=
  joins_cutMark? _

theorem joins_lineFeed : Joins (cutMark? ['\n']) :=
  joins_cutMark? _

namespace Rule

def newline : Rule :=
  one .text .stay (cutMark? ['\n']) joins_lineFeed

/-- A run of blanks, which may go on over several lines. -/
def blanks : Rule :=
  one .text .stay (cutRun? isBlank) (joins_cutRun? _)

/-- A line that goes on behind a backslash. -/
def continuation : Rule :=
  one .text .stay cutContinuation? joins_cutContinuation?

def lineComment : Rule :=
  one .lineComment .stay cutLineComment? joins_cutLineComment?

/-- A comment between a slash with a star and a star with a slash. -/
def blockComment : Rule :=
  one .blockComment .stay cutBlockComment? joins_cutBlockComment?

def atComment : Rule :=
  one .blockComment .stay cutAtComment? joins_cutAtComment?

end Rule

end GaussMarkup
