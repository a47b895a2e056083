import GaussMarkup.Lexer.Comment

/-!
# Strings

A string runs to the next double quote that no backslash escapes, over any number of lines. An
escape is a backslash with a letter or quote, with up to four hexadecimal digits behind an `x` or
exactly four behind a `u`, or with up to three octal digits; any other backslash stands for itself.
-/

namespace GaussMarkup

/-- Characters that are an escape directly behind a backslash. -/
def isEscapeChar (c : Char) : Bool :=
  ['\\', 'a', 'b', 'f', 'n', 'r', 't', 'v', '"', '\''].contains (fold c)

/-- At least `least` and at most `most` characters of a class, as many as there are. -/
def cutBetween? (p : Char → Bool) (least most : Nat) (s : List Char) : Option Cut :=
  let run := (s.take most).takeWhile p
  if least ≤ run.length then some (run, s.drop run.length) else none

/-- The part of an escape behind its backslash. -/
def cutEscapeBody? (s : List Char) : Option Cut :=
  match s with
  | [] => none
  | c :: t =>
    if isEscapeChar c then some ([c], t)
    else if fold c = 'x' then (cutBetween? isHexDigit 2 4 t).map fun x => (c :: x.1, x.2)
    else if fold c = 'u' then (cutBetween? isHexDigit 4 4 t).map fun x => (c :: x.1, x.2)
    else cutBetween? isOctalDigit 1 3 s

/-- A backslash that escapes what stands behind it. -/
def cutEscape? : List Char → Option Cut
  | '\\' :: s => (cutEscapeBody? s).map fun x => ('\\' :: x.1, x.2)
  | _ => none

theorem joins_cutBetween? (p : Char → Bool) (least most : Nat) :
    Joins (cutBetween? p least most) := by
  intro s c h
  simp only [cutBetween?] at h
  split at h
  · obtain rfl := Option.some.inj h
    have htake : (s.take most).takeWhile p <+: s :=
      (List.takeWhile_prefix p).trans (List.take_prefix most s)
    obtain ⟨t, ht⟩ := htake
    have hdrop : s.drop ((s.take most).takeWhile p).length = t := by
      conv => lhs; arg 2; rw [← ht]
      simp
    simp only [hdrop]
    exact ht
  · simp at h

theorem joins_cutEscapeBody? : Joins cutEscapeBody? := by
  intro s c h
  unfold cutEscapeBody? at h
  split at h
  · simp at h
  · split at h
    · obtain rfl := Option.some.inj h
      rfl
    · split at h
      · obtain ⟨x, hx, rfl⟩ := Option.map_eq_some_iff.1 h
        simp [joins_cutBetween? _ _ _ hx]
      · split at h
        · obtain ⟨x, hx, rfl⟩ := Option.map_eq_some_iff.1 h
          simp [joins_cutBetween? _ _ _ hx]
        · exact joins_cutBetween? _ _ _ h

theorem joins_cutEscape? : Joins cutEscape? := by
  intro s c h
  unfold cutEscape? at h
  split at h
  · obtain ⟨x, hx, rfl⟩ := Option.map_eq_some_iff.1 h
    simp [joins_cutEscapeBody? hx]
  · simp at h

namespace Rule

def stringStart : Rule :=
  one .string (.push .string) (cutMark? ['"']) (joins_cutMark? _)

def stringEnd : Rule :=
  one .string .pop (cutMark? ['"']) (joins_cutMark? _)

def stringEscape : Rule :=
  one .stringEscape .stay cutEscape? joins_cutEscape?

/-- Text of a string without quotes and backslashes. -/
def stringText : Rule :=
  one .string .stay (cutRun? fun c => c != '\\' && c != '"') (joins_cutRun? _)

/-- A backslash with a line feed in a string. -/
def stringContinuation : Rule :=
  one .string .stay cutContinuation? joins_cutContinuation?

/-- A backslash that escapes nothing. -/
def stringBackslash : Rule :=
  one .string .stay (cutMark? ['\\']) (joins_cutMark? _)

end Rule

end GaussMarkup
