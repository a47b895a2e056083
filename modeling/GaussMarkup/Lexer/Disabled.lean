import GaussMarkup.Lexer.Rule

/-!
# Blocks that are switched off

Behind `#if 0` everything is a comment, line by line, up to the matching `#else`, `#elseif`,
`#elif` or `#endif`. A further `#if` opens an inner block. Blank lines in front of such a line
belong to it. An `#if` or `#endif` line that a backslash continues does not count.
-/

namespace GaussMarkup

/-- Blanks, one of the words behind a `#`, and the rest of the line. -/
def cutConditional? (words : List String) (s : List Char) : Option Cut :=
  (words.findSome? fun word => cutWord? ('#' :: word.toList) (s.dropWhile isBlank)).map fun x =>
    (s.takeWhile isBlank ++ x.1 ++ (cutLine x.2).1, (cutLine x.2).2)

theorem joins_cutConditional? (words : List String) : Joins (cutConditional? words) := by
  intro s c h
  obtain ⟨x, hx, rfl⟩ := Option.map_eq_some_iff.1 h
  obtain ⟨word, _, hw⟩ := List.exists_of_findSome?_eq_some hx
  simp [joins_cutWord? _ hw, List.takeWhile_append_dropWhile]

namespace Rule

/-- An inner block opens. -/
def nestedStart : Rule :=
  atLineStart <|
    guarded .directive (.push .disabled) (cutConditional? ["if"]) .unescapedFinalNewline
      (joins_cutConditional? _)

/-- The other branch of a conditional, which is switched on. -/
def otherBranch : Rule :=
  atLineStart <| one .directive .pop (cutConditional? ["else", "elif"]) (joins_cutConditional? _)

def disabledEnd : Rule :=
  atLineStart <|
    guarded .directive .pop (cutConditional? ["endif"]) .unescapedFinalNewline
      (joins_cutConditional? _)

/-- Any other line. -/
def disabledLine : Rule :=
  one .comment .stay (fun s => some (cutLine s)) fun h => by
    obtain rfl := Option.some.inj h
    exact cutLine_join _

end Rule

end GaussMarkup
