import GaussMarkup.Proofs.Lexer.Matches
import GaussMarkup.Proofs.Text.Lines

/-!
# Lines of a block that is switched off

`lineEffect` says of a single line, whatever stands around it, by how much it
changes the depth of blocks that are switched off. The rules of disabled mode do
not work line by line: a directive takes the blank lines in front of it along,
and one that a backslash continues is left to the rule of plain lines. What they
find still depends on one line only (`match?_of_disabled`): the first one behind
the blanks, and its effect is the move of the match.
-/

namespace GaussMarkup

/-! ## What a line does to the depth -/

/-- Whether a line begins with a `#` and this word, in any case and behind blanks. -/
def opensWith (word : String) (line : List Char) : Bool :=
  ('#' :: word.toList).isPrefixOf ((line.dropWhile isBlank).map fold)

/-- Whether a line ends in a backslash, its line feed apart. -/
def isContinued (line : List Char) : Bool :=
  (dropFinalNewline line).getLast? == some '\\'

/-- By how much a line changes the depth of blocks. -/
def lineEffect (line : List Char) : Int :=
  if opensWith "if" line && !isContinued line then 1
  else if opensWith "else" line || opensWith "elif" line then -1
  else if opensWith "endif" line && !isContinued line then -1
  else 0

variable {w s line : List Char} {word : String}

theorem getLast?_append_blanks (hw : ∀ c ∈ w, isBlank c = true) (s : List Char) :
    ((w ++ s).getLast? == some '\\') = (s.getLast? == some '\\') := by
  cases s with
  | nil =>
      rw [List.append_nil, List.getLast?_nil]
      cases hlast : w.getLast? with
      | none => rfl
      | some c =>
          have hc : c ≠ '\\' := by
            rintro rfl
            exact absurd (hw _ (List.mem_of_getLast? hlast)) (by decide)
          simp [hc]
  | cons c s =>
      rw [List.getLast?_append, List.getLast?_cons]
      rfl

theorem isContinued_append_blanks (hw : ∀ c ∈ w, isBlank c = true) (line : List Char) :
    isContinued (w ++ line) = isContinued line := by
  have hlast := getLast?_append_blanks hw
  unfold isContinued dropFinalNewline
  rcases List.eq_nil_or_concat line with rfl | ⟨front, c, rfl⟩
  · rw [List.append_nil]
    split
    · have hdrop : ∀ c ∈ w.dropLast, isBlank c = true :=
        fun c hc => hw c ((List.dropLast_sublist w).subset hc)
      simpa using getLast?_append_blanks hdrop []
    · simpa using hlast []
  · rw [List.concat_eq_append, ← List.append_assoc]
    by_cases hc : c = '\n'
    · simpa [hc] using hlast front
    · simp [hc]

theorem opensWith_append_blanks (hw : ∀ c ∈ w, isBlank c = true) (line : List Char) :
    opensWith word (w ++ line) = opensWith word line := by
  rw [opensWith, opensWith, List.dropWhile_append_of_pos hw]

/-- Blanks in front of a line do not matter. -/
theorem lineEffect_append_blanks (hw : ∀ c ∈ w, isBlank c = true) (line : List Char) :
    lineEffect (w ++ line) = lineEffect line := by
  simp only [lineEffect, opensWith_append_blanks hw, isContinued_append_blanks hw]

theorem lineEffect_nil : lineEffect [] = 0 := by
  decide

theorem lineEffect_of_blanks (hw : ∀ c ∈ w, isBlank c = true) : lineEffect w = 0 := by
  rw [← List.append_nil w, lineEffect_append_blanks hw, lineEffect_nil]

/-! ## What the rules of disabled mode find -/

/-- The line that a directive of disabled mode would be, without the blanks in
front of it, and the text behind that line. -/
def cutDirectiveLine (s : List Char) : Cut :=
  cutLine (s.dropWhile isBlank)

theorem blank_of_mem_takeWhile : ∀ c ∈ s.takeWhile isBlank, isBlank c = true :=
  List.all_eq_true.mp List.all_takeWhile

theorem dropWhile_cutDirectiveLine (s : List Char) :
    (cutDirectiveLine s).1.dropWhile isBlank = (cutDirectiveLine s).1 := by
  unfold cutDirectiveLine
  cases hs : s.dropWhile isBlank with
  | nil => rfl
  | cons c t =>
      have hc : isBlank c = false := by
        have := List.head?_dropWhile_not isBlank s
        simpa [hs] using this
      simp only [cutLine]
      split <;> simp [hc]

/-- A word without line feeds is taken from within the first line. -/
theorem cutLine_of_cutWord? {word : List Char} {x : Cut} (hword : '\n' ∉ word)
    (h : cutWord? word s = some x) : cutLine s = (x.1 ++ (cutLine x.2).1, (cutLine x.2).2) := by
  obtain ⟨hx, rfl⟩ := cutWord?_eq_some.mp h
  refine cutLine_append (fun hmem => hword ?_) x.2
  have hfold : fold '\n' ∈ x.1.map fold := List.mem_map_of_mem hmem
  rwa [hx, show fold '\n' = '\n' by decide] at hfold

theorem exists_cutWord?_iff (hword : '\n' ∉ word.toList) :
    (∃ x, cutWord? ('#' :: word.toList) (s.dropWhile isBlank) = some x) ↔
      opensWith word (cutDirectiveLine s).1 = true := by
  rw [opensWith, dropWhile_cutDirectiveLine, List.isPrefixOf_iff_prefix]
  constructor
  · rintro ⟨x, hx⟩
    have hcut := cutLine_of_cutWord? (by simpa using hword) hx
    rw [cutDirectiveLine, hcut, List.map_append, (cutWord?_eq_some.mp hx).1]
    exact List.prefix_append _ _
  · rintro ⟨t, ht⟩
    obtain ⟨a, b, hab, ha, -⟩ := List.map_eq_append_iff.mp ht.symm
    refine ⟨(a, b ++ (cutDirectiveLine s).2), cutWord?_eq_some.mpr ⟨ha, ?_⟩⟩
    rw [← List.append_assoc, ← hab]
    exact (cutLine_join _).symm

/-- A directive of disabled mode is found by its line alone. -/
theorem cutConditional?_eq {words : List String} (hwords : ∀ word ∈ words, '\n' ∉ word.toList)
    (s : List Char) :
    cutConditional? words s =
      if words.any (opensWith · (cutDirectiveLine s).1) then
        some (s.takeWhile isBlank ++ (cutDirectiveLine s).1, (cutDirectiveLine s).2)
      else none := by
  unfold cutConditional?
  cases hfind : words.findSome? fun word => cutWord? ('#' :: word.toList) (s.dropWhile isBlank) with
  | none =>
      have hnone := List.findSome?_eq_none_iff.mp hfind
      rw [if_neg]
      · rfl
      · intro hany
        obtain ⟨word, hword, hopens⟩ := List.any_eq_true.mp hany
        obtain ⟨x, hx⟩ := (exists_cutWord?_iff (hwords word hword)).mpr hopens
        rw [hnone word hword] at hx
        cases hx
  | some x =>
      obtain ⟨word, hword, hx⟩ := List.exists_of_findSome?_eq_some hfind
      have hcut := cutLine_of_cutWord? (by simpa using hwords word hword) hx
      rw [if_pos]
      · simp [cutDirectiveLine, hcut]
      · have hopens := (exists_cutWord?_iff (hwords word hword)).mp ⟨x, hx⟩
        exact List.any_eq_true.mpr ⟨word, hword, hopens⟩

/-- The directive that disabled mode finds in front of `s`. -/
def directiveMatch (s : List Char) (move : Move) : Match :=
  .plain (lexemeOf .directive (s.takeWhile isBlank ++ (cutDirectiveLine s).1))
    (cutDirectiveLine s).2 move

variable {before : Option Char} {words : List String}

theorem find?_conditional (hline : atLineStart before = true)
    (hwords : ∀ word ∈ words, '\n' ∉ word.toList) (move : Move) (s : List Char) :
    (Rule.one .directive move (cutConditional? words)
        (joins_cutConditional? words)).atLineStart.find? before s =
      if words.any (opensWith · (cutDirectiveLine s).1) then some (directiveMatch s move)
      else none := by
  simp only [Rule.atLineStart, Rule.one, if_pos hline, cutConditional?_eq hwords]
  split <;> rfl

theorem find?_guardedConditional (hline : atLineStart before = true)
    (hwords : ∀ word ∈ words, '\n' ∉ word.toList) (move : Move) (s : List Char) :
    (Rule.guarded .directive move (cutConditional? words) .unescapedFinalNewline
        (joins_cutConditional? words)).atLineStart.find? before s =
      if words.any (opensWith · (cutDirectiveLine s).1) && !isContinued (cutDirectiveLine s).1 then
        some (directiveMatch s move)
      else none := by
  have hguard (rest : List Char) : Guard.unescapedFinalNewline.admits before
      (s.takeWhile isBlank ++ (cutDirectiveLine s).1) rest =
        !isContinued (cutDirectiveLine s).1 := by
    rw [← isContinued_append_blanks blank_of_mem_takeWhile]
    rfl
  simp only [Rule.atLineStart, Rule.guarded, if_pos hline, cutConditional?_eq hwords]
  cases words.any (opensWith · (cutDirectiveLine s).1) with
  | false => rfl
  | true =>
      simp only [if_true, Option.filter_some, hguard, Bool.true_and]
      split <;> rfl

/-- A `#if` opens an inner block, unless a backslash continues it. -/
theorem find?_nestedStart (hline : atLineStart before = true) (s : List Char) :
    Rule.nestedStart.find? before s =
      if opensWith "if" (cutDirectiveLine s).1 && !isContinued (cutDirectiveLine s).1 then
        some (directiveMatch s (.push .disabled))
      else none := by
  have hwords : ∀ word ∈ ["if"], '\n' ∉ word.toList := by decide
  have hfind := find?_guardedConditional hline hwords (.push .disabled) s
  rw [List.any_cons, List.any_nil, Bool.or_false] at hfind
  exact hfind

theorem find?_otherBranch (hline : atLineStart before = true) (s : List Char) :
    Rule.otherBranch.find? before s =
      if opensWith "else" (cutDirectiveLine s).1 || opensWith "elif" (cutDirectiveLine s).1 then
        some (directiveMatch s .pop)
      else none := by
  have hwords : ∀ word ∈ ["else", "elif"], '\n' ∉ word.toList := by decide
  have hfind := find?_conditional hline hwords .pop s
  rw [List.any_cons, List.any_cons, List.any_nil, Bool.or_false] at hfind
  exact hfind

theorem find?_disabledEnd (hline : atLineStart before = true) (s : List Char) :
    Rule.disabledEnd.find? before s =
      if opensWith "endif" (cutDirectiveLine s).1 && !isContinued (cutDirectiveLine s).1 then
        some (directiveMatch s .pop)
      else none := by
  have hwords : ∀ word ∈ ["endif"], '\n' ∉ word.toList := by decide
  have hfind := find?_guardedConditional hline hwords .pop s
  rw [List.any_cons, List.any_nil, Bool.or_false] at hfind
  exact hfind

/-! ## Lines that a match takes -/

/-- The blanks in front of a directive make up lines without an effect, and the
indentation of its own. -/
theorem exists_lines_eq (h : s.dropWhile isBlank ≠ []) :
    ∃ added lead, (∀ a ∈ added, lineEffect a = 0) ∧
      lineEffect (lead ++ (cutDirectiveLine s).1) = lineEffect (cutDirectiveLine s).1 ∧
      lines s = added ++ (lead ++ (cutDirectiveLine s).1) :: lines (cutDirectiveLine s).2 := by
  obtain ⟨added, lead, hblanks, hlines⟩ := lines_append (s.takeWhile isBlank) h
  rw [List.takeWhile_append_dropWhile] at hlines
  have hblank : ∀ c ∈ added.flatten ++ lead, isBlank c = true := by
    rw [← hblanks]
    exact blank_of_mem_takeWhile
  obtain ⟨hadded, hlead⟩ := List.forall_mem_append.mp hblank
  refine ⟨added, lead, fun a ha => lineEffect_of_blanks fun c hc => ?_,
    lineEffect_append_blanks hlead _, hlines⟩
  exact hadded c (List.mem_flatten.mpr ⟨a, ha, hc⟩)

/-- Where the line behind the blanks has no effect, the first line has none. -/
theorem lineEffect_cutLine (h : lineEffect (cutDirectiveLine s).1 = 0) :
    lineEffect (cutLine s).1 = 0 := by
  by_cases hs : s.dropWhile isBlank = []
  · have hblank := List.takeWhile_append_dropWhile (p := isBlank) (l := s)
    rw [hs, List.append_nil] at hblank
    refine lineEffect_of_blanks fun c hc => blank_of_mem_takeWhile (s := s) c ?_
    rw [hblank]
    exact cutLine_subset s hc
  · obtain ⟨added, lead, hadded, hlead, hlines⟩ := exists_lines_eq hs
    have hne : s ≠ [] := fun hnil => hs (by rw [hnil]; rfl)
    rw [lines_of_ne_nil hne] at hlines
    cases added with
    | nil =>
        obtain ⟨hline, -⟩ := List.cons.inj hlines
        rw [hline, hlead, h]
    | cons a added =>
        obtain ⟨hline, -⟩ := List.cons.inj hlines
        rw [hline]
        exact hadded a List.mem_cons_self

/-! ## The match at the start of a line -/

/-- By how much a move changes the height of the stack of modes. -/
def Move.effect : Move → Int
  | .stay => 0
  | .push _ => 1
  | .pop => -1

/-- The line that disabled mode takes as a comment. -/
def commentMatch (s : List Char) : Match :=
  .plain (lexemeOf .comment (cutLine s).1) (cutLine s).2 .stay

/-- A line with an effect is found as a directive, which moves the stack by that
effect; where there is none, a single line is taken as a comment. -/
theorem match?_of_disabled {c : Cursor} (hmode : c.mode = .disabled)
    (hline : atLineStart c.before = true) (hrest : c.rest ≠ []) :
    (lineEffect (cutDirectiveLine c.rest).1 ≠ 0 ∧
        ∃ move ∈ Mode.disabled.moves, move.effect = lineEffect (cutDirectiveLine c.rest).1 ∧
          c.match? = some (directiveMatch c.rest move)) ∨
      (lineEffect (cutDirectiveLine c.rest).1 = 0 ∧ c.match? = some (commentMatch c.rest)) := by
  have hadv {word : String} (move : Move)
      (hopens : opensWith word (cutDirectiveLine c.rest).1 = true) :
      c.advancesBy (directiveMatch c.rest move) = true := by
    have hne : (cutDirectiveLine c.rest).1 ≠ [] := by
      intro hnil
      rw [hnil] at hopens
      cases hopens
    exact Cursor.advancesBy_of_text_ne_nil (by simp [directiveMatch, Match.plain, Match.text, hne])
  have hcomment : c.firstMatch? [.disabledLine] = some (commentMatch c.rest) := by
    refine Cursor.firstMatch?_of_some [] rfl (Cursor.advancesBy_of_text_ne_nil ?_)
    simp [commentMatch, Match.plain, Match.text, cutLine_ne_nil hrest]
  -- The rules are tried in the order in which `lineEffect` asks its questions.
  rw [Cursor.match?_eq_firstMatch?, hmode, Mode.rules,
    Cursor.firstMatch?_of_ite _ (find?_nestedStart hline c.rest),
    Cursor.firstMatch?_of_ite _ (find?_otherBranch hline c.rest),
    Cursor.firstMatch?_of_ite _ (find?_disabledEnd hline c.rest),
    hcomment]
  · unfold lineEffect
    split
    · exact Or.inl ⟨by decide, .push .disabled, by simp [Mode.moves], rfl, rfl⟩
    split
    · exact Or.inl ⟨by decide, .pop, by simp [Mode.moves], rfl, rfl⟩
    split
    · exact Or.inl ⟨by decide, .pop, by simp [Mode.moves], rfl, rfl⟩
    exact Or.inr ⟨rfl, rfl⟩
  · intro h
    exact hadv _ (Bool.and_eq_true_iff.mp h).1
  · intro h
    rcases Bool.or_eq_true_iff.mp h with h | h
    · exact hadv _ h
    · exact hadv _ h
  · intro h
    exact hadv _ (Bool.and_eq_true_iff.mp h).1

end GaussMarkup
