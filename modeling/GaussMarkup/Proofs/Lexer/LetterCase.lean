import GaussMarkup.Proofs.Lexer.CaseScanning
import GaussMarkup.Proofs.Lexer.Matches
import GaussMarkup.Proofs.Lexer.Run

/-!
# Lexing does not depend on case

What the rules of each mode find in a text in lower case is what they find in the
text, in lower case (`Mode.ignoresCase`). So it is with a step, if it is with the
embedded text of the step, and by induction with the whole run from a cursor
(`Cursor.steps_lower`). Kinds, sizes and stacks are the same in lower case. As
texts that differ in the case of letters only are the same text in lower case,
their tokens differ in the case of letters only.
-/

namespace GaussMarkup

/-! ## Guards -/

/-- The character that a guard looks for. -/
def Guard.sign? : Guard → Option Char
  | notFollowedBy c | precededBy c => some c
  | unescapedFinalNewline | boundaryBeforeDigit => none

theorem dropFinalNewline_lower (s : List Char) :
    dropFinalNewline (lower s) = lower (dropFinalNewline s) := by
  simp only [dropFinalNewline, getLast?_lower, map_toLower_eq_some_iff (d := '\n') (by decide),
    dropLast_lower]
  split <;> rfl

theorem Guard.admits_lower {guard : Guard} (h : Letterless guard.sign?.toList)
    (before : Option Char) (taken rest : List Char) :
    guard.admits (before.map Char.toLower) (lower taken) (lower rest) =
      guard.admits before taken rest := by
  have hsign {d : Char} (hd : d.isAlpha = false) (o : Option Char) :
      (o.map Char.toLower == some d) = (o == some d) := by
    rw [Bool.eq_iff_iff, beq_iff_eq, beq_iff_eq, map_toLower_eq_some_iff hd]
  cases guard with
  | notFollowedBy c =>
      have hc : c.isAlpha = false := (letterless_cons.mp h).1
      simp only [admits, head?_lower, bne, hsign hc]
  | precededBy c => exact hsign (letterless_cons.mp h).1 before
  | unescapedFinalNewline =>
      simp only [admits, dropFinalNewline_lower, getLast?_lower, bne, hsign (d := '\\') (by decide)]
  | boundaryBeforeDigit =>
      have hscore (c : Char) : (c.toLower == '_') = (c == '_') :=
        toLower_congr (f := (· == '_')) (by decide) c
      cases taken with
      | nil => rfl
      | cons d taken => cases before <;> simp [admits, hscore]

/-! ## Matches -/

def Lexeme.lower (l : Lexeme) : Lexeme :=
  ⟨l.kind, GaussMarkup.lower l.text⟩

theorem textOf_lower (ls : List Lexeme) : textOf (ls.map Lexeme.lower) = lower (textOf ls) := by
  induction ls with
  | nil => rfl
  | cons l ls ih => simp [Lexeme.lower, ih]

@[simp] theorem lexemeOf_lower (kind : Kind) (text : List Char) :
    lexemeOf kind (lower text) = (lexemeOf kind text).map Lexeme.lower := by
  simp only [lexemeOf, lower_eq_nil_iff]
  split <;> rfl

/-- A match in a text in lower case. -/
def Match.lower (m : Match) : Match :=
  ⟨m.front.map Lexeme.lower, GaussMarkup.lower m.inner, m.back.map Lexeme.lower,
    GaussMarkup.lower m.rest, m.move⟩

@[simp] theorem Match.lower_plain (ls : List Lexeme) (rest : List Char) (move : Move) :
    (Match.plain ls rest move).lower = .plain (ls.map Lexeme.lower) (GaussMarkup.lower rest) move :=
  rfl

theorem Match.text_lower (m : Match) : m.lower.text = GaussMarkup.lower m.text := by
  simp [Match.text, Match.lower, textOf_lower]

/-- The lead of a directive is chosen by what stands behind it, so this needs all
leads and not only the one that is taken. -/
theorem findDirective?_lower {start : List Char → Option Cut}
    (h : ∀ s, start (lower s) = (start s).map Cut.lower) (mode : Mode) (s : List Char) :
    findDirective? start mode (lower s) = (findDirective? start mode s).map Match.lower := by
  simp only [findDirective?, restsBehindLead_lower, List.findSome?_map, List.map_findSome?]
  congr 1
  funext rest
  simp only [Function.comp_apply, h]
  cases start rest with
  | none => rfl
  | some x =>
      simp only [Option.map_some, Option.bind_some, Cut.fst_lower, lower_eq_nil_iff]
      split
      · rfl
      · simp [Match.lower, Lexeme.lower]

@[simp] theorem findInclude?_lower (s : List Char) :
    findInclude? (lower s) = (findInclude? s).map Match.lower := by
  have hline : ∀ c : Char, (c.toLower != '\n') = (c != '\n') :=
    toLower_congr (f := (· != '\n')) (by decide)
  have hlead (t : List Char) :
      ((restsBehindLead (lower t)).findSome? fun rest => giveBack? (cutBefore rest (lower t))) =
        ((restsBehindLead t).findSome? fun rest => giveBack? (cutBefore rest t)).map Cut.lower := by
    rw [restsBehindLead_lower, List.findSome?_map, List.map_findSome?]
    congr 1
    funext rest
    simp
  simp only [findInclude?, cutWord?_lower, Option.bind_map, Option.map_bind]
  congr 1
  funext word
  simp only [Function.comp_apply, Cut.snd_lower, hlead, Option.map_map]
  refine Option.map_congr fun lead _ => ?_
  simp [takeWhile_lower (p := (· != '\n')) hline, dropWhile_lower (p := (· != '\n')) hline]

@[simp] theorem findHeader?_lower (words : List String) (kind : Kind) (s : List Char) :
    findHeader? words kind (lower s) = (findHeader? words kind s).map Match.lower := by
  simp [findHeader?, Option.bind_map, Option.map_bind, Function.comp_def, Lexeme.lower]

@[simp] theorem findFunctionHeader?_lower (s : List Char) :
    findFunctionHeader? (lower s) = (findFunctionHeader? s).map Match.lower := by
  have hsign : ∀ c : Char, (c.toLower != '=') = (c != '=') :=
    toLower_congr (f := (· != '=')) (by decide)
  simp [findFunctionHeader?, Option.bind_map, Option.map_bind, Function.comp_def, Lexeme.lower,
    Match.lower, takeWhile_lower (p := (· != '=')) hsign, dropWhile_lower (p := (· != '=')) hsign]

@[simp] theorem findCall?_lower (s : List Char) :
    findCall? (lower s) = (findCall? s).map Match.lower := by
  simp [findCall?, Option.bind_map, Option.map_bind, Function.comp_def, Lexeme.lower,
    takeWhile_lower, dropWhile_lower]

@[simp] theorem findLabel?_lower (before : Option Char) (s : List Char) :
    findLabel? (before.map Char.toLower) (lower s) = (findLabel? before s).map Match.lower := by
  have hguard (taken rest : List Char) :
      (Guard.notFollowedBy ':').admits (before.map Char.toLower) (lower taken) (lower rest) =
        (Guard.notFollowedBy ':').admits before taken rest :=
    Guard.admits_lower (by decide) before taken rest
  simp [findLabel?, Option.bind_map, Option.map_bind, Option.filter_map, Function.comp_def,
    Lexeme.lower, ← lower_append, hguard]

@[simp] theorem findMemberAccess?_lower (s : List Char) :
    findMemberAccess? (lower s) = (findMemberAccess? s).map Match.lower := by
  simp [findMemberAccess?, Option.bind_map, Option.map_bind, Function.comp_def, Lexeme.lower]

@[simp] theorem findMemberLink?_lower (s : List Char) :
    findMemberLink? (lower s) = (findMemberLink? s).map Match.lower := by
  simp [findMemberLink?, Option.bind_map, Option.map_bind, Function.comp_def, Lexeme.lower]

/-! ## Rules -/

/-- What a rule finds does not depend on case. -/
def IgnoresCase (find? : Option Char → List Char → Option Match) : Prop :=
  ∀ before s, find? (before.map Char.toLower) (lower s) = (find? before s).map Match.lower

namespace IgnoresCase

section

variable {kind : Kind} {move : Move} {scan : List Char → Option Cut}
  (hscan : ∀ s, scan (lower s) = (scan s).map Cut.lower)
include hscan

theorem one : IgnoresCase fun _ s =>
    (scan s).map fun x => .plain (lexemeOf kind x.1) x.2 move := by
  intro before s
  simp [hscan, Function.comp_def]

theorem guarded {guard : Guard} (hguard : Letterless guard.sign?.toList) :
    IgnoresCase fun before s => ((scan s).filter fun x => guard.admits before x.1 x.2).map
      fun x => .plain (lexemeOf kind x.1) x.2 move := by
  intro before s
  simp [hscan, Option.filter_map, Function.comp_def, Guard.admits_lower hguard]

end

theorem atLineStart {rule : Rule} (h : IgnoresCase rule.find?) :
    IgnoresCase rule.atLineStart.find? := by
  intro before s
  have hline : GaussMarkup.atLineStart (before.map Char.toLower) =
      GaussMarkup.atLineStart before := by
    cases before with
    | none => rfl
    | some c =>
        have hc := toLower_eq_iff (d := '\n') (by decide) c
        simp [GaussMarkup.atLineStart, hc]
  simp only [Rule.atLineStart, hline, h before s]
  split <;> rfl

theorem disabledLine : IgnoresCase Rule.disabledLine.find? := by
  intro before s
  simp [Rule.disabledLine, Rule.one]

end IgnoresCase

/-- One entry for each rule, in the order of `Mode.rules`. -/
theorem Mode.ignoresCase {mode : Mode} : ∀ rule ∈ mode.rules, IgnoresCase rule.find? := by
  cases mode <;>
    simp only [Mode.rules, List.forall_mem_cons, List.not_mem_nil, false_implies, implies_true,
      and_true]
  case root =>
    exact ⟨.atLineStart fun _ => findDirective?_lower cutDisabledStart?_lower _,
      .atLineStart fun _ => findDirective?_lower (cutMark?_lower (by decide)) _,
      .one (cutMark?_lower (by decide)), .one (cutRun?_lower isBlank_toLower),
      .one cutContinuation?_lower, .one cutLineComment?_lower, .one cutBlockComment?_lower,
      .one cutAtComment?_lower, .one (cutMark?_lower (by decide)), .one cutHex?_lower,
      .one cutScientific?_lower, .guarded cutSigned?_lower (by decide),
      .one (cutRun?_lower isDigit_toLower), .one (cutMark?_lower (by decide)),
      .one cutComparisonWord?_lower, .one cutLogicalWord?_lower, .one cutComparison?_lower,
      .one cutStringSign?_lower, .one cutProduct?_lower, .one cutDotted?_lower,
      .one (cutOne?_lower (toLower_congr (by decide))),
      .one (cutOne?_lower (toLower_congr (by decide))), fun _ => findHeader?_lower _ _,
      fun _ => findHeader?_lower _ _, fun _ => findFunctionHeader?_lower,
      .one (cutListedName?_lower _), .one (cutListedName?_lower _), .one (cutListedName?_lower _),
      fun _ => findCall?_lower, .atLineStart findLabel?_lower, fun _ => findMemberAccess?_lower,
      .one cutName?_lower, .one (cutOne?_lower (toLower_congr (f := (· != '\n')) (by decide)))⟩
  case string =>
    exact ⟨.one (cutMark?_lower (by decide)), .one cutEscape?_lower,
      .one (cutRun?_lower (toLower_congr (f := fun c => c != '\\' && c != '"') (by decide))),
      .one cutContinuation?_lower, .one (cutMark?_lower (by decide))⟩
  case member => exact ⟨fun _ => findMemberLink?_lower, fun _ _ => rfl⟩
  case directive =>
    exact ⟨fun _ => findInclude?_lower,
      .one (cutRun?_lower (toLower_congr (f := fun c => c != '/' && c != '\n') (by decide))),
      .one cutInlineComment?_lower, .one cutClosingComment?_lower,
      .one (cutMark?_lower (by decide)), .guarded (cutMark?_lower (by decide)) (by decide),
      .one (cutMark?_lower (by decide))⟩
  case disabled =>
    exact ⟨.atLineStart (.guarded (cutConditional?_lower _) (by decide)),
      .atLineStart (.one (cutConditional?_lower _)),
      .atLineStart (.guarded (cutConditional?_lower _) (by decide)),
      .disabledLine⟩

/-! ## Steps -/

namespace Cursor

/-- The cursor at the same place of the text in lower case. -/
def lower (c : Cursor) : Cursor :=
  ⟨c.before.map Char.toLower, c.stack, GaussMarkup.lower c.rest⟩

theorem lower_start (s : List Char) : (start s).lower = start (GaussMarkup.lower s) := rfl

theorem match?_lower (c : Cursor) : c.lower.match? = c.match?.map Match.lower := by
  have hadvances (m : Match) : c.lower.advancesBy m.lower = c.advancesBy m := by
    simp only [advancesBy, Match.isEmpty, Match.text_lower, isEmpty_lower]
    rfl
  rw [match?, match?, List.map_findSome?]
  refine findSome?_congr fun rule hrule => ?_
  have hfind : rule.find? c.lower.before c.lower.rest =
      (rule.find? c.before c.rest).map Match.lower :=
    Mode.ignoresCase rule hrule c.before c.rest
  simp only [hfind, Option.filter_map, Function.comp_def, hadvances]

theorem behind_lower (c : Cursor) (m : Match) : c.lower.behind m.lower = (c.behind m).lower := by
  simp only [behind, lastTaken, Match.text_lower, getLast?_lower, lower, ← Option.map_or]
  rfl

theorem behindChar_lower (c : Cursor) (ch : Char) (rest : List Char) :
    c.lower.behindChar ch.toLower (GaussMarkup.lower rest) = (c.behindChar ch rest).lower := by
  simp only [behindChar, lower, toLower_eq_iff (d := '\n') (by decide)]
  rfl

end Cursor

def Step.lower (st : Step) : Step :=
  ⟨st.lexemes.map Lexeme.lower, st.next.lower⟩

namespace Cursor

theorem step?_lower {c : Cursor}
    (hinner : ∀ m, c.rest ≠ [] → c.match? = some m →
      GaussMarkup.lexemes (GaussMarkup.lower m.inner) =
        (GaussMarkup.lexemes m.inner).map Lexeme.lower) :
    c.lower.step? = c.step?.map Step.lower := by
  cases hrest : c.rest with
  | nil =>
      have hlower : c.lower.rest = [] := by simp [lower, hrest]
      rw [step?_of_nil hrest, step?_of_nil hlower]
      rfl
  | cons ch rest =>
      have hlower : c.lower.rest = ch.toLower :: GaussMarkup.lower rest := by simp [lower, hrest]
      have hmatch := match?_lower c
      cases hm : c.match? with
      | none =>
          rw [hm] at hmatch
          simp [step?, hrest, hlower, hm, hmatch, Step.lower, Lexeme.lower, behindChar_lower]
      | some m =>
          rw [hm] at hmatch
          have hyield : m.lower.yield = m.yield.map Lexeme.lower := by
            have hm' := hinner m (by simp [hrest]) hm
            simp only [Match.yield, Match.lower, hm', List.map_append]
          simp [step?, hrest, hlower, hm, hmatch, Step.lower, behind_lower, hyield]

theorem steps_lower (c : Cursor) : c.lower.steps = c.steps.map Step.lower := by
  induction c using step_induction with
  | h c inner next =>
      have hstep : c.lower.step? = c.step?.map Step.lower := by
        refine step?_lower fun m hne hm => ?_
        have hsteps := inner m hne hm
        rw [lower_start] at hsteps
        simp only [GaussMarkup.lexemes, lexemes, hsteps, List.flatMap_map, List.map_flatMap]
        rfl
      cases hst : c.step? with
      | none =>
          rw [hst] at hstep
          rw [steps_of_nil (step?_eq_none.mp hst), steps_of_nil (step?_eq_none.mp hstep)]
          rfl
      | some st =>
          rw [hst] at hstep
          rw [steps_of_step? hst, steps_of_step? hstep, List.map_cons, ← next st hst]
          rfl

end Cursor

/-! ## Whole sources -/

theorem lexemes_lower (s : List Char) : lexemes (lower s) = (lexemes s).map Lexeme.lower := by
  have hsteps := (Cursor.start s).steps_lower
  rw [Cursor.lower_start] at hsteps
  simp only [lexemes, Cursor.lexemes, hsteps, List.flatMap_map, List.map_flatMap]
  rfl

theorem tokenStacks_lower (s : List Char) : tokenStacks (lower s) = tokenStacks s := by
  have hsteps := (Cursor.start s).steps_lower
  rw [Cursor.lower_start] at hsteps
  simp only [tokenStacks, hsteps, List.flatMap_map, Step.lower, List.map_map]
  rfl

theorem finalStack_lower (s : List Char) : finalStack (lower s) = finalStack s := by
  have hsteps := (Cursor.start s).steps_lower
  rw [Cursor.lower_start] at hsteps
  simp only [finalStack, Cursor.finalStack, hsteps, List.getLast?_map, Option.map_map]
  rfl

/-- The kind of a token and the bytes that it covers. -/
def Token.frame (t : Token) : Kind × Nat × Nat :=
  (t.kind, t.start, t.stop)

theorem map_frame_locate_lower (start : Nat) (ls : List Lexeme) :
    (locate start (ls.map Lexeme.lower)).map Token.frame = (locate start ls).map Token.frame := by
  induction ls generalizing start with
  | nil => rfl
  | cons l ls ih => simp [locate, Lexeme.lower, Token.frame, Token.stop, ih]

/-- **Lexing does not depend on case.** Two sources that differ in the case of
ASCII letters only have the same number of tokens, of the same kinds and with the
same spans. The stack of modes is the same behind each of them and at the end. -/
theorem lexing_ignores_case {s t : List Char} (h : Recased s t) :
    (tokenize s).map Token.frame = (tokenize t).map Token.frame ∧
      tokenStacks s = tokenStacks t ∧ finalStack s = finalStack t := by
  have hframes (u : List Char) :
      (tokenize (lower u)).map Token.frame = (tokenize u).map Token.frame := by
    rw [tokenize, tokenize, lexemes_lower, map_frame_locate_lower]
  refine ⟨?_, ?_, ?_⟩
  · rw [← hframes s, ← hframes t, h.lower_eq]
  · rw [← tokenStacks_lower s, ← tokenStacks_lower t, h.lower_eq]
  · rw [← finalStack_lower s, ← finalStack_lower t, h.lower_eq]

/-- Words, a number in hexadecimal digits and one with an exponent, and the
parameters of a function, which are lexed on their own. -/
theorem lexing_ignores_case_header :
    Recased "Fn f(X) = 0xfF GE 1e5;".toList "fN F(x) = 0XFf ge 1E5;".toList ∧
      (tokenize "Fn f(X) = 0xfF GE 1e5;".toList).map Token.frame =
        (tokenize "fN F(x) = 0XFf ge 1E5;".toList).map Token.frame ∧
      tokenStacks "Fn f(X) = 0xfF GE 1e5;".toList = tokenStacks "fN F(x) = 0XFf ge 1E5;".toList ∧
      finalStack "Fn f(X) = 0xfF GE 1e5;".toList = finalStack "fN F(x) = 0XFf ge 1E5;".toList := by
  have hcase : Recased "Fn f(X) = 0xfF GE 1e5;".toList "fN F(x) = 0XFf ge 1E5;".toList := by
    decide
  exact ⟨hcase, lexing_ignores_case hcase⟩

end GaussMarkup
