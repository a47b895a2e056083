import GaussMarkup.Lexer.Rules
import GaussMarkup.Proofs.Lexer.Scanning
import GaussMarkup.Proofs.Text.LetterCase

/-!
# Scanners and the case of letters

What a scanner takes of a text in lower case is what it takes of the text, in
lower case. Elementary scanners have this from the classes, words and signs that
they look for: classes hold both cases of a letter or none, words are compared
folded, and signs are no letters. It goes over to all that is put together from
them; a scanner that is written with the characters of its mark is first put
together from `cutMark?`.
-/

namespace GaussMarkup

/-- A cut with both parts in lower case. -/
def Cut.lower (x : Cut) : Cut :=
  (GaussMarkup.lower x.1, GaussMarkup.lower x.2)

@[simp] theorem Cut.fst_lower (x : Cut) : (Cut.lower x).1 = GaussMarkup.lower x.1 := rfl

@[simp] theorem Cut.snd_lower (x : Cut) : (Cut.lower x).2 = GaussMarkup.lower x.2 := rfl

/-! ## Elementary scanners -/

@[simp] theorem cutRun?_lower {p : Char → Bool} (hp : ∀ c, p c.toLower = p c) (s : List Char) :
    cutRun? p (lower s) = (cutRun? p s).map Cut.lower := by
  simp only [cutRun?, takeWhile_lower hp, dropWhile_lower hp, lower_eq_nil_iff]
  split <;> rfl

@[simp] theorem cutWord?_lower (word s : List Char) :
    cutWord? word (lower s) = (cutWord? word s).map Cut.lower := by
  induction word generalizing s with
  | nil => rfl
  | cons w word ih =>
      cases s with
      | nil => rfl
      | cons c s =>
          simp only [lower_cons, cutWord?, fold_toLower, ih]
          split
          · simp [Cut.lower, Function.comp_def]
          · rfl

@[simp] theorem cutOne?_lower {p : Char → Bool} (hp : ∀ c, p c.toLower = p c) (s : List Char) :
    cutOne? p (lower s) = (cutOne? p s).map Cut.lower := by
  cases s with
  | nil => rfl
  | cons c s =>
      simp only [lower_cons, cutOne?, hp]
      split <;> rfl

@[simp] theorem cutOptional_lower {d : Char} (hd : d.isAlpha = false) (s : List Char) :
    cutOptional d (lower s) = Cut.lower (cutOptional d s) := by
  cases s with
  | nil => rfl
  | cons c s =>
      simp only [lower_cons, cutOptional, toLower_eq_iff hd]
      split <;> rfl

@[simp] theorem cutName?_lower (s : List Char) :
    cutName? (lower s) = (cutName? s).map Cut.lower := by
  cases s with
  | nil => rfl
  | cons c s =>
      simp only [lower_cons, cutName?, isNameStart_toLower, takeWhile_lower isWordChar_toLower,
        dropWhile_lower isWordChar_toLower]
      split <;> rfl

@[simp] theorem cutLine_lower (s : List Char) : cutLine (lower s) = Cut.lower (cutLine s) := by
  induction s with
  | nil => rfl
  | cons c s ih =>
      simp only [lower_cons, cutLine, ih, toLower_eq_iff (d := '\n') (by decide)]
      split <;> rfl

theorem cutThrough?_lower {stop : List Char → Option Cut}
    (h : ∀ s, stop (lower s) = (stop s).map Cut.lower) (s : List Char) :
    cutThrough? stop (lower s) = (cutThrough? stop s).map Cut.lower := by
  induction s with
  | nil => exact h []
  | cons c s ih =>
      have hstop := h (c :: s)
      rw [lower_cons] at hstop ⊢
      simp only [cutThrough?, hstop, ih]
      cases stop (c :: s) with
      | none => simp [Cut.lower, Function.comp_def]
      | some x => rfl

@[simp] theorem cutMark?_lower {mark : List Char} (hmark : Letterless mark)
    (s : List Char) : cutMark? mark (lower s) = (cutMark? mark s).map Cut.lower := by
  simp only [cutMark?, hmark.isPrefixOf_lower]
  split
  · simp [Cut.lower, hmark.lower_eq]
  · rfl

@[simp] theorem cutThrough?_cutMark?_lower {mark : List Char} (hmark : Letterless mark)
    (s : List Char) :
    cutThrough? (cutMark? mark) (lower s) = (cutThrough? (cutMark? mark) s).map Cut.lower :=
  cutThrough?_lower (cutMark?_lower hmark) s

@[simp] theorem restsBehind_lower {mark : List Char} (hmark : Letterless mark)
    (s : List Char) : restsBehind mark (lower s) = (restsBehind mark s).map lower := by
  induction s with
  | nil => rfl
  | cons c s ih =>
      have hdrop : (lower (c :: s)).drop mark.length = lower ((c :: s).drop mark.length) := by
        rw [drop_lower]
      have hprefix := hmark.isPrefixOf_lower (c :: s)
      rw [lower_cons] at hdrop hprefix ⊢
      simp only [restsBehind, hdrop, hprefix, ih, toLower_eq_iff (d := '\n') (by decide)]
      split
      · rfl
      · split <;> rfl

@[simp] theorem cutBefore_lower (rest s : List Char) :
    cutBefore (lower rest) (lower s) = Cut.lower (cutBefore rest s) := by
  simp [cutBefore, Cut.lower]

/-! ## Comments -/

theorem cutMark?_eq_none {mark s : List Char} (h : ∀ t, s ≠ mark ++ t) :
    cutMark? mark s = none := by
  refine Option.eq_none_iff_forall_ne_some.mpr fun x hx => ?_
  exact h x.2 (cutMark?_eq_some.mp hx).2

@[simp] theorem cutBareLine_lower (last : Char) (s : List Char) :
    cutBareLine last.toLower (lower s) = Cut.lower (cutBareLine last s) := by
  induction s generalizing last with
  | nil => rfl
  | cons c s ih =>
      have hlast : last.toLower ≠ '\\' ↔ last ≠ '\\' := not_congr (toLower_eq_iff (by decide) last)
      simp only [lower_cons, cutBareLine, ih, hlast, toLower_eq_iff (d := '\n') (by decide)]
      split <;> rfl

theorem cutLineComment?_eq (s : List Char) :
    cutLineComment? s = (cutMark? ['/', '/'] s).map fun x =>
      (x.1 ++ (cutBareLine '/' x.2).1, (cutBareLine '/' x.2).2) := by
  unfold cutLineComment?
  split
  · rfl
  · next h => rw [cutMark?_eq_none h]; rfl

@[simp] theorem cutLineComment?_lower (s : List Char) :
    cutLineComment? (lower s) = (cutLineComment? s).map Cut.lower := by
  have hline (t : List Char) : cutBareLine '/' (lower t) = Cut.lower (cutBareLine '/' t) :=
    cutBareLine_lower '/' t
  simp [cutLineComment?_eq, hline, Cut.lower, Function.comp_def]

theorem cutBlockStart?_eq (s : List Char) :
    cutBlockStart? s = (cutMark? ['/', '*'] s).or (cutMark? ['/', '\\', '\n', '*'] s) := by
  unfold cutBlockStart?
  split
  · rfl
  · rfl
  · next hshort hlong => rw [cutMark?_eq_none hshort, cutMark?_eq_none hlong]; rfl

theorem cutBlockEnd?_eq (s : List Char) :
    cutBlockEnd? s = (cutMark? ['*', '/'] s).or (cutMark? ['*', '\\', '\n', '/'] s) := by
  unfold cutBlockEnd?
  split
  · rfl
  · rfl
  · next hshort hlong => rw [cutMark?_eq_none hshort, cutMark?_eq_none hlong]; rfl

@[simp] theorem cutBlockStart?_lower (s : List Char) :
    cutBlockStart? (lower s) = (cutBlockStart? s).map Cut.lower := by
  simp [cutBlockStart?_eq, Option.map_or]

@[simp] theorem cutBlockEnd?_lower (s : List Char) :
    cutBlockEnd? (lower s) = (cutBlockEnd? s).map Cut.lower := by
  simp [cutBlockEnd?_eq, Option.map_or]

@[simp] theorem cutBlockComment?_lower (s : List Char) :
    cutBlockComment? (lower s) = (cutBlockComment? s).map Cut.lower := by
  simp only [cutBlockComment?, cutBlockStart?_lower, Option.map_map]
  refine Option.map_congr fun x _ => ?_
  simp only [Function.comp_apply, Cut.snd_lower, cutThrough?_lower cutBlockEnd?_lower]
  cases cutThrough? cutBlockEnd? x.2 <;> simp [Cut.lower]

theorem cutAtComment?_eq (s : List Char) :
    cutAtComment? s = (cutMark? ['@'] s).bind fun x =>
      (cutThrough? (cutMark? ['@']) x.2).map fun y => (x.1 ++ y.1, y.2) := by
  unfold cutAtComment?
  split
  · rfl
  · next h => rw [cutMark?_eq_none h]; rfl

@[simp] theorem cutAtComment?_lower (s : List Char) :
    cutAtComment? (lower s) = (cutAtComment? s).map Cut.lower := by
  simp [cutAtComment?_eq, Cut.lower, Function.comp_def, Option.bind_map, Option.map_bind]

@[simp] theorem cutContinuation?_lower (s : List Char) :
    cutContinuation? (lower s) = (cutContinuation? s).map Cut.lower :=
  cutMark?_lower (by decide) s

/-! ## Directives -/

theorem restsBehindComment_eq (s : List Char) :
    restsBehindComment s =
      (((cutMark? ['/', '*'] s).map fun x => restsBehind ['*', '/'] x.2).or
        ((cutMark? ['@'] s).map fun x => restsBehind ['@'] x.2)).getD [] := by
  unfold restsBehindComment
  split
  · rfl
  · rfl
  · next hslash hat => rw [cutMark?_eq_none hslash, cutMark?_eq_none hat]; rfl

@[simp] theorem restsBehindComment_lower (s : List Char) :
    restsBehindComment (lower s) = (restsBehindComment s).map lower := by
  simp (disch := decide) only [restsBehindComment_eq, cutMark?_lower]
  cases cutMark? ['/', '*'] s with
  | some x => simp
  | none => cases cutMark? ['@'] s <;> simp

@[simp] theorem restsBehindLead_lower (s : List Char) :
    restsBehindLead (lower s) = (restsBehindLead s).map lower := by
  simp [restsBehindLead, dropWhile_lower, Function.comp_def]

@[simp] theorem cutDisabledStart?_lower (s : List Char) :
    cutDisabledStart? (lower s) = (cutDisabledStart? s).map Cut.lower := by
  simp [cutDisabledStart?, Cut.lower, Function.comp_def, Option.bind_map, Option.map_bind]

theorem cutInlineComment?_eq (s : List Char) :
    cutInlineComment? s = (cutMark? ['/', '*'] s).bind fun x =>
      (cutThrough? (cutMark? ['*', '/']) x.2).map fun y => (x.1 ++ y.1, y.2) := by
  unfold cutInlineComment?
  split
  · rfl
  · next h => rw [cutMark?_eq_none h]; rfl

@[simp] theorem cutInlineComment?_lower (s : List Char) :
    cutInlineComment? (lower s) = (cutInlineComment? s).map Cut.lower := by
  simp [cutInlineComment?_eq, Cut.lower, Function.comp_def, Option.bind_map, Option.map_bind]

theorem cutClosingComment?_eq (s : List Char) :
    cutClosingComment? s = (cutMark? ['/', '/'] s).map fun x =>
      (x.1 ++ (cutLine x.2).1, (cutLine x.2).2) := by
  unfold cutClosingComment?
  split
  · rfl
  · next h => rw [cutMark?_eq_none h]; rfl

@[simp] theorem cutClosingComment?_lower (s : List Char) :
    cutClosingComment? (lower s) = (cutClosingComment? s).map Cut.lower := by
  simp [cutClosingComment?_eq, Cut.lower, Function.comp_def]

@[simp] theorem cutConditional?_lower (words : List String) (s : List Char) :
    cutConditional? words (lower s) = (cutConditional? words s).map Cut.lower := by
  simp [cutConditional?, Cut.lower, Function.comp_def, dropWhile_lower, takeWhile_lower]

@[simp] theorem giveBack?_lower (lead : Cut) :
    giveBack? (Cut.lower lead) = (giveBack? lead).map Cut.lower := by
  have hline : ∀ c : Char, (c.toLower == '\n') = (c == '\n') :=
    toLower_congr (f := (· == '\n')) (by decide)
  simp only [giveBack?, Cut.snd_lower, Cut.fst_lower, lower_eq_nil_iff, reverse_lower,
    dropWhile_lower (p := (· == '\n')) hline, takeWhile_lower (p := (· == '\n')) hline]
  split
  · cases lead.1.reverse.dropWhile (· == '\n') with
    | nil => rfl
    | cons c front =>
        simp only [lower_cons, isBlank_toLower]
        split <;> simp [Cut.lower]
  · rfl

/-! ## Numbers -/

@[simp] theorem cutSign_lower (s : List Char) : cutSign (lower s) = Cut.lower (cutSign s) := by
  cases s with
  | nil => rfl
  | cons c s =>
      simp only [lower_cons, cutSign, toLower_eq_iff (d := '+') (by decide),
        toLower_eq_iff (d := '-') (by decide)]
      split <;> rfl

@[simp] theorem cutExponent?_lower (s : List Char) :
    cutExponent? (lower s) = (cutExponent? s).map Cut.lower := by
  cases s with
  | nil => rfl
  | cons c s =>
      have hmark : (c.toLower = 'e' ∨ c.toLower = 'E') ↔ (c = 'e' ∨ c = 'E') :=
        decide_eq_decide.mp (toLower_congr (f := fun c => decide (c = 'e' ∨ c = 'E')) (by decide) c)
      simp only [lower_cons, cutExponent?, hmark]
      split
      · simp [Cut.lower, Function.comp_def]
      · rfl

theorem cutMantissa?_eq (s : List Char) :
    cutMantissa? s =
      match cutMark? ['.'] (s.dropWhile isDigit) with
      | some x =>
        if s.takeWhile isDigit = [] then (cutRun? isDigit x.2).map fun y => (x.1 ++ y.1, y.2)
        else some (s.takeWhile isDigit ++ x.1 ++ x.2.takeWhile isDigit, x.2.dropWhile isDigit)
      | none => cutRun? isDigit s := by
  have hdot (t : List Char) : cutMark? ['.'] ('.' :: t) = some (['.'], t) :=
    cutMark?_eq_some.mpr ⟨rfl, rfl⟩
  unfold cutMantissa?
  split
  · next t hd ht => simp [hd, ht, hdot]
  · next hd ht => rw [cutMark?_eq_none ht]; simp [cutRun?, hd]
  · next d ds t hd ht => simp [hd, ht, hdot]
  · next hd ht => rw [cutMark?_eq_none ht]; simp [cutRun?, hd]

@[simp] theorem cutMantissa?_lower (s : List Char) :
    cutMantissa? (lower s) = (cutMantissa? s).map Cut.lower := by
  simp (disch := decide) only [cutMantissa?_eq, dropWhile_lower isDigit_toLower,
    takeWhile_lower isDigit_toLower, cutMark?_lower, lower_eq_nil_iff]
  cases cutMark? ['.'] (s.dropWhile isDigit) with
  | none => simp
  | some x =>
      simp only [Option.map_some, Cut.fst_lower, Cut.snd_lower, cutRun?_lower isDigit_toLower,
        takeWhile_lower isDigit_toLower, dropWhile_lower isDigit_toLower]
      split
      · simp [Cut.lower, Function.comp_def]
      · simp [Cut.lower]

@[simp] theorem cutHex?_lower (s : List Char) :
    cutHex? (lower s) = (cutHex? s).map Cut.lower := by
  simp [cutHex?, Cut.lower, Function.comp_def, Option.bind_map, Option.map_bind]

@[simp] theorem cutScientific?_lower (s : List Char) :
    cutScientific? (lower s) = (cutScientific? s).map Cut.lower := by
  simp [cutScientific?, Cut.lower, Function.comp_def, Option.bind_map, Option.map_bind]

@[simp] theorem cutSigned?_lower (s : List Char) :
    cutSigned? (lower s) = (cutSigned? s).map Cut.lower := by
  simp only [cutSigned?, cutOptional_lower (d := '-') (by decide), Cut.snd_lower,
    cutMantissa?_lower, Option.map_map]
  refine Option.map_congr fun x _ => ?_
  simp only [Function.comp_apply, Cut.snd_lower, cutExponent?_lower]
  cases cutExponent? x.2 <;> simp [Cut.lower]

/-! ## Operators -/

@[simp] theorem cutListed?_lower (words : List String) (s : List Char) :
    cutListed? words (lower s) = (cutListed? words s).map Cut.lower := by
  simp only [cutListed?, takeWhile_lower isWordChar_toLower, dropWhile_lower isWordChar_toLower,
    map_fold_lower]
  split <;> rfl

@[simp] theorem cutComparisonWord?_lower (s : List Char) :
    cutComparisonWord? (lower s) = (cutComparisonWord? s).map Cut.lower := by
  simp [cutComparisonWord?, Cut.lower, Function.comp_def]

@[simp] theorem cutLogicalWord?_lower (s : List Char) :
    cutLogicalWord? (lower s) = (cutLogicalWord? s).map Cut.lower := by
  simp [cutLogicalWord?, Cut.lower, Function.comp_def]

theorem cutComparisonSign?_cons (c : Char) (s : List Char) :
    cutComparisonSign? (c :: s) =
      match cutMark? ['='] s with
      | some x =>
        if c = '~' ∨ c = '/' ∨ c = '=' ∨ c = '!' ∨ c = '<' ∨ c = '>' then some (c :: x.1, x.2)
        else none
      | none => if c = '<' ∨ c = '>' then some ([c], s) else none := by
  unfold cutComparisonSign?
  split
  · next heq =>
    obtain ⟨rfl, rfl⟩ := List.cons.inj heq
    rfl
  · next h heq =>
    obtain ⟨rfl, rfl⟩ := List.cons.inj heq
    rw [cutMark?_eq_none h]
  · next heq => cases heq

@[simp] theorem cutComparisonSign?_lower (s : List Char) :
    cutComparisonSign? (lower s) = (cutComparisonSign? s).map Cut.lower := by
  cases s with
  | nil => rfl
  | cons c s =>
      simp (disch := decide) only [lower_cons, cutComparisonSign?_cons, toLower_eq_iff,
        cutMark?_lower]
      cases cutMark? ['='] s with
      | none =>
          simp only [Option.map_none]
          split <;> rfl
      | some x =>
          simp only [Option.map_some]
          split <;> rfl

@[simp] theorem cutComparison?_lower (s : List Char) :
    cutComparison? (lower s) = (cutComparison? s).map Cut.lower := by
  simp [cutComparison?, Cut.lower, Function.comp_def]

@[simp] theorem cutStringSign?_lower (s : List Char) :
    cutStringSign? (lower s) = (cutStringSign? s).map Cut.lower := by
  have hsign : ∀ c : Char, isStringSign c.toLower = isStringSign c := toLower_congr (by decide)
  simp [cutStringSign?, Cut.lower, Function.comp_def, hsign]

@[simp] theorem cutProduct?_lower (s : List Char) :
    cutProduct? (lower s) = (cutProduct? s).map Cut.lower := by
  simp [cutProduct?, Cut.lower, Function.comp_def]

@[simp] theorem cutDotted?_lower (s : List Char) :
    cutDotted? (lower s) = (cutDotted? s).map Cut.lower := by
  have hsign : ∀ c : Char, isDottedSign c.toLower = isDottedSign c := toLower_congr (by decide)
  simp [cutDotted?, Cut.lower, Function.comp_def, hsign]

/-! ## Strings -/

theorem cutBetween?_lower {p : Char → Bool} (hp : ∀ c, p c.toLower = p c) (least most : Nat)
    (s : List Char) :
    cutBetween? p least most (lower s) = (cutBetween? p least most s).map Cut.lower := by
  simp only [cutBetween?, take_lower, takeWhile_lower hp, length_lower, drop_lower]
  split <;> rfl

@[simp] theorem cutEscapeBody?_lower (s : List Char) :
    cutEscapeBody? (lower s) = (cutEscapeBody? s).map Cut.lower := by
  cases s with
  | nil => rfl
  | cons c s =>
      have hchar : isEscapeChar c.toLower = isEscapeChar c := toLower_congr (by decide) c
      have hoctal := cutBetween?_lower isOctalDigit_toLower 1 3 (c :: s)
      rw [lower_cons] at hoctal ⊢
      simp only [cutEscapeBody?, hchar, fold_toLower, hoctal, cutBetween?_lower isHexDigit_toLower]
      split
      · rfl
      · split
        · simp [Cut.lower, Function.comp_def]
        · split
          · simp [Cut.lower, Function.comp_def]
          · rfl

theorem cutEscape?_eq (s : List Char) :
    cutEscape? s = (cutMark? ['\\'] s).bind fun x =>
      (cutEscapeBody? x.2).map fun y => (x.1 ++ y.1, y.2) := by
  unfold cutEscape?
  split
  · rfl
  · next h => rw [cutMark?_eq_none h]; rfl

@[simp] theorem cutEscape?_lower (s : List Char) :
    cutEscape? (lower s) = (cutEscape? s).map Cut.lower := by
  simp [cutEscape?_eq, Cut.lower, Function.comp_def, Option.bind_map, Option.map_bind]

/-! ## Words -/

@[simp] theorem cutListedName?_lower (words : List String) (s : List Char) :
    cutListedName? words (lower s) = (cutListedName? words s).map Cut.lower := by
  simp [cutListedName?, Option.filter_map, Function.comp_def]

@[simp] theorem cutMemberSign?_lower (s : List Char) :
    cutMemberSign? (lower s) = (cutMemberSign? s).map Cut.lower := by
  simp [cutMemberSign?, Option.map_or]

end GaussMarkup
