import GaussMarkup.Proofs.Lexer.CaseScanning
import GaussMarkup.Proofs.Text.Lines

/-!
# Scanners and texts that are cut off

A text is cut off in front of an equals sign. What does a scanner take of the part
that is left, compared with what it takes of the whole text? A scanner for words,
marks and numbers takes the same of both: it never looks past an equals sign
(`Stops`). Others, as those for comments, may run over the sign. If they do so, they
leave no more than what stands behind it, and if they do not, they take the same of
both texts (`Settles`).

What is put together from scanners that stop is computed with their equations, as it
is for the case of letters. What runs over the sign can only come last in such a
scanner (`Settles.behind`).
-/

namespace GaussMarkup

/-- A cut of a text that is cut off, with the text from the sign on put back. -/
def Cut.extended (r : List Char) (c : Cut) : Cut :=
  (c.1, c.2 ++ '=' :: r)

@[simp] theorem Cut.fst_extended (r : List Char) (c : Cut) : (c.extended r).1 = c.1 := rfl

@[simp] theorem Cut.snd_extended (r : List Char) (c : Cut) :
    (c.extended r).2 = c.2 ++ '=' :: r := rfl

/-- A scanner takes the same of a text that is cut off. -/
def Stops (scan : List Char → Option Cut) : Prop :=
  ∀ x r, scan (x ++ '=' :: r) = (scan x).map (Cut.extended r)

/-- So it does if it leaves the sign. -/
def Settles (scan : List Char → Option Cut) : Prop :=
  ∀ x r, scan (x ++ '=' :: r) = (scan x).map (Cut.extended r) ∨
    ∃ c, scan (x ++ '=' :: r) = some c ∧ c.2.length ≤ r.length

theorem Stops.settles {scan : List Char → Option Cut} (h : Stops scan) : Settles scan :=
  fun x r => Or.inl (h x r)

variable {p : Char → Bool} {mark : List Char} (x r : List Char)

/-! ## Elementary scanners -/

theorem takeWhile_extended (hp : p '=' = false) : (x ++ '=' :: r).takeWhile p = x.takeWhile p := by
  induction x with
  | nil => simp [hp]
  | cons c x ih => simp only [List.cons_append, List.takeWhile_cons, ih]

theorem dropWhile_extended (hp : p '=' = false) :
    (x ++ '=' :: r).dropWhile p = x.dropWhile p ++ '=' :: r := by
  induction x with
  | nil => simp [hp]
  | cons c x ih =>
      simp only [List.cons_append, List.dropWhile_cons, ih]
      split <;> rfl

/-- A run goes on behind the sign only if it takes the whole of the text that is cut
off. -/
theorem takeWhile_extended_cases (p : Char → Bool) :
    ((x ++ '=' :: r).takeWhile p = x.takeWhile p ∧
        (x ++ '=' :: r).dropWhile p = x.dropWhile p ++ '=' :: r) ∨
      (p '=' = true ∧ (x ++ '=' :: r).dropWhile p = r.dropWhile p) := by
  cases hp : p '=' with
  | false => exact Or.inl ⟨takeWhile_extended x r hp, dropWhile_extended x r hp⟩
  | true =>
      by_cases hx : ∀ c ∈ x, p c = true
      · refine Or.inr ⟨rfl, ?_⟩
        rw [List.dropWhile_append_of_pos hx, List.dropWhile_cons_of_pos hp]
      · refine Or.inl ?_
        induction x with
        | nil => exact absurd (List.forall_mem_nil _) hx
        | cons c x ih =>
            rw [List.forall_mem_cons, not_and] at hx
            cases hc : p c with
            | false => simp [hc]
            | true =>
                obtain ⟨htake, hdrop⟩ := ih (hx hc)
                simp [hc, htake, hdrop]

@[simp] theorem cutRun?_extended (hp : p '=' = false) :
    cutRun? p (x ++ '=' :: r) = (cutRun? p x).map (Cut.extended r) := by
  simp only [cutRun?, takeWhile_extended x r hp, dropWhile_extended x r hp]
  split <;> rfl

@[simp] theorem takeWhile_isBlank_extended :
    (x ++ '=' :: r).takeWhile isBlank = x.takeWhile isBlank :=
  takeWhile_extended x r (by decide)

@[simp] theorem dropWhile_isBlank_extended :
    (x ++ '=' :: r).dropWhile isBlank = x.dropWhile isBlank ++ '=' :: r :=
  dropWhile_extended x r (by decide)

@[simp] theorem cutBlanks?_extended :
    cutRun? isBlank (x ++ '=' :: r) = (cutRun? isBlank x).map (Cut.extended r) :=
  cutRun?_extended x r (by decide)

theorem length_dropWhile_le (s : List Char) : (s.dropWhile p).length ≤ s.length :=
  (List.dropWhile_sublist p).length_le

theorem settles_cutRun? (p : Char → Bool) : Settles (cutRun? p) := by
  intro x r
  cases hp : p '=' with
  | false => exact Or.inl (cutRun?_extended x r hp)
  | true =>
      rcases takeWhile_extended_cases x r p with ⟨htake, hdrop⟩ | ⟨-, hdrop⟩
      · left
        simp only [cutRun?, htake, hdrop]
        split <;> rfl
      · right
        have hne : (x ++ '=' :: r).takeWhile p ≠ [] := by
          cases x with
          | nil => simp [hp]
          | cons c x =>
              intro hnil
              have hall := List.takeWhile_append_dropWhile (p := p) (l := c :: x ++ '=' :: r)
              rw [hnil, hdrop, List.nil_append] at hall
              have hlength := congrArg List.length hall
              have hle := length_dropWhile_le (p := p) r
              simp only [List.length_append, List.length_cons] at hlength
              omega
        exact ⟨_, cutRun?_eq_some.mpr ⟨hne, rfl⟩, by rw [hdrop]; exact length_dropWhile_le r⟩

@[simp] theorem cutOne?_extended (hp : p '=' = false) :
    cutOne? p (x ++ '=' :: r) = (cutOne? p x).map (Cut.extended r) := by
  cases x with
  | nil => simp [cutOne?, hp]
  | cons c x =>
      simp only [List.cons_append, cutOne?]
      split <;> rfl

theorem settles_cutOne? (p : Char → Bool) : Settles (cutOne? p) := by
  intro x r
  cases hp : p '=' with
  | false => exact Or.inl (cutOne?_extended x r hp)
  | true =>
      cases x with
      | nil => exact Or.inr ⟨(['='], r), cutOne?_cons hp, Nat.le_refl _⟩
      | cons c x =>
          left
          simp only [List.cons_append, cutOne?]
          split <;> rfl

@[simp] theorem cutWord?_extended {word : List Char} (hword : '=' ∉ word) :
    cutWord? word (x ++ '=' :: r) = (cutWord? word x).map (Cut.extended r) := by
  induction word generalizing x with
  | nil => rfl
  | cons w word ih =>
      rw [List.mem_cons, not_or] at hword
      cases x with
      | nil =>
          have hsign : fold '=' ≠ w := fun h => hword.1 (h ▸ by decide)
          simp [cutWord?, hsign]
      | cons c x =>
          simp only [List.cons_append, cutWord?, ih x hword.2]
          split
          · simp [Cut.extended, Function.comp_def]
          · rfl

@[simp] theorem cutOptional_extended {d : Char} (hd : d ≠ '=') :
    cutOptional d (x ++ '=' :: r) = Cut.extended r (cutOptional d x) := by
  cases x with
  | nil => simp [cutOptional, Ne.symm hd, Cut.extended]
  | cons c x =>
      simp only [List.cons_append, cutOptional]
      split <;> rfl

@[simp] theorem cutName?_extended :
    cutName? (x ++ '=' :: r) = (cutName? x).map (Cut.extended r) := by
  have hsign : isNameStart '=' = false ∧ isWordChar '=' = false := by decide
  cases x with
  | nil => simp [cutName?, hsign.1]
  | cons c x =>
      simp only [List.cons_append, cutName?, takeWhile_extended x r hsign.2,
        dropWhile_extended x r hsign.2]
      split <;> rfl

theorem isPrefixOf_extended (hmark : '=' ∉ mark) :
    mark.isPrefixOf (x ++ '=' :: r) = mark.isPrefixOf x := by
  induction mark generalizing x with
  | nil => simp [List.isPrefixOf]
  | cons d mark ih =>
      rw [List.mem_cons, not_or] at hmark
      cases x with
      | nil => simp [List.isPrefixOf, Ne.symm hmark.1]
      | cons c x => simp only [List.cons_append, List.isPrefixOf, ih x hmark.2]

@[simp] theorem cutMark?_extended (hmark : '=' ∉ mark) :
    cutMark? mark (x ++ '=' :: r) = (cutMark? mark x).map (Cut.extended r) := by
  simp only [cutMark?, isPrefixOf_extended x r hmark]
  split
  · next hfront =>
    have hlength := (List.isPrefixOf_iff_prefix.mp hfront).length_le
    rw [List.drop_append_of_le_length hlength]
    rfl
  · rfl

/-! ## Lines -/

theorem cutLine_extended_of_mem (hx : '\n' ∈ x) :
    cutLine (x ++ '=' :: r) = Cut.extended r (cutLine x) := by
  induction x with
  | nil => cases hx
  | cons c x ih =>
      simp only [List.cons_append, cutLine]
      split
      · rfl
      · next hc =>
        rw [ih (List.mem_of_ne_of_mem (Ne.symm hc) hx)]
        rfl

theorem length_cutLine_le (s : List Char) : (cutLine s).2.length ≤ s.length := by
  have hjoin := congrArg List.length (cutLine_join s)
  rw [List.length_append] at hjoin
  omega

theorem length_cutLine_extended (hx : '\n' ∉ x) :
    (cutLine (x ++ '=' :: r)).2.length ≤ r.length := by
  rw [cutLine_append hx, cutLine, if_neg (by decide)]
  exact length_cutLine_le r

theorem settles_cutLine : Settles fun s => some (cutLine s) := by
  intro x r
  by_cases hx : '\n' ∈ x
  · exact Or.inl (congrArg some (cutLine_extended_of_mem x r hx))
  · exact Or.inr ⟨_, rfl, length_cutLine_extended x r hx⟩

theorem settles_cutBareLine (last : Char) : Settles fun s => some (cutBareLine last s) := by
  intro x r
  have hlength (last : Char) (s : List Char) : (cutBareLine last s).2.length ≤ s.length := by
    have hjoin := congrArg List.length (cutBareLine_join last s)
    rw [List.length_append] at hjoin
    omega
  induction x generalizing last with
  | nil =>
      refine Or.inr ⟨_, rfl, ?_⟩
      simp only [List.nil_append, cutBareLine]
      rw [if_neg (fun h => absurd h.1 (by decide))]
      exact hlength '=' r
  | cons c x ih =>
      simp only [List.cons_append, cutBareLine]
      split
      · exact Or.inl rfl
      · rcases ih c with heq | ⟨y, hy, hle⟩
        · have heq := Option.some.inj heq
          exact Or.inl (by simp [heq, Cut.extended])
        · obtain rfl := Option.some.inj hy
          exact Or.inr ⟨_, rfl, hle⟩

/-! ## One scanner behind another -/

theorem Settles.behind {first second : List Char → Option Cut} (hfirst : Stops first)
    (hsecond : Settles second) :
    Settles fun s => (first s).bind fun y => (second y.2).map fun z => (y.1 ++ z.1, z.2) := by
  intro x r
  simp only [hfirst x r]
  cases first x with
  | none => exact Or.inl rfl
  | some y =>
      simp only [Option.map_some, Option.bind_some, Cut.fst_extended, Cut.snd_extended]
      rcases hsecond y.2 r with heq | ⟨z, hz, hle⟩
      · left
        rw [heq]
        simp [Cut.extended, Function.comp_def]
      · exact Or.inr ⟨(y.1 ++ z.1, z.2), by rw [hz]; rfl, hle⟩

theorem Settles.behindOptional {scan : List Char → Option Cut} {d : Char} (hd : d ≠ '=')
    (h : Settles scan) :
    Settles fun s => (scan (cutOptional d s).2).map fun y => ((cutOptional d s).1 ++ y.1, y.2) := by
  have hoptional : Stops fun s => some (cutOptional d s) :=
    fun x r => congrArg some (cutOptional_extended x r hd)
  exact h.behind hoptional

theorem settles_cutThrough? {stop : List Char → Option Cut} (h : Stops stop) (hjoin : Joins stop) :
    Settles (cutThrough? stop) := by
  intro x r
  induction x with
  | nil =>
      have hstop := h [] r
      rw [List.nil_append] at hstop ⊢
      simp only [cutThrough?, hstop]
      cases stop [] with
      | some y => exact Or.inl rfl
      | none =>
          cases hr : cutThrough? stop r with
          | none => exact Or.inl rfl
          | some y =>
              refine Or.inr ⟨_, rfl, ?_⟩
              have hlength := congrArg List.length (joins_cutThrough? hjoin hr)
              rw [List.length_append] at hlength
              simp only
              omega
  | cons c x ih =>
      have hstop := h (c :: x) r
      rw [List.cons_append] at hstop ⊢
      simp only [cutThrough?, hstop]
      cases stop (c :: x) with
      | some y => exact Or.inl rfl
      | none =>
          rcases ih with heq | ⟨y, hy, hle⟩
          · left
            simp [heq, Cut.extended, Function.comp_def]
          · exact Or.inr ⟨(c :: y.1, y.2), by simp [hy], hle⟩

/-! ## Comments -/

theorem stops_cutMark? (hmark : '=' ∉ mark) : Stops (cutMark? mark) :=
  fun x r => cutMark?_extended x r hmark

theorem settles_cutLineComment? : Settles cutLineComment? := by
  have hcomment : cutLineComment? = fun s => (cutMark? ['/', '/'] s).bind fun y =>
      (some (cutBareLine '/' y.2)).map fun z => (y.1 ++ z.1, z.2) := by
    funext s
    rw [cutLineComment?_eq]
    cases cutMark? ['/', '/'] s <;> rfl
  rw [hcomment]
  exact (settles_cutBareLine '/').behind (stops_cutMark? (by simp))

theorem settles_cutClosingComment? : Settles cutClosingComment? := by
  have hcomment : cutClosingComment? = fun s => (cutMark? ['/', '/'] s).bind fun y =>
      (some (cutLine y.2)).map fun z => (y.1 ++ z.1, z.2) := by
    funext s
    rw [cutClosingComment?_eq]
    cases cutMark? ['/', '/'] s <;> rfl
  rw [hcomment]
  exact settles_cutLine.behind (stops_cutMark? (by simp))

theorem stops_cutBlockStart? : Stops cutBlockStart? := by
  intro x r
  simp [cutBlockStart?_eq, Option.map_or]

theorem stops_cutBlockEnd? : Stops cutBlockEnd? := by
  intro x r
  simp [cutBlockEnd?_eq, Option.map_or]

/-- A block comment without an end takes all of a text. -/
theorem settles_cutBlockComment? : Settles cutBlockComment? := by
  intro x r
  simp only [cutBlockComment?, stops_cutBlockStart? x r]
  cases cutBlockStart? x with
  | none => exact Or.inl rfl
  | some y =>
      simp only [Option.map_some, Cut.fst_extended, Cut.snd_extended]
      rcases settles_cutThrough? stops_cutBlockEnd? joins_cutBlockEnd? y.2 r with heq | ⟨z, hz, hle⟩
      · rw [heq]
        cases cutThrough? cutBlockEnd? y.2 with
        | some z => exact Or.inl rfl
        | none => exact Or.inr ⟨_, rfl, Nat.zero_le _⟩
      · exact Or.inr ⟨(y.1 ++ z.1, z.2), by rw [hz], hle⟩

theorem settles_cutAtComment? : Settles cutAtComment? := by
  have hcomment : cutAtComment? = fun s => (cutMark? ['@'] s).bind fun y =>
      (cutThrough? (cutMark? ['@']) y.2).map fun z => (y.1 ++ z.1, z.2) :=
    funext cutAtComment?_eq
  rw [hcomment]
  exact (settles_cutThrough? (stops_cutMark? (by simp)) (joins_cutMark? _)).behind
    (stops_cutMark? (by simp))

theorem settles_cutInlineComment? : Settles cutInlineComment? := by
  have hcomment : cutInlineComment? = fun s => (cutMark? ['/', '*'] s).bind fun y =>
      (cutThrough? (cutMark? ['*', '/']) y.2).map fun z => (y.1 ++ z.1, z.2) :=
    funext cutInlineComment?_eq
  rw [hcomment]
  exact (settles_cutThrough? (stops_cutMark? (by simp)) (joins_cutMark? _)).behind
    (stops_cutMark? (by simp))

/-! ## Numbers -/

@[simp] theorem cutSign_extended : cutSign (x ++ '=' :: r) = Cut.extended r (cutSign x) := by
  cases x with
  | nil => rfl
  | cons c x =>
      simp only [List.cons_append, cutSign]
      split <;> rfl

@[simp] theorem cutDigits?_extended :
    cutRun? isDigit (x ++ '=' :: r) = (cutRun? isDigit x).map (Cut.extended r) :=
  cutRun?_extended x r (by decide)

@[simp] theorem cutExponent?_extended :
    cutExponent? (x ++ '=' :: r) = (cutExponent? x).map (Cut.extended r) := by
  cases x with
  | nil => rfl
  | cons c x =>
      simp only [List.cons_append, cutExponent?]
      split
      · simp [Cut.extended, Function.comp_def]
      · rfl

@[simp] theorem cutMantissa?_extended :
    cutMantissa? (x ++ '=' :: r) = (cutMantissa? x).map (Cut.extended r) := by
  have hdigit : isDigit '=' = false := by decide
  simp (disch := decide) only [cutMantissa?_eq, dropWhile_extended x r hdigit,
    takeWhile_extended x r hdigit, cutMark?_extended]
  cases cutMark? ['.'] (x.dropWhile isDigit) with
  | none => simp
  | some y =>
      simp only [Option.map_some, Cut.fst_extended, Cut.snd_extended, cutDigits?_extended,
        takeWhile_extended y.2 r hdigit, dropWhile_extended y.2 r hdigit]
      split
      · simp [Cut.extended, Function.comp_def]
      · simp [Cut.extended]

theorem stops_cutHex? : Stops cutHex? := by
  intro x r
  have hdigits (s : List Char) := cutRun?_extended (p := isHexDigit) s r (by decide)
  simp [cutHex?, hdigits, Cut.extended, Function.comp_def, Option.bind_map, Option.map_bind]

theorem stops_cutScientific? : Stops cutScientific? := by
  intro x r
  simp [cutScientific?, Cut.extended, Function.comp_def, Option.bind_map, Option.map_bind]

theorem stops_cutSigned? : Stops cutSigned? := by
  intro x r
  simp only [cutSigned?, cutOptional_extended x r (show '-' ≠ '=' by decide), Cut.fst_extended,
    Cut.snd_extended, cutMantissa?_extended, Option.map_map]
  refine Option.map_congr fun y _ => ?_
  simp only [Function.comp_apply, Cut.fst_extended, Cut.snd_extended, cutExponent?_extended]
  cases cutExponent? y.2 <;> simp [Cut.extended]

/-! ## Operators -/

@[simp] theorem cutListed?_extended (words : List String) :
    cutListed? words (x ++ '=' :: r) = (cutListed? words x).map (Cut.extended r) := by
  have hsign : isWordChar '=' = false := by decide
  simp only [cutListed?, takeWhile_extended x r hsign, dropWhile_extended x r hsign]
  split <;> rfl

theorem stops_cutComparisonWord? : Stops cutComparisonWord? := by
  intro x r
  simp [cutComparisonWord?, Cut.extended, Function.comp_def]

theorem stops_cutLogicalWord? : Stops cutLogicalWord? := by
  intro x r
  simp [cutLogicalWord?, Cut.extended, Function.comp_def]

/-- An equals sign may be the second character of a comparison. -/
theorem settles_cutComparisonSign? : Settles cutComparisonSign? := by
  have hsign (s : List Char) : cutMark? ['='] ('=' :: s) = some (['='], s) :=
    cutMark?_eq_some.mpr ⟨rfl, rfl⟩
  intro x r
  match x with
  | [] =>
      rw [List.nil_append, cutComparisonSign?_cons]
      cases hmark : cutMark? ['='] r with
      | none => exact Or.inl rfl
      | some y =>
          have hlength := congrArg List.length (joins_cutMark? _ hmark)
          rw [List.length_append] at hlength
          exact Or.inr ⟨('=' :: y.1, y.2), rfl, by simp only; omega⟩
  | [c] =>
      rw [List.singleton_append, cutComparisonSign?_cons, hsign]
      simp only
      split
      · exact Or.inr ⟨_, rfl, Nat.le_refl _⟩
      · next hc =>
        simp only [not_or] at hc
        left
        simp [cutComparisonSign?, hc]
  | c :: d :: x =>
      left
      have hmark : cutMark? ['='] (d :: (x ++ '=' :: r)) =
          (cutMark? ['='] (d :: x)).map (Cut.extended r) := by
        by_cases hd : d = '='
        · subst hd
          rw [hsign, hsign]
          rfl
        · have hnone (s : List Char) : cutMark? ['='] (d :: s) = none :=
            cutMark?_eq_none fun t ht => hd (List.cons.inj ht).1
          rw [hnone, hnone]
          rfl
      simp only [List.cons_append, cutComparisonSign?_cons, hmark]
      cases cutMark? ['='] (d :: x) with
      | none =>
          simp only [Option.map_none]
          split <;> rfl
      | some y =>
          simp only [Option.map_some]
          split <;> rfl

theorem settles_cutComparison? : Settles cutComparison? := by
  have hdollar := settles_cutComparisonSign?.behindOptional (show '$' ≠ '=' by decide)
  have hdot := hdollar.behindOptional (show '.' ≠ '=' by decide)
  simpa [cutComparison?, Settles, Function.comp_def] using hdot

theorem stops_cutStringSign? : Stops cutStringSign? := by
  intro x r
  have hsign (s : List Char) := cutOne?_extended (p := isStringSign) s r (by decide)
  simp [cutStringSign?, hsign, Cut.extended, Function.comp_def]

theorem stops_cutProduct? : Stops cutProduct? := by
  intro x r
  simp [cutProduct?, Cut.extended, Function.comp_def]

theorem stops_cutDotted? : Stops cutDotted? := by
  intro x r
  have hsign (s : List Char) := cutOne?_extended (p := isDottedSign) s r (by decide)
  simp [cutDotted?, hsign, Cut.extended, Function.comp_def]

/-! ## Strings -/

theorem cutBetween?_extended (hp : p '=' = false) (least most : Nat) :
    cutBetween? p least most (x ++ '=' :: r) =
      (cutBetween? p least most x).map (Cut.extended r) := by
  have htake : ((x ++ '=' :: r).take most).takeWhile p = (x.take most).takeWhile p := by
    rw [List.take_append]
    cases most - x.length with
    | zero => rw [List.take_zero, List.append_nil]
    | succ n => exact takeWhile_extended (x.take most) (r.take n) hp
  have hlength : ((x.take most).takeWhile p).length ≤ x.length :=
    ((List.takeWhile_prefix p).trans (List.take_prefix most x)).length_le
  simp only [cutBetween?, htake, List.drop_append_of_le_length hlength]
  split <;> rfl

@[simp] theorem cutEscapeBody?_extended :
    cutEscapeBody? (x ++ '=' :: r) = (cutEscapeBody? x).map (Cut.extended r) := by
  have hhex (least most : Nat) (s : List Char) :=
    cutBetween?_extended (p := isHexDigit) s r (by decide) least most
  have hoctal := cutBetween?_extended (p := isOctalDigit) x r (by decide) 1 3
  cases x with
  | nil => rfl
  | cons c x =>
      rw [List.cons_append] at hoctal ⊢
      simp only [cutEscapeBody?, hoctal, hhex]
      split
      · rfl
      · split
        · simp [Cut.extended, Function.comp_def]
        · split
          · simp [Cut.extended, Function.comp_def]
          · rfl

theorem stops_cutEscape? : Stops cutEscape? := by
  intro x r
  simp [cutEscape?_eq, Cut.extended, Function.comp_def, Option.bind_map, Option.map_bind]

/-! ## Words -/

@[simp] theorem cutListedName?_extended (words : List String) :
    cutListedName? words (x ++ '=' :: r) = (cutListedName? words x).map (Cut.extended r) := by
  rw [cutListedName?, cutName?_extended, Option.filter_map]
  rfl

theorem stops_cutName? : Stops cutName? :=
  fun x r => cutName?_extended x r

theorem stops_cutListedName? (words : List String) : Stops (cutListedName? words) :=
  fun x r => cutListedName?_extended x r words

@[simp] theorem cutMemberSign?_extended :
    cutMemberSign? (x ++ '=' :: r) = (cutMemberSign? x).map (Cut.extended r) := by
  simp [cutMemberSign?, Option.map_or]

end GaussMarkup
