import GaussMarkup.Proofs.Signature.Brackets
import GaussMarkup.Proofs.Text.Prefixes
import GaussMarkup.Proofs.Text.Trim
import GaussMarkup.Signature.Parse

/-!
# How a signature is read

The first character that should have a bracket open and has none decides how a
text is split: an equals sign makes it an assignment, a closing bracket an
error, and where there is none the text is a call. A list is read exactly if its
square brackets are paired (`exists_readItems_iff`). Blanks around the text do
not matter, so a whole signature is read in one of three ways
(`parse_of_covered`, `parse_of_paired`, `parse_of_closing`).
-/

namespace GaussMarkup

/-! ## Splitting an assignment -/

/-- What a split of a text becomes with more text in front. -/
def splitBehind (s : List Char) (r : Except SignatureError (Option (List Char × List Char))) :
    Except SignatureError (Option (List Char × List Char)) :=
  r.map (·.map fun x => (s ++ x.1, x.2))

theorem splitBehind_cons (c : Char) (s : List Char)
    (r : Except SignatureError (Option (List Char × List Char))) :
    splitBehind [c] (splitBehind s r) = splitBehind (c :: s) r := by
  rcases r with e | _ | x <;> rfl

variable {d : Nat} {c : Char} {s : List Char}

theorem splitAssignmentFrom_cons
    (hc : (anyBracket.closes c || anyBracket.inner c) = true → 0 < d) (s : List Char) :
    splitAssignmentFrom d (c :: s) =
      splitBehind [c] (splitAssignmentFrom (anyBracket.openBehind d [c]) s) := by
  simp only [splitAssignmentFrom]
  split
  · next ho =>
    have hbehind : anyBracket.openBehind d [c] = d + 1 := by
      rcases ho with rfl | rfl | rfl <;> rfl
    rw [hbehind]
    rfl
  · next ho =>
    split
    · next hclose =>
      have hpos : 0 < d := hc (by simp [anyBracket, isClosing, hclose])
      obtain ⟨e, rfl⟩ := Nat.exists_eq_add_of_lt hpos
      have hbehind : anyBracket.openBehind (0 + e + 1) [c] = 0 + e := by
        rcases hclose with rfl | rfl | rfl <;> rfl
      rw [hbehind]
      rfl
    · next hclose =>
      have hbehind : anyBracket.openBehind d [c] = d := by
        simp [Bracketing.openBehind, anyBracket, isOpening, isClosing, ho, hclose]
      rw [hbehind, if_neg]
      · rfl
      · rintro ⟨rfl, rfl⟩
        exact absurd (hc rfl) (Nat.lt_irrefl 0)

/-- A covered text in front of another one stays in front of its split. -/
theorem splitAssignmentFrom_append (h : anyBracket.Covered d s) (t : List Char) :
    splitAssignmentFrom d (s ++ t) =
      splitBehind s (splitAssignmentFrom (anyBracket.openBehind d s) t) := by
  induction s generalizing d with
  | nil =>
      have hbehind : anyBracket.openBehind d [] = d := by simp [Bracketing.openBehind]
      rw [List.nil_append, hbehind]
      rcases splitAssignmentFrom d t with e | _ | x <;> rfl
  | cons c s ih =>
      obtain ⟨hfirst, hrest⟩ := Bracketing.covered_cons.mp h
      rw [List.cons_append, splitAssignmentFrom_cons hfirst, ih hrest, splitBehind_cons,
        Bracketing.openBehind_cons hfirst]

theorem splitAssignment_of_covered (h : anyBracket.Covered 0 s) : splitAssignment s = .ok none := by
  have happend := splitAssignmentFrom_append h []
  rwa [List.append_nil] at happend

/-- The equals sign behind paired brackets is the one that splits. -/
theorem splitAssignment_of_paired {left : List Char} (h : anyBracket.Paired left)
    (right : List Char) : splitAssignment (left ++ '=' :: right) = .ok (some (left, right)) := by
  rw [splitAssignment, splitAssignmentFrom_append h.1, h.openBehind_eq]
  simp [splitAssignmentFrom, splitBehind, Except.map]

theorem splitAssignment_of_closing {front : List Char} (h : anyBracket.Paired front)
    (hc : isClosing c = true) (rest : List Char) :
    splitAssignment (front ++ c :: rest) = .error (.unbalanced c) := by
  rw [splitAssignment, splitAssignmentFrom_append h.1, h.openBehind_eq]
  have hclose : c = ')' ∨ c = ']' ∨ c = '}' := by simpa [isClosing] using hc
  rcases hclose with rfl | rfl | rfl <;> rfl

/-- The three ways to split an assignment. -/
theorem splitAssignment_cases (s : List Char) :
    anyBracket.Covered 0 s ∨
      (∃ left right, s = left ++ '=' :: right ∧ anyBracket.Paired left) ∨
      ∃ front c rest, s = front ++ c :: rest ∧ anyBracket.Paired front ∧ isClosing c = true := by
  rcases anyBracket.covered_or_exposed 0 s with h | ⟨p, c, q, rfl, hp, hc, hcount⟩
  · exact .inl h
  · have hpaired : anyBracket.Paired p := ⟨hp, by omega⟩
    rcases Bool.or_eq_true_iff.mp hc with hclose | hinner
    · exact .inr (.inr ⟨p, c, q, rfl, hpaired, hclose⟩)
    · obtain rfl : c = '=' := by simpa [anyBracket] using hinner
      exact .inr (.inl ⟨p, q, rfl, hpaired⟩)

/-! ## Reading a list -/

/-- A reader goes on behind a character, unless that closes a bracket and none
is open. -/
theorem exists_readItemsFrom_cons {r : ListReader}
    (hc : (squareBracket.closes c || squareBracket.inner c) = true → 0 < r.outer.length) :
    ∃ r' : ListReader, r'.outer.length = squareBracket.openBehind r.outer.length [c] ∧
      ∀ s, readItemsFrom r (c :: s) = readItemsFrom r' s := by
  by_cases hopen : c = '['
  · subst hopen
    exact ⟨{ outer := r.flushed :: r.outer }, rfl, fun s => by simp [readItemsFrom]⟩
  by_cases hclose : c = ']'
  · subst hclose
    obtain ⟨parent, outer, hr⟩ := List.exists_cons_of_length_pos (hc rfl)
    refine ⟨{ level := parent ++ [.optional r.flushed], outer := outer }, ?_, fun s => ?_⟩
    · simp [hr, Bracketing.openBehind, squareBracket]
    · simp [readItemsFrom, hr]
  have hbehind : squareBracket.openBehind r.outer.length [c] = r.outer.length := by
    simp [Bracketing.openBehind, squareBracket, hopen, hclose]
  rw [hbehind]
  by_cases hcomma : c = ','
  · exact ⟨{ r with piece := [], level := r.flushed }, rfl, fun s => by
      simp [readItemsFrom, hcomma]⟩
  · exact ⟨{ r with piece := c :: r.piece }, rfl, fun s => by
      simp [readItemsFrom, hopen, hclose, hcomma]⟩

theorem readItemsFrom_of_closing {r : ListReader} (hr : r.outer = [])
    (hc : (squareBracket.closes c || squareBracket.inner c) = true) (s : List Char) :
    readItemsFrom r (c :: s) = .error (.unbalanced ']') := by
  obtain rfl : c = ']' := by simpa [squareBracket] using hc
  simp [readItemsFrom, hr]

/-- A list is read if every square bracket that it closes is open, those around
it included, and none is left open. -/
theorem exists_readItemsFrom_iff (r : ListReader) (s : List Char) :
    (∃ items, readItemsFrom r s = .ok items) ↔
      squareBracket.Covered r.outer.length s ∧ squareBracket.openBehind r.outer.length s = 0 := by
  induction s generalizing r with
  | nil =>
      simp only [readItemsFrom, Bracketing.covered_nil, Bracketing.openBehind, List.countP_nil,
        true_and]
      split
      · next h => simp [h]
      · next h => simpa using h
  | cons c s ih =>
      by_cases hc : (squareBracket.closes c || squareBracket.inner c) = true → 0 < r.outer.length
      · obtain ⟨r', hlength, hread⟩ := exists_readItemsFrom_cons hc
        rw [hread, ih, hlength, Bracketing.openBehind_cons hc, Bracketing.covered_cons,
          and_iff_right hc]
      · have hcov : ¬ squareBracket.Covered r.outer.length (c :: s) := fun h =>
          hc (Bracketing.covered_cons.mp h).1
        rw [Classical.not_imp, Nat.not_lt, Nat.le_zero, List.length_eq_zero_iff] at hc
        simp [readItemsFrom_of_closing hc.2 hc.1, hcov]

theorem exists_readItems_iff (s : List Char) :
    (∃ items, readItems s = .ok items) ↔ squareBracket.Paired s := by
  rw [readItems, exists_readItemsFrom_iff, Bracketing.Paired]
  refine and_congr_right fun hcovered => ?_
  have hle := hcovered.countP_le
  simp only [Bracketing.openBehind, List.length_nil] at hle ⊢
  omega

/-- The brackets of a list are looked at, and nothing else can be wrong with it. -/
theorem exists_unbalanced_of_readItemsFrom {r : ListReader} {e : SignatureError}
    (h : readItemsFrom r s = .error e) : ∃ bracket, e = .unbalanced bracket := by
  induction s generalizing r with
  | nil =>
      simp only [readItemsFrom] at h
      split at h
      · cases h
      · exact ⟨'[', (Except.error.inj h).symm⟩
  | cons c s ih =>
      by_cases hc : (squareBracket.closes c || squareBracket.inner c) = true → 0 < r.outer.length
      · obtain ⟨r', -, hread⟩ := exists_readItemsFrom_cons hc
        exact ih ((hread s).symm.trans h)
      · rw [Classical.not_imp, Nat.not_lt, Nat.le_zero, List.length_eq_zero_iff] at hc
        rw [readItemsFrom_of_closing hc.2 hc.1] at h
        exact ⟨']', (Except.error.inj h).symm⟩

/-! ## Reading a call -/

/-- Parameters run up to a last parenthesis. -/
theorem readParameters_of_closed {tail : List Char} (htail : ∀ c ∈ tail, isBlank c = true)
    (list : List Char) :
    readParameters (list ++ ')' :: tail) = (readItems list).map ({ items := · }) := by
  have hend : dropEndWhile isBlank tail = [] := by
    have hall := dropEndWhile_append_of_all htail []
    rwa [List.nil_append] at hall
  rw [readParameters, dropEndWhile_append_cons (by decide), hend]
  simp

/-- A call with its name in front of the first parenthesis. -/
theorem readCall_of_paren {name : List Char} (h : '(' ∉ name) (returns : Option ItemList)
    (inner : List Char) :
    readCall returns (name ++ '(' :: inner) = (readParameters inner).bind fun parameters =>
      if trim name = [] then .error .missingName
      else .ok { returns := returns, name := trim name, parameters := some parameters } := by
  obtain ⟨htake, hdrop⟩ := takeWhile_ne_of_not_mem h inner
  unfold readCall
  rw [hdrop]
  simp only [htake]
  cases readParameters inner <;> rfl

/-- A call without parameters. -/
theorem readCall_of_not_mem (h : '(' ∉ s) (returns : Option ItemList) :
    readCall returns s = if trim s = [] then .error .missingName
      else .ok { returns := returns, name := trim s } := by
  have hs : ∀ x ∈ s, (x != '(') = true := fun x hx => bne_iff_ne.mpr fun hxc => h (hxc ▸ hx)
  unfold readCall
  rw [List.dropWhile_eq_nil_iff.mpr hs]
  simp only [List.takeWhile_eq_self_iff.mpr hs]
  rfl

/-! ## Reading a signature -/

theorem ignores_of_isBlank (h : isBlank c = true) : anyBracket.Ignores c := by
  have hne (x : Char) (hx : isBlank x = false) : c ≠ x := by
    rintro rfl
    rw [hx] at h
    cases h
  simp [Bracketing.Ignores, anyBracket, isOpening, isClosing, hne '(' (by decide),
    hne '[' (by decide), hne '{' (by decide), hne ')' (by decide), hne ']' (by decide),
    hne '}' (by decide), hne '=' (by decide)]

theorem isBlank_of_isClosing (h : isClosing c = true) : isBlank c = false := by
  refine Bool.eq_false_iff.mpr fun hblank => ?_
  have hignores := (ignores_of_isBlank hblank).2.1
  rw [show anyBracket.closes c = true from h] at hignores
  cases hignores

theorem paired_dropBlanks (h : anyBracket.Paired s) : anyBracket.Paired (s.dropWhile isBlank) := by
  rw [← List.takeWhile_append_dropWhile (p := isBlank) (l := s)] at h
  exact h.of_append_of_ignores fun c hc =>
    ignores_of_isBlank (List.all_eq_true.mp List.all_takeWhile c hc)

theorem covered_trim (h : anyBracket.Covered 0 s) : anyBracket.Covered 0 (trim s) := by
  rw [← List.takeWhile_append_dropWhile (p := isBlank) (l := s)] at h
  have hdrop := (Bracketing.covered_append_of_ignores (fun c hc =>
    ignores_of_isBlank (List.all_eq_true.mp List.all_takeWhile c hc)) _).mp h
  obtain ⟨run, -, hrun⟩ := exists_dropEndWhile_append isBlank (s.dropWhile isBlank)
  rw [hrun] at hdrop
  exact hdrop.of_append

/-- Without an equals sign outside of brackets, the text is a call. -/
theorem parse_of_covered (h : anyBracket.Covered 0 s) :
    Signature.parse s = readCall none (trim s) := by
  rw [Signature.parse, splitAssignment_of_covered (covered_trim h)]
  rfl

/-- The equals sign behind paired brackets has the returned values in front of
it and the call behind it. -/
theorem parse_of_paired {left : List Char} (h : anyBracket.Paired left) (right : List Char) :
    Signature.parse (left ++ '=' :: right) =
      (readItems (dropBraces (trim left))).bind fun items =>
        readCall (some { items := items }) (trim right) := by
  rw [Signature.parse, trim_append_cons (by decide),
    splitAssignment_of_paired (paired_dropBlanks h), ← trim_dropWhile left,
    ← trim_dropEndWhile right]
  rfl

/-- A closing bracket behind paired brackets has none to close. -/
theorem parse_of_closing {front : List Char} (h : anyBracket.Paired front)
    (hc : isClosing c = true) (rest : List Char) :
    Signature.parse (front ++ c :: rest) = .error (.unbalanced c) := by
  rw [Signature.parse, trim_append_cons (isBlank_of_isClosing hc),
    splitAssignment_of_closing (paired_dropBlanks h) hc]
  rfl

end GaussMarkup
