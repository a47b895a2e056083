import GaussMarkup.Proofs.Lexer.WordKind

/-!
# Plain names

A name that is on none of the lists of fixed words passes the rules that look for
words on lists. What is left are the rules for calls, labels, member accesses and
plain names, and which of them takes it depends on the text behind it only
(`Cursor.firstMatch?_of_not_reserved`).
-/

namespace GaussMarkup

/-! ## Whole names -/

/-- A name with nothing behind it. -/
def isName : List Char → Bool
  | [] => false
  | c :: s => isNameStart c && s.all isWordChar

/-- No character that a name could go on with comes next. -/
def endsName (rest : List Char) : Bool :=
  !rest.head?.any isWordChar

theorem endsName_cons {c : Char} (hc : isWordChar c = false) (s : List Char) :
    endsName (c :: s) = true := by
  simp [endsName, hc]

theorem takeWhile_of_endsName {rest : List Char} (h : endsName rest = true) :
    rest.takeWhile isWordChar = [] ∧ rest.dropWhile isWordChar = rest := by
  cases rest with
  | nil => exact ⟨rfl, rfl⟩
  | cons c s =>
      have hc : isWordChar c = false := by simpa [endsName] using h
      simp [hc]

/-- A name is taken whole. -/
theorem cutName?_append {x rest : List Char} (hx : isName x = true)
    (hrest : endsName rest = true) : cutName? (x ++ rest) = some (x, rest) := by
  cases x with
  | nil => cases hx
  | cons c s =>
      obtain ⟨hc, hs⟩ := Bool.and_eq_true_iff.mp hx
      have hs : ∀ d ∈ s, isWordChar d = true := List.all_eq_true.mp hs
      obtain ⟨htake, hdrop⟩ := takeWhile_of_endsName hrest
      refine cutName?_eq_some.mpr ⟨c, s ++ rest, rfl, hc, ?_⟩
      rw [List.takeWhile_append_of_pos hs, List.dropWhile_append_of_pos hs, htake, hdrop,
        List.append_nil]

theorem endsName_dropWhile (s : List Char) : endsName (s.dropWhile isWordChar) = true := by
  have hhead := List.head?_dropWhile_not isWordChar s
  rw [endsName]
  cases h : (s.dropWhile isWordChar).head? with
  | none => rfl
  | some c =>
      rw [h] at hhead
      rw [Option.any_some, hhead, Bool.not_false]

/-- What is taken is a name, and it ends there. -/
theorem cutName?_iff {s : List Char} {x : Cut} :
    cutName? s = some x ↔ isName x.1 = true ∧ endsName x.2 = true ∧ s = x.1 ++ x.2 := by
  constructor
  · intro h
    have hjoin : x.1 ++ x.2 = s := joins_cutName? h
    obtain ⟨c, t, -, hc, rfl⟩ := cutName?_eq_some.mp h
    have hname : isName (c :: t.takeWhile isWordChar) = true :=
      Bool.and_eq_true_iff.mpr ⟨hc, List.all_takeWhile⟩
    exact ⟨hname, endsName_dropWhile t, hjoin.symm⟩
  · obtain ⟨name, rest⟩ := x
    rintro ⟨hname, hends, rfl⟩
    exact cutName?_append hname hends

theorem isWordChar_of_isDigit {c : Char} (h : c.isDigit = true) : isWordChar c = true := by
  have hcode : c.toNat ≤ 57 := of_decide_eq_true (Bool.and_eq_true_iff.mp h).2
  have halphanum : c.isAlphanum = true := Bool.or_eq_true_iff.mpr (Or.inr h)
  rw [isWordChar, if_pos (by omega), halphanum, Bool.true_or]

/-- Letters, digits and underscores of ASCII make a name, where no digit comes
first. -/
theorem isName_of_ascii {c : Char} {s : List Char} (hc : c.isAlpha = true ∨ c = '_')
    (hs : ∀ d ∈ s, d.isAlphanum = true ∨ d = '_') : isName (c :: s) = true := by
  have hstart {d : Char} (hd : d.isAlpha = true ∨ d = '_') : isNameStart d = true :=
    isNameStart_iff.mpr (hd.imp_right Or.inl)
  have hword : ∀ d ∈ s, isWordChar d = true := by
    intro d hd
    rcases hs d hd with halphanum | hscore
    · rcases Bool.or_eq_true_iff.mp halphanum with halpha | hdigit
      · exact isWordChar_of_isNameStart (hstart (Or.inl halpha))
      · exact isWordChar_of_isDigit hdigit
    · exact isWordChar_of_isNameStart (hstart (Or.inr hscore))
  exact Bool.and_eq_true_iff.mpr ⟨hstart hc, List.all_eq_true.mpr hword⟩

/-! ## Words on no list -/

/-- The words that the lexer looks for before it takes a word as a name. -/
def reservedWords : List String :=
  operatorWords ++ literalWords ++ keywordWords ++ declarationWords

/-- A word is one of these, in any case. -/
def isReserved (word : List Char) : Bool :=
  reservedWords.contains (String.ofList (word.map fold))

theorem subset_reservedWords :
    operatorWords ⊆ reservedWords ∧ literalWords ⊆ reservedWords ∧
      keywordWords ⊆ reservedWords ∧ declarationWords ⊆ reservedWords := by
  refine ⟨?_, ?_, ?_, ?_⟩ <;> intro w hw <;> simp [reservedWords, hw]

theorem contains_eq_false_of_not_reserved {w : List Char} {words : List String}
    (h : isReserved w = false) (hwords : words ⊆ reservedWords) :
    words.contains (String.ofList (w.map fold)) = false := by
  rw [Bool.eq_false_iff, Ne, List.contains_iff_mem]
  intro hmem
  have hreserved : isReserved w = true := List.contains_iff_mem.mpr (hwords hmem)
  rw [h] at hreserved
  cases hreserved

namespace Cursor

variable {c : Cursor} {rule : Rule} {l : Lexeme} {w rest : List Char}

theorem Reads.find?_eq_none (h : c.Reads rule false l) : rule.find? c.before c.rest = none := by
  rwa [Reads, if_neg Bool.false_ne_true, Option.map_eq_none_iff] at h

/-- In front of a word on no list, the rules that look for words on lists find
nothing. -/
theorem firstMatch?_of_not_reserved (hname : cutName? c.rest = some (w, rest))
    (hw : isReserved w = false) :
    c.firstMatch? Mode.wordRules =
      c.firstMatch? [.call, .label, .memberAccess, .name, .other] := by
  obtain ⟨hoperator, hliteral, hkeyword, hdeclaration⟩ := subset_reservedWords
  have hcomparison : comparisonWords ⊆ reservedWords := List.Subset.trans (by decide) hoperator
  have hlogical : logicalWords ⊆ reservedWords := List.Subset.trans (by decide) hoperator
  have hstruct : ["struct"] ⊆ reservedWords := List.Subset.trans (by decide) hdeclaration
  have hloop : ["for", "threadfor"] ⊆ reservedWords := List.Subset.trans (by decide) hkeyword
  have hfn : ["fn"] ⊆ reservedWords := List.Subset.trans (by decide) hkeyword
  have hlisted {rule : Rule} {words : List String} {l : Lexeme}
      (hwords : words ⊆ reservedWords)
      (h : c.Reads rule (words.contains (String.ofList (w.map fold))) l) :
      rule.find? c.before c.rest = none := by
    rw [contains_eq_false_of_not_reserved hw hwords] at h
    exact h.find?_eq_none
  have hheader {rule : Rule} {words : List String} {l : Lexeme}
      (hwords : words ⊆ reservedWords)
      (h : c.Reads rule (words.contains (String.ofList (w.map fold)) && opensHeader rest) l) :
      rule.find? c.before c.rest = none := by
    rw [contains_eq_false_of_not_reserved hw hwords, Bool.false_and] at h
    exact h.find?_eq_none
  -- What a one-line function looks for behind its word does not matter here.
  have hfunction : Rule.functionHeader.find? c.before c.rest = none := by
    obtain ⟨b, hword, hreads⟩ := reads_functionHeader hname
    cases b with
    | false => exact hreads.find?_eq_none
    | true =>
        have hnone := contains_eq_false_of_not_reserved hw hfn
        rw [hword rfl] at hnone
        cases hnone
  rw [Mode.wordRules,
    firstMatch?_of_none _ (hlisted hcomparison (reads_comparisonWord hname)),
    firstMatch?_of_none _ (hlisted hlogical (reads_logicalWord hname)),
    firstMatch?_of_none _ (hheader hstruct (reads_header hname _ rfl)),
    firstMatch?_of_none _ (hheader hloop (reads_header hname _ rfl)),
    firstMatch?_of_none _ hfunction,
    firstMatch?_of_none _ (hlisted hliteral (reads_listedWord hname _ rfl)),
    firstMatch?_of_none _ (hlisted hkeyword (reads_listedWord hname _ rfl)),
    firstMatch?_of_none _ (hlisted hdeclaration (reads_listedWord hname _ rfl))]

end Cursor

end GaussMarkup
