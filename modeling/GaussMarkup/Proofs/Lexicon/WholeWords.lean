import GaussMarkup.Proofs.Lexer.PlainName
import GaussMarkup.Proofs.Lexicon.Alternation

/-!
# Whole words of a list

A pattern for a list of words with a word boundary behind it tries the words in its own
order and in any case, and gives up a word that fits but does not end at a boundary. The
lexer tries no words: it cuts off a whole name and looks it up (`cutListedName?`). Both
take the same, because a word that is a name and ends at a boundary is all of the name
in front of the cursor (`filter_cutWord?`). So at most one word of the list can be
taken, and the order of the alternatives does not show.
-/

namespace GaussMarkup

/-- One of two neighbours belongs to a word and the other does not. -/
def isWordBoundary (before after : Option Char) : Bool :=
  before.any isWordChar != after.any isWordChar

/-- What an alternation with a word boundary behind it takes off the front of a text, in
any case: the first alternative that fits and has a boundary behind it. The character
`before` the text counts for an alternative that takes nothing. -/
def firstBounded? (alternatives : List (List Char)) (before : Option Char) (text : List Char) :
    Option Cut :=
  alternatives.findSome? fun w =>
    (cutWord? w text).filter fun x => isWordBoundary (x.1.getLast?.or before) x.2.head?

variable {t w : List Char}

/-! ## Names in any case -/

theorem isWordChar_fold (c : Char) : isWordChar (fold c) = isWordChar c := by
  unfold fold
  split
  · next hc => rw [hc, isWordChar_of_isNameStart (by decide), isWordChar_of_isNameStart (by decide)]
  split
  · next hc => rw [hc, isWordChar_of_isNameStart (by decide), isWordChar_of_isNameStart (by decide)]
  exact isWordChar_toLower c

theorem isNameStart_fold (c : Char) : isNameStart (fold c) = isNameStart c := by
  unfold fold
  split
  · next hc =>
    rw [hc]
    decide
  split
  · next hc =>
    rw [hc]
    decide
  exact isNameStart_toLower c

theorem isName_map_fold (t : List Char) : isName (t.map fold) = isName t := by
  cases t with
  | nil => rfl
  | cons c t => simp [isName, isNameStart_fold, isWordChar_fold, Function.comp_def]

/-! ## Names up to a boundary -/

theorem any_getLast?_of_isName (ht : isName t = true) : t.getLast?.any isWordChar = true := by
  cases t with
  | nil => cases ht
  | cons c t =>
      obtain ⟨hc, ht⟩ := Bool.and_eq_true_iff.mp ht
      have hall : ∀ d ∈ c :: t, isWordChar d = true :=
        List.forall_mem_cons.mpr ⟨isWordChar_of_isNameStart hc, List.all_eq_true.mp ht⟩
      rw [List.getLast?_eq_some_getLast (List.cons_ne_nil c t), Option.any_some]
      exact hall _ (List.getLast_mem _)

/-- Behind a name there is a boundary where the name does not go on. -/
theorem isWordBoundary_of_isName (ht : isName t = true) (before : Option Char) (rest : List Char) :
    isWordBoundary (t.getLast?.or before) rest.head? = endsName rest := by
  have hlast := any_getLast?_of_isName ht
  cases hopt : t.getLast? with
  | none =>
      rw [hopt] at hlast
      cases hlast
  | some c =>
      rw [hopt] at hlast
      rw [isWordBoundary, Option.some_or, hlast, endsName]
      cases rest.head?.any isWordChar <;> rfl

/-- A word that is a name and has a boundary behind it is all of the name in front of
the cursor. -/
theorem filter_cutWord? (hw : isName w = true) (before : Option Char) (s : List Char) :
    ((cutWord? w s).filter fun x => isWordBoundary (x.1.getLast?.or before) x.2.head?) =
      (cutName? s).filter fun x => x.1.map fold = w := by
  ext x
  rw [Option.filter_eq_some_iff, Option.filter_eq_some_iff, cutWord?_eq_some, cutName?_iff,
    decide_eq_true_eq]
  constructor
  · rintro ⟨⟨rfl, hs⟩, hboundary⟩
    rw [isName_map_fold] at hw
    rw [isWordBoundary_of_isName hw] at hboundary
    exact ⟨⟨hw, hboundary, hs⟩, rfl⟩
  · rintro ⟨⟨hname, hends, hs⟩, hfold⟩
    exact ⟨⟨hfold, hs⟩, (isWordBoundary_of_isName hname before x.2).trans hends⟩

/-! ## The alternatives together -/

theorem findSome?_filter_eq {α : Type} (f : α → List Char) (o : Option α)
    (ws : List (List Char)) :
    (ws.findSome? fun w => o.filter fun a => f a = w) = o.filter fun a => f a ∈ ws := by
  cases o with
  | none => simp
  | some a =>
      simp only [Option.filter_some]
      induction ws with
      | nil => rfl
      | cons w ws ih =>
          rw [List.findSome?_cons, ih]
          by_cases h : f a = w <;> simp [h]

theorem firstBounded?_eq {alternatives : List (List Char)}
    (hnames : ∀ w ∈ alternatives, isName w = true) (before : Option Char) (s : List Char) :
    firstBounded? alternatives before s =
      (cutName? s).filter fun x => x.1.map fold ∈ alternatives := by
  have hwords : firstBounded? alternatives before s =
      alternatives.findSome? fun w => (cutName? s).filter fun x => x.1.map fold = w :=
    findSome?_congr fun w hw => filter_cutWord? (hnames w hw) before s
  exact hwords.trans (findSome?_filter_eq (fun x : Cut => x.1.map fold) ..)

/-- **The pattern for a list of names takes a whole word of the list.** Read back, its
alternatives are the names of the list, and with a word boundary behind them they take
off the front of every text just the name that is on the list in any case. -/
theorem wholeWord_pattern {words : List String} (hne : words ≠ [])
    (hnames : words.all (isName ·.toList) = true) :
    ∃ alternatives,
      readGroup? (wordsPattern (words.map String.toList) "\\b".toList) =
          some (alternatives, "\\b".toList) ∧
        ∀ before s, firstBounded? alternatives before s = cutListedName? words s := by
  have hmem : ∀ w, w ∈ longestFirst (words.map String.toList) ↔ String.ofList w ∈ words := by
    intro w
    rw [mem_longestFirst, List.mem_map]
    constructor
    · rintro ⟨word, hword, rfl⟩
      rwa [String.ofList_toList]
    · exact fun hword => ⟨_, hword, String.toList_ofList⟩
  have hall : ∀ w ∈ longestFirst (words.map String.toList), isName w = true := by
    intro w hw
    have hname := List.all_eq_true.mp hnames _ ((hmem w).mp hw)
    rwa [String.toList_ofList] at hname
  refine ⟨_, readGroup?_wordsPattern (by simpa using hne) _, fun before s => ?_⟩
  rw [firstBounded?_eq hall, cutListedName?]
  simp only [hmem, List.contains_eq_mem]

namespace Rule

theorem exists_pattern {rule : Rule} {kind : Kind} {words : List String} (hne : words ≠ [])
    (hnames : words.all (isName ·.toList) = true)
    (hfind : ∀ before s, rule.find? before s =
      (cutListedName? words s).map fun x => .plain (lexemeOf kind x.1) x.2 .stay) :
    ∃ alternatives,
      readGroup? (wordsPattern (words.map String.toList) "\\b".toList) =
          some (alternatives, "\\b".toList) ∧
        ∀ before s, rule.find? before s =
          (firstBounded? alternatives before s).map fun x =>
            .plain (lexemeOf kind x.1) x.2 .stay := by
  obtain ⟨alternatives, hread, htake⟩ := wholeWord_pattern hne hnames
  exact ⟨alternatives, hread, fun before s => by rw [hfind, htake]⟩

set_option maxRecDepth 8000 in
/-- The rules for words on lists find what the patterns for the lists find. -/
theorem listedWord_patterns :
    ∀ e ∈ [(literalWord, Kind.literal, literalWords), (keywordWord, .keyword, keywordWords),
        (declarationWord, .declaration, declarationWords)],
      ∃ alternatives,
        readGroup? (wordsPattern (e.2.2.map String.toList) "\\b".toList) =
            some (alternatives, "\\b".toList) ∧
          ∀ before s, e.1.find? before s =
            (firstBounded? alternatives before s).map fun x =>
              .plain (lexemeOf e.2.1 x.1) x.2 .stay := by
  simp only [List.forall_mem_cons, List.not_mem_nil, false_implies, implies_true, and_true]
  exact ⟨exists_pattern (by decide) (by rfl) fun _ _ => rfl,
    exists_pattern (by decide) (by rfl) fun _ _ => rfl,
    exists_pattern (by decide) (by rfl) fun _ _ => rfl⟩

end Rule

end GaussMarkup
