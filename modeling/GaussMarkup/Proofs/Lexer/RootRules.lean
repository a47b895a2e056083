import GaussMarkup.Lexer.Rules
import GaussMarkup.Proofs.Lexer.Matches
import GaussMarkup.Proofs.Text.LetterCase

/-!
# Rules by their first character

Most rules of root mode look for something that begins with one of a few
characters. `Mode.rootOpenings` lists them: in front of any other character a
rule finds nothing. So of the rules of root mode only those count that the first
character of the text is listed for (`match?_of_root`). For a given character
these are a few, in the order of the mode.
-/

namespace GaussMarkup

/-! ## Characters that open a name -/

/-- A sign is folded from itself only. -/
theorem fold_eq_iff {d : Char} (hd : d.isAlpha = false) (hfold : fold d = d) (c : Char) :
    fold c = d ↔ c = d := by
  constructor
  · intro h
    unfold fold at h
    split at h
    · subst h
      cases hd
    split at h
    · subst h
      cases hd
    · exact (toLower_eq_iff hd c).mp h
  · rintro rfl
    exact hfold

theorem isNameStart_ofNat : ∀ n < 26,
    isNameStart (Char.ofNat (n + 65)) = true ∧ isNameStart (Char.ofNat (n + 97)) = true := by
  decide

/-- What holds of all ASCII letters holds of each. -/
theorem forall_isAlpha {p : Char → Prop}
    (h : ∀ n < 26, p (Char.ofNat (n + 65)) ∧ p (Char.ofNat (n + 97))) {c : Char}
    (hc : c.isAlpha = true) : p c := by
  rcases Bool.or_eq_true_iff.mp hc with hupper | hlower
  · have hrange : 65 ≤ c.toNat ∧ c.toNat ≤ 90 := of_decide_eq_true hupper
    obtain ⟨n, hn⟩ := Nat.exists_eq_add_of_le' hrange.1
    obtain rfl : c = Char.ofNat (n + 65) := by rw [← hn, Char.ofNat_toNat]
    exact (h n (by omega)).1
  · obtain ⟨hlow, hhigh⟩ := Bool.and_eq_true_iff.mp hlower
    have hlow : 97 ≤ c.toNat := of_decide_eq_true hlow
    have hhigh : c.toNat ≤ 122 := of_decide_eq_true hhigh
    obtain ⟨n, hn⟩ := Nat.exists_eq_add_of_le' hlow
    obtain rfl : c = Char.ofNat (n + 97) := by rw [← hn, Char.ofNat_toNat]
    exact (h n (by omega)).2

theorem isNameStart_iff {c : Char} :
    isNameStart c = true ↔ c.isAlpha = true ∨ c = '_' ∨ c = '\u017f' ∨ c = '\u212a' := by
  constructor
  · intro h
    by_cases hlong : c = '\u017f'
    · exact Or.inr (Or.inr (Or.inl hlong))
    by_cases hkelvin : c = '\u212a'
    · exact Or.inr (Or.inr (Or.inr hkelvin))
    rw [isNameStart, fold, if_neg hlong, if_neg hkelvin] at h
    simp only [Bool.or_eq_true, Bool.and_eq_true, decide_eq_true_eq, beq_iff_eq] at h
    rcases h with hletter | hscore
    · have hlower : c.toLower.isLower = true :=
        Bool.and_eq_true_iff.mpr ⟨decide_eq_true hletter.1, decide_eq_true hletter.2⟩
      have halpha : c.toLower.isAlpha = true := Bool.or_eq_true_iff.mpr (Or.inr hlower)
      exact Or.inl ((toLower_congr (f := Char.isAlpha) (by decide) c).symm.trans halpha)
    · exact Or.inr (Or.inl ((toLower_eq_iff (by decide) c).mp hscore))
  · rintro (halpha | rfl | rfl | rfl)
    · exact forall_isAlpha (p := fun c => isNameStart c = true) isNameStart_ofNat halpha
    · decide
    · decide
    · decide

/-- What holds of all ASCII letters and the other three holds of each character
that opens a name. -/
theorem forall_isNameStart {p : Char → Prop}
    (hletters : ∀ n < 26, p (Char.ofNat (n + 65)) ∧ p (Char.ofNat (n + 97)))
    (hothers : p '_' ∧ p '\u017f' ∧ p '\u212a') {c : Char} (hc : isNameStart c = true) : p c := by
  rcases isNameStart_iff.mp hc with halpha | rfl | rfl | rfl
  · exact forall_isAlpha hletters halpha
  · exact hothers.1
  · exact hothers.2.1
  · exact hothers.2.2

/-! ## Where a rule may find something -/

namespace Rule

/-- In front of a character outside `p` a rule finds nothing. -/
def OpensOn (rule : Rule) (p : Char → Bool) : Prop :=
  ∀ (before : Option Char) (ch : Char) (s : List Char), p ch = false →
    rule.find? before (ch :: s) = none

variable {p : Char → Bool}

theorem opensOn_single {rule : Rule} {kind : Kind} {move : Move} {scan : List Char → Option Cut}
    (hfind : ∀ before s, rule.find? before s =
      (scan s).map fun x => .plain (lexemeOf kind x.1) x.2 move)
    (hscan : ∀ ch s, p ch = false → scan (ch :: s) = none) : rule.OpensOn p := by
  intro before ch s hp
  rw [hfind, hscan ch s hp]
  rfl

end Rule

section Scanners

variable {p : Char → Bool} {ch : Char} (s : List Char)

theorem cutRun?_eq_none (hp : p ch = false) : cutRun? p (ch :: s) = none := by
  simp [cutRun?, hp]

theorem cutOne?_eq_none (hp : p ch = false) : cutOne? p (ch :: s) = none := by
  simp [cutOne?, hp]

theorem cutMark?_cons_eq_none {d : Char} (mark : List Char) (hd : ch ≠ d) :
    cutMark? (d :: mark) (ch :: s) = none := by
  simp [cutMark?, List.isPrefixOf, Ne.symm hd]

theorem cutOptional_of_ne {d : Char} (hd : ch ≠ d) :
    cutOptional d (ch :: s) = ([], ch :: s) := by
  simp [cutOptional, hd]

theorem cutMantissa?_eq_none (hdigit : isDigit ch = false) (hdot : ch ≠ '.') :
    cutMantissa? (ch :: s) = none := by
  simp [cutMantissa?, hdigit, hdot]

theorem cutName?_eq_none (hname : isNameStart ch = false) : cutName? (ch :: s) = none := by
  simp [cutName?, hname]

theorem cutListedName?_eq_none (words : List String) (hname : isNameStart ch = false) :
    cutListedName? words (ch :: s) = none := by
  simp [cutListedName?, cutName?_eq_none s hname]

theorem cutListed?_eq_none {words : List String} (hwords : "" ∉ words)
    (hword : isWordChar ch = false) : cutListed? words (ch :: s) = none := by
  simp [cutListed?, hword, hwords]

theorem restsBehindLead_cons (hblank : isBlank ch = false) (hslash : ch ≠ '/') (hat : ch ≠ '@') :
    restsBehindLead (ch :: s) = [ch :: s] := by
  simp [restsBehindLead, restsBehindComment, hblank, hslash, hat]

end Scanners

/-- Blanks, comments and directives: what the lead of a directive, or the
directive itself, begins with. -/
def opensLead (c : Char) : Bool :=
  isBlank c || ['/', '@', '#'].contains c

/-- Digits and the dot: what a mantissa begins with. -/
def opensMantissa (c : Char) : Bool :=
  isDigit c || c == '.'

namespace Rule

theorem findDirective?_eq_none {start : List Char → Option Cut} {mode : Mode} {ch : Char}
    {s : List Char} (hch : opensLead ch = false) (hstart : start (ch :: s) = none) :
    findDirective? start mode (ch :: s) = none := by
  simp only [opensLead, List.contains_cons, List.contains_nil, Bool.or_false, Bool.or_eq_false_iff,
    beq_eq_false_iff_ne] at hch
  obtain ⟨hblank, hslash, hat, -⟩ := hch
  simp [findDirective?, restsBehindLead_cons s hblank hslash hat, hstart]

theorem opensOn_atLineStart {rule : Rule} {p : Char → Bool} (h : rule.OpensOn p) :
    rule.atLineStart.OpensOn p := by
  intro before ch s hp
  simp only [atLineStart, h before ch s hp, ite_self]

theorem opensOn_disabledStart : disabledStart.OpensOn opensLead := by
  refine opensOn_atLineStart fun _ ch s hch => findDirective?_eq_none hch ?_
  have hsign : fold ch ≠ '#' := by
    rw [Ne, fold_eq_iff (by decide) (by decide)]
    rintro rfl
    cases hch
  simp [cutDisabledStart?, cutWord?, hsign]

theorem opensOn_directiveStart : directiveStart.OpensOn opensLead := by
  refine opensOn_atLineStart fun _ ch s hch => findDirective?_eq_none hch ?_
  refine cutMark?_cons_eq_none s [] ?_
  rintro rfl
  cases hch

theorem opensOn_mark {kind : Kind} {move : Move} {d : Char} {mark : List Char} :
    (one kind move (cutMark? (d :: mark)) (joins_cutMark? (d :: mark))).OpensOn (· == d) :=
  opensOn_single (fun _ _ => rfl) fun _ s hch => cutMark?_cons_eq_none s mark (by simpa using hch)

theorem opensOn_run {kind : Kind} {move : Move} {p : Char → Bool} :
    (one kind move (cutRun? p) (joins_cutRun? p)).OpensOn p :=
  opensOn_single (fun _ _ => rfl) fun _ s hch => cutRun?_eq_none s hch

theorem opensOn_class {kind : Kind} {move : Move} {p : Char → Bool} :
    (one kind move (cutOne? p) (joins_cutOne? p)).OpensOn p :=
  opensOn_single (fun _ _ => rfl) fun _ s hch => cutOne?_eq_none s hch

theorem opensOn_listedName {kind : Kind} {move : Move} {words : List String} :
    (one kind move (cutListedName? words) (joins_cutListedName? words)).OpensOn isNameStart :=
  opensOn_single (fun _ _ => rfl) fun _ s hch => cutListedName?_eq_none s words hch

theorem opensOn_lineComment : lineComment.OpensOn (· == '/') := by
  refine opensOn_single (fun _ _ => rfl) fun ch s hch => ?_
  have hslash : ch ≠ '/' := by simpa using hch
  simp [cutLineComment?, hslash]

theorem opensOn_blockComment : blockComment.OpensOn (· == '/') := by
  refine opensOn_single (fun _ _ => rfl) fun ch s hch => ?_
  have hslash : ch ≠ '/' := by simpa using hch
  simp [cutBlockComment?, cutBlockStart?, hslash]

theorem opensOn_atComment : atComment.OpensOn (· == '@') := by
  refine opensOn_single (fun _ _ => rfl) fun ch s hch => ?_
  have hat : ch ≠ '@' := by simpa using hch
  simp [cutAtComment?, hat]

theorem opensOn_hex : hex.OpensOn (· == '0') := by
  refine opensOn_single (fun _ _ => rfl) fun ch s hch => ?_
  have hzero : fold ch ≠ '0' := by
    rw [Ne, fold_eq_iff (by decide) (by decide)]
    simpa using hch
  simp [cutHex?, cutWord?, hzero]

theorem opensOn_scientific : scientific.OpensOn opensMantissa := by
  refine opensOn_single (fun _ _ => rfl) fun ch s hch => ?_
  simp only [opensMantissa, Bool.or_eq_false_iff, beq_eq_false_iff_ne] at hch
  simp [cutScientific?, cutMantissa?_eq_none s hch.1 hch.2]

theorem opensOn_decimal : decimal.OpensOn fun c => c == '-' || opensMantissa c := by
  intro before ch s hch
  simp only [opensMantissa, Bool.or_eq_false_iff, beq_eq_false_iff_ne] at hch
  obtain ⟨hsign, hdigit, hdot⟩ := hch
  have hscan : cutSigned? (ch :: s) = none := by
    simp [cutSigned?, cutOptional_of_ne s hsign, cutMantissa?_eq_none s hdigit hdot]
  simp [decimal, guarded, hscan]

theorem opensOn_comparisonWord :
    comparisonWord.OpensOn fun c => ['.', '$'].contains c || isWordChar c := by
  refine opensOn_single (fun _ _ => rfl) fun ch s hch => ?_
  simp only [List.contains_cons, List.contains_nil, Bool.or_false, Bool.or_eq_false_iff,
    beq_eq_false_iff_ne] at hch
  obtain ⟨⟨hdot, hdollar⟩, hword⟩ := hch
  simp [cutComparisonWord?, cutOptional_of_ne s hdot, cutOptional_of_ne s hdollar,
    cutListed?_eq_none s (show "" ∉ comparisonWords by decide) hword]

theorem opensOn_logicalWord : logicalWord.OpensOn fun c => c == '.' || isWordChar c := by
  refine opensOn_single (fun _ _ => rfl) fun ch s hch => ?_
  simp only [Bool.or_eq_false_iff, beq_eq_false_iff_ne] at hch
  obtain ⟨hdot, hword⟩ := hch
  simp [cutLogicalWord?, cutOptional_of_ne s hdot,
    cutListed?_eq_none s (show "" ∉ logicalWords by decide) hword]

theorem opensOn_comparison :
    comparison.OpensOn (['.', '$', '~', '/', '=', '!', '<', '>'].contains ·) := by
  refine opensOn_single (fun _ _ => rfl) fun ch s hch => ?_
  simp only [List.contains_cons, List.contains_nil, Bool.or_false, Bool.or_eq_false_iff,
    beq_eq_false_iff_ne] at hch
  obtain ⟨hdot, hdollar, htilde, hslash, heq, hbang, hless, hgreater⟩ := hch
  simp only [cutComparison?, cutOptional_of_ne s hdot, cutOptional_of_ne s hdollar]
  unfold cutComparisonSign?
  split <;> simp_all

theorem opensOn_stringSign : stringSign.OpensOn fun c => c == '$' || isStringSign c := by
  refine opensOn_single (fun _ _ => rfl) fun ch s hch => ?_
  simp only [Bool.or_eq_false_iff, beq_eq_false_iff_ne] at hch
  simp [cutStringSign?, cutOptional_of_ne s hch.1, cutOne?_eq_none s hch.2]

theorem opensOn_product : product.OpensOn (['.', '*'].contains ·) := by
  refine opensOn_single (fun _ _ => rfl) fun ch s hch => ?_
  simp only [List.contains_cons, List.contains_nil, Bool.or_false, Bool.or_eq_false_iff,
    beq_eq_false_iff_ne] at hch
  simp [cutProduct?, cutOptional_of_ne s hch.1, cutMark?_cons_eq_none s [] hch.2]

theorem opensOn_dottedSign : dottedSign.OpensOn fun c => c == '.' || isDottedSign c := by
  refine opensOn_single (fun _ _ => rfl) fun ch s hch => ?_
  simp only [Bool.or_eq_false_iff, beq_eq_false_iff_ne] at hch
  simp [cutDotted?, cutOptional_of_ne s hch.1, cutOne?_eq_none s hch.2]

theorem opensOn_header {words : List String} {kind : Kind} :
    Rule.OpensOn ⟨fun _ s => findHeader? words kind s, covers_findHeader?⟩ isNameStart := by
  intro _ ch s hch
  simp [findHeader?, cutListedName?_eq_none s _ hch]

theorem opensOn_functionHeader : functionHeader.OpensOn isNameStart := by
  intro _ ch s hch
  simp [functionHeader, findFunctionHeader?, cutListedName?_eq_none s _ hch]

theorem opensOn_call : call.OpensOn isNameStart := by
  intro _ ch s hch
  simp [call, findCall?, cutName?_eq_none s hch]

theorem opensOn_label : label.OpensOn isNameStart := by
  refine opensOn_atLineStart ?_
  intro _ ch s hch
  simp [findLabel?, cutName?_eq_none s hch]

theorem opensOn_memberAccess : memberAccess.OpensOn isNameStart := by
  intro _ ch s hch
  simp [memberAccess, findMemberAccess?, cutName?_eq_none s hch]

theorem opensOn_name : name.OpensOn isNameStart :=
  opensOn_single (fun _ _ => rfl) fun _ s hch => cutName?_eq_none s hch

end Rule

/-! ## The rules of root mode -/

/-- The rules of root mode, each with the characters in front of which it may
find something. -/
def Mode.rootOpenings : List (Rule × (Char → Bool)) :=
  [(.disabledStart, opensLead), (.directiveStart, opensLead), (.newline, (· == '\n')),
    (.blanks, isBlank), (.continuation, (· == '\\')), (.lineComment, (· == '/')),
    (.blockComment, (· == '/')), (.atComment, (· == '@')), (.stringStart, (· == '"')),
    (.hex, (· == '0')), (.scientific, opensMantissa),
    (.decimal, fun c => c == '-' || opensMantissa c), (.integer, isDigit),
    (.strayCommentEnd, (· == '*')),
    (.comparisonWord, fun c => ['.', '$'].contains c || isWordChar c),
    (.logicalWord, fun c => c == '.' || isWordChar c),
    (.comparison, (['.', '$', '~', '/', '=', '!', '<', '>'].contains ·)),
    (.stringSign, fun c => c == '$' || isStringSign c), (.product, (['.', '*'].contains ·)),
    (.dottedSign, fun c => c == '.' || isDottedSign c), (.loneSign, isLoneSign),
    (.punctuation, isPunctuation), (.structHeader, isNameStart), (.loopHeader, isNameStart),
    (.functionHeader, isNameStart), (.literalWord, isNameStart), (.keywordWord, isNameStart),
    (.declarationWord, isNameStart), (.call, isNameStart), (.label, isNameStart),
    (.memberAccess, isNameStart), (.name, isNameStart), (.other, (· != '\n'))]

theorem Mode.map_rootOpenings : rootOpenings.map Prod.fst = root.rules := rfl

theorem Mode.opensOn_rootOpenings : ∀ e ∈ rootOpenings, e.1.OpensOn e.2 := by
  simp only [rootOpenings, List.forall_mem_cons, List.not_mem_nil, false_implies, implies_true,
    and_true]
  exact ⟨Rule.opensOn_disabledStart, Rule.opensOn_directiveStart, Rule.opensOn_mark,
    Rule.opensOn_run, Rule.opensOn_mark, Rule.opensOn_lineComment, Rule.opensOn_blockComment,
    Rule.opensOn_atComment, Rule.opensOn_mark, Rule.opensOn_hex, Rule.opensOn_scientific,
    Rule.opensOn_decimal, Rule.opensOn_run, Rule.opensOn_mark, Rule.opensOn_comparisonWord,
    Rule.opensOn_logicalWord, Rule.opensOn_comparison, Rule.opensOn_stringSign,
    Rule.opensOn_product, Rule.opensOn_dottedSign, Rule.opensOn_class, Rule.opensOn_class,
    Rule.opensOn_header, Rule.opensOn_header, Rule.opensOn_functionHeader,
    Rule.opensOn_listedName, Rule.opensOn_listedName, Rule.opensOn_listedName,
    Rule.opensOn_call, Rule.opensOn_label, Rule.opensOn_memberAccess, Rule.opensOn_name,
    Rule.opensOn_class⟩

/-- The rules of root mode that may find something in front of a character. -/
def Mode.rootRulesOn (ch : Char) : List Rule :=
  (rootOpenings.filter (·.2 ch)).map Prod.fst

namespace Cursor

variable {c : Cursor}

theorem mode_of_stack {mode : Mode} {stack : List Mode} (h : c.stack = mode :: stack) :
    c.mode = mode := by
  rw [Cursor.mode, h]
  rfl

/-- A rule that finds nothing leaves the match to the rules behind it. -/
theorem firstMatch?_of_none {rule : Rule} (rules : List Rule)
    (h : rule.find? c.before c.rest = none) :
    c.firstMatch? (rule :: rules) = c.firstMatch? rules := by
  simp [firstMatch?, h]

/-- A rule has the first match, or the match is that of the rules behind it. -/
theorem firstMatch?_cons (c : Cursor) (rule : Rule) (rules : List Rule) :
    (∃ m, rule.find? c.before c.rest = some m ∧ c.firstMatch? (rule :: rules) = some m) ∨
      c.firstMatch? (rule :: rules) = c.firstMatch? rules := by
  rw [firstMatch?, List.findSome?_cons]
  cases hfind : (rule.find? c.before c.rest).filter c.advancesBy with
  | some m => exact Or.inl ⟨m, (Option.filter_eq_some_iff.mp hfind).1, rfl⟩
  | none => exact Or.inr rfl

theorem firstMatch?_filter {ch : Char} {s : List Char} (hrest : c.rest = ch :: s)
    {openings : List (Rule × (Char → Bool))} (h : ∀ e ∈ openings, e.1.OpensOn e.2) :
    c.firstMatch? (openings.map Prod.fst) =
      c.firstMatch? ((openings.filter (·.2 ch)).map Prod.fst) := by
  induction openings with
  | nil => rfl
  | cons e openings ih =>
      obtain ⟨hopens, hrules⟩ := List.forall_mem_cons.mp h
      have ih := ih hrules
      cases he : e.2 ch with
      | false =>
          have hnone : e.1.find? c.before c.rest = none := by
            rw [hrest]
            exact hopens c.before ch s he
          rw [List.map_cons, firstMatch?_of_none _ hnone, ih,
            List.filter_cons_of_neg (by simp [he])]
      | true =>
          rw [List.filter_cons_of_pos (by simp [he]), List.map_cons, List.map_cons]
          simp only [firstMatch?, List.findSome?_cons] at ih ⊢
          rw [ih]

/-- Rules that find nothing in front of a character leave the match to the rules
behind them. -/
theorem firstMatch?_skip {ch : Char} {s : List Char} (hrest : c.rest = ch :: s)
    {openings : List (Rule × (Char → Bool))} {rules : List Rule}
    (h : ∀ e ∈ openings, e.1.OpensOn e.2 ∧ e.2 ch = false) :
    c.firstMatch? (openings.map Prod.fst ++ rules) = c.firstMatch? rules := by
  induction openings with
  | nil => rfl
  | cons e openings ih =>
      obtain ⟨⟨hopens, hch⟩, hopenings⟩ := List.forall_mem_cons.mp h
      have hnone : e.1.find? c.before c.rest = none := by
        rw [hrest]
        exact hopens c.before ch s hch
      rw [List.map_cons, List.cons_append, firstMatch?_of_none _ hnone, ih hopenings]

/-- In root mode the first character of the text picks the rules that count. -/
theorem match?_of_root {ch : Char} {s : List Char} (hmode : c.mode = .root)
    (hrest : c.rest = ch :: s) : c.match? = c.firstMatch? (Mode.rootRulesOn ch) := by
  rw [match?_eq_firstMatch?, hmode, ← Mode.map_rootOpenings]
  exact firstMatch?_filter hrest Mode.opensOn_rootOpenings

/-- A rule with a single lexeme, where its scanner takes something. -/
theorem firstMatch?_of_scan {rule : Rule} {kind : Kind} {move : Move}
    {scan : List Char → Option Cut} {x : Cut} (rules : List Rule)
    (hfind : rule.find? c.before c.rest =
      (scan c.rest).map fun x => .plain (lexemeOf kind x.1) x.2 move)
    (hscan : scan c.rest = some x) (hne : x.1 ≠ []) :
    c.firstMatch? (rule :: rules) = some (.plain [⟨kind, x.1⟩] x.2 move) := by
  refine firstMatch?_of_some rules ?_ (advancesBy_of_text_ne_nil ?_)
  · rw [hfind, hscan, Option.map_some, lexemeOf, if_neg hne]
  · simpa using hne

/-! ## Blanks and directives -/

variable {ch : Char} {s w : List Char}

/-- In front of what may be the lead of a directive, the two rules for directives
come first. -/
theorem match?_of_opensLead (hmode : c.mode = .root) (hrest : c.rest = ch :: s)
    (hch : opensLead ch = true) :
    (∃ m, c.match? = some m ∧ (Rule.disabledStart.find? c.before c.rest = some m ∨
        Rule.directiveStart.find? c.before c.rest = some m)) ∨
      c.match? = c.firstMatch? ((Mode.rootRulesOn ch).drop 2) := by
  have hrules : Mode.rootRulesOn ch =
      .disabledStart :: .directiveStart :: (Mode.rootRulesOn ch).drop 2 := by
    simp [Mode.rootRulesOn, Mode.rootOpenings, hch]
  rw [match?_of_root hmode hrest, hrules]
  rcases firstMatch?_cons c .disabledStart _ with ⟨m, hm, hfirst⟩ | hnone
  · exact Or.inl ⟨m, hfirst, Or.inl hm⟩
  rw [hnone]
  rcases firstMatch?_cons c .directiveStart _ with ⟨m, hm, hfirst⟩ | hnone
  · exact Or.inl ⟨m, hfirst, Or.inr hm⟩
  · exact Or.inr hnone

theorem firstMatch?_of_lineFeed (hrest : c.rest = '\n' :: s) :
    c.firstMatch? ((Mode.rootRulesOn '\n').drop 2) =
      some (.plain [⟨.text, ['\n']⟩] s .stay) := by
  have hscan : cutMark? ['\n'] c.rest = some (['\n'], s) := cutMark?_eq_some.mpr ⟨rfl, hrest⟩
  exact firstMatch?_of_scan _ rfl hscan (by simp)

/-- Blanks are taken together, with the line feeds among them, where the first of
them is no line feed. -/
theorem firstMatch?_of_blanks (hw : ∀ d ∈ ch :: w, isBlank d = true) (hfeed : ch ≠ '\n')
    (hs : s.dropWhile isBlank = s) (hrest : c.rest = ch :: w ++ s) :
    c.firstMatch? ((Mode.rootRulesOn ch).drop 2) =
      some (.plain [⟨.text, ch :: w⟩] s .stay) := by
  have hrules : (Mode.rootRulesOn ch).drop 2 = .blanks :: (Mode.rootRulesOn ch).drop 3 := by
    simp [Mode.rootRulesOn, Mode.rootOpenings, opensLead, hw ch (List.mem_cons_self ..), hfeed]
  have hdrop : c.rest.dropWhile isBlank = s := by
    rw [hrest, List.dropWhile_append_of_pos hw, hs]
  have htake : c.rest.takeWhile isBlank = ch :: w := by
    have hsplit := List.takeWhile_append_dropWhile (p := isBlank) (l := c.rest)
    rw [hdrop] at hsplit
    exact List.append_cancel_right (hsplit.trans hrest)
  have hscan : cutRun? isBlank c.rest = some (ch :: w, s) :=
    cutRun?_eq_some.mpr ⟨by simp [htake], by rw [htake, hdrop]⟩
  rw [hrules]
  exact firstMatch?_of_scan _ rfl hscan (by simp)

end Cursor

end GaussMarkup
