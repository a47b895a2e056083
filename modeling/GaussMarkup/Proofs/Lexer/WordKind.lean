import GaussMarkup.Lexicon.Basic
import GaussMarkup.Proofs.Lexer.RootRules
import GaussMarkup.Proofs.Lexer.Run
import GaussMarkup.Proofs.Text.Lowercase

/-!
# What a word is

The kind of a word can be told from the lists of fixed words and from what stands
around the word (`wordKind`). The lexer has no such function: it tries rules in
their order, and the lists are only some of them. In front of a name thirteen
rules count, and each begins its match with the name or finds nothing
(`Cursor.Reads`). So the first of them that finds something gives the name its
kind (`firstLexeme?_wordRules`). The headers in front of the lists do not disturb
this: what they call a keyword is on the list of keywords, but for `struct`.
-/

namespace GaussMarkup

/-! ## Kinds from the lists -/

/-- The operators that are words. -/
def operatorWords : List String :=
  ["ne", "ge", "le", "gt", "lt", "and", "or", "xor", "not", "eq", "eqv"]

/-- Blanks and a name follow. -/
def opensHeader (rest : List Char) : Bool :=
  !(rest.takeWhile isBlank).isEmpty && (rest.dropWhile isBlank).head?.any isNameStart

/-- An open parenthesis follows, perhaps behind blanks. -/
def opensCall (rest : List Char) : Bool :=
  (rest.dropWhile isBlank).head? == some '('

/-- At the start of a line, a single colon follows. -/
def opensLabel (before : Option Char) (rest : List Char) : Bool :=
  atLineStart before && rest.head? == some ':' && rest.tail.head? != some ':'

/-- The kind of a word, given the character in front of it and the text behind
it. -/
def wordKind (before : Option Char) (word rest : List Char) : Kind :=
  if operatorWords.contains (String.ofList (lowercase (word.map shortS))) then .operatorWord
  else
    match classifyWord? (word.map shortS) with
    | some .literal => .literal
    | some .keyword => .keyword
    | some .declaration =>
      if lowercase (word.map shortS) = "struct".toList ∧ opensHeader rest then .keyword
      else .declaration
    | some .builtin | none =>
      if opensCall rest then .functionName
      else if opensLabel before rest then .label
      else .name

set_option maxRecDepth 8000 in
/-- The same, with the lists looked up as the rules do. -/
theorem wordKind_eq (before : Option Char) (word rest : List Char) :
    wordKind before word rest =
      if operatorWords.contains (String.ofList (word.map fold)) then .operatorWord
      else if literalWords.contains (String.ofList (word.map fold)) then .literal
      else if keywordWords.contains (String.ofList (word.map fold)) then .keyword
      else if declarationWords.contains (String.ofList (word.map fold)) then
        if word.map fold = "struct".toList ∧ opensHeader rest then .keyword else .declaration
      else if opensCall rest then .functionName
      else if opensLabel before rest then .label
      else .name := by
  have hoperator :=
    contains_lowercase_shortS (show operatorWords.all (isAscii ·.toList) = true by rfl) word
  have hliteral : WordClass.literal.holds (word.map shortS) =
      literalWords.contains (String.ofList (word.map fold)) :=
    contains_lowercase_shortS (by rfl) word
  have hkeyword : WordClass.keyword.holds (word.map shortS) =
      keywordWords.contains (String.ofList (word.map fold)) :=
    contains_lowercase_shortS (by rfl) word
  have hdeclaration : WordClass.declaration.holds (word.map shortS) =
      declarationWords.contains (String.ofList (word.map fold)) :=
    contains_lowercase_shortS (by rfl) word
  have hstruct : lowercase (word.map shortS) = "struct".toList ↔ word.map fold = "struct".toList :=
    lowercaseAfter_shortS_eq_iff (by rfl) [] word
  simp only [wordKind, classifyWord?, WordClass.all, List.find?_cons, List.find?_nil, hoperator,
    hliteral, hkeyword, hdeclaration, hstruct]
  split
  · rfl
  cases literalWords.contains (String.ofList (word.map fold)) with
  | true => rfl
  | false =>
      cases keywordWords.contains (String.ofList (word.map fold)) with
      | true => rfl
      | false =>
          cases declarationWords.contains (String.ofList (word.map fold)) with
          | true => rfl
          | false => cases WordClass.builtin.holds (word.map shortS) <;> rfl

/-! ## The rules that count in front of a name -/

set_option maxRecDepth 8000 in
theorem isWordChar_of_isNameStart {ch : Char} (h : isNameStart ch = true) :
    isWordChar ch = true :=
  forall_isNameStart (p := fun c => isWordChar c = true) (by decide) (by decide) h

/-- The rules that may find something in front of a name, in their order. -/
def Mode.wordRules : List Rule :=
  [.comparisonWord, .logicalWord, .structHeader, .loopHeader, .functionHeader, .literalWord,
    .keywordWord, .declarationWord, .call, .label, .memberAccess, .name, .other]

theorem filter_eq_of_map {α : Type} {xs : List α} {p : α → Bool} {mask : List Bool}
    (h : xs.map p = mask) : xs.filter p = ((xs.zip mask).filter Prod.snd).map Prod.fst := by
  subst h
  induction xs with
  | nil => rfl
  | cons x xs ih =>
      rw [List.map_cons, List.zip_cons_cons]
      cases hx : p x with
      | false => rw [List.filter_cons_of_neg (by simp [hx]), List.filter_cons_of_neg (by simp), ih]
      | true =>
          rw [List.filter_cons_of_pos hx, List.filter_cons_of_pos rfl, List.map_cons, ih]

set_option maxRecDepth 8000 in
theorem Mode.rootRulesOn_of_isNameStart {ch : Char} (h : isNameStart ch = true) :
    rootRulesOn ch = wordRules := by
  have hmask : rootOpenings.map (·.2 ch) =
      [false, false, false, false, false, false, false, false, false, false, false, false, false,
        false, true, true, false, false, false, false, false, false, true, true, true, true, true,
        true, true, true, true, true, true] :=
    forall_isNameStart (p := fun c => rootOpenings.map (·.2 c) = _) (by decide) (by decide) h
  rw [rootRulesOn, filter_eq_of_map hmask]
  rfl

/-- The kind that the rules give to a word, in their order. Whether the word
begins a one-line function is left open: that depends on the text up to the next
equals sign. -/
def ruleKind (opensFunction : Bool) (before : Option Char) (folded : String) (rest : List Char) :
    Kind :=
  if comparisonWords.contains folded then .operatorWord
  else if logicalWords.contains folded then .operatorWord
  else if ["struct"].contains folded && opensHeader rest then .keyword
  else if ["for", "threadfor"].contains folded && opensHeader rest then .keyword
  else if opensFunction then .keyword
  else if literalWords.contains folded then .literal
  else if keywordWords.contains folded then .keyword
  else if declarationWords.contains folded then .declaration
  else if opensCall rest then .functionName
  else if opensLabel before rest then .label
  else .name

/-! ## What the rules find in front of a name -/

theorem cutListedName?_of_cutName? {s w rest : List Char} (hname : cutName? s = some (w, rest))
    (words : List String) :
    cutListedName? words s =
      if words.contains (String.ofList (w.map fold)) then some (w, rest) else none := by
  rw [cutListedName?, hname, Option.filter_some]

theorem cutListed?_of_cutName? {s w rest : List Char} (hname : cutName? s = some (w, rest))
    (words : List String) :
    cutListed? words s =
      if words.contains (String.ofList (w.map fold)) then some (w, rest) else none := by
  obtain ⟨ch, t, rfl, hch, heq⟩ := cutName?_eq_some.mp hname
  obtain ⟨rfl, rfl⟩ := Prod.mk.inj heq
  rw [cutListed?, List.takeWhile_cons_of_pos (isWordChar_of_isNameStart hch),
    List.dropWhile_cons_of_pos (isWordChar_of_isNameStart hch)]

/-- No mark of an operator stands in front of a name. -/
theorem cutOptional_of_cutName? {s w rest : List Char} (hname : cutName? s = some (w, rest))
    {d : Char} (hd : isNameStart d = false) : cutOptional d s = ([], s) := by
  obtain ⟨ch, t, rfl, hch, -⟩ := cutName?_eq_some.mp hname
  refine cutOptional_of_ne t ?_
  rintro rfl
  rw [hch] at hd
  cases hd

namespace Cursor

variable {c : Cursor} {rule : Rule} {rules : List Rule} {l : Lexeme} {b : Bool}
  {kind : Kind} {w rest : List Char}

/-- A rule finds a match that begins with `l`, or nothing. -/
def Reads (c : Cursor) (rule : Rule) (b : Bool) (l : Lexeme) : Prop :=
  (rule.find? c.before c.rest).map (·.front.head?) = if b then some (some l) else none

/-- The lexeme that the match of the first of some rules begins with. -/
def firstLexeme? (c : Cursor) (rules : List Rule) : Option Lexeme :=
  (c.firstMatch? rules).bind (·.front.head?)

theorem firstLexeme?_cons (h : c.Reads rule b l) (hl : l.text ≠ []) (rules : List Rule) :
    c.firstLexeme? (rule :: rules) = if b then some l else c.firstLexeme? rules := by
  cases b with
  | false =>
      rw [Reads, if_neg Bool.false_ne_true, Option.map_eq_none_iff] at h
      rw [firstLexeme?, firstMatch?_of_none rules h]
      rfl
  | true =>
      rw [Reads, if_pos rfl, Option.map_eq_some_iff] at h
      obtain ⟨m, hm, hfront⟩ := h
      have htext : m.text ≠ [] := by
        obtain ⟨ls, hls⟩ := List.head?_eq_some_iff.mp hfront
        simp [Match.text, hls, hl]
      rw [firstLexeme?, firstMatch?_of_some rules hm (advancesBy_of_text_ne_nil htext)]
      exact hfront

theorem head?_lexemes_of_firstLexeme? (hmatch : c.match? = c.firstMatch? rules)
    (hrest : c.rest ≠ []) (h : c.firstLexeme? rules = some l) : c.lexemes.head? = some l := by
  obtain ⟨m, hm, hfront⟩ := Option.bind_eq_some_iff.mp h
  rw [lexemes_of_step? (step?_of_match hrest (hmatch.trans hm)), Match.yield]
  obtain ⟨ls, hls⟩ := List.head?_eq_some_iff.mp hfront
  rw [hls]
  rfl

section Names

variable (hname : cutName? c.rest = some (w, rest))
include hname

theorem reads_single (scan : List Char → Option Cut) {move : Move}
    (hfind : rule.find? c.before c.rest =
      (scan c.rest).map fun x => .plain (lexemeOf kind x.1) x.2 move)
    (hscan : scan c.rest = if b then some (w, rest) else none) : c.Reads rule b ⟨kind, w⟩ := by
  have hne : w ≠ [] := cutName?_ne_nil hname
  rw [Reads, hfind, hscan]
  cases b with
  | false => rfl
  | true => simp [Match.plain, lexemeOf, hne]

theorem reads_comparisonWord :
    c.Reads .comparisonWord (comparisonWords.contains (String.ofList (w.map fold)))
      ⟨.operatorWord, w⟩ := by
  refine reads_single hname cutComparisonWord? rfl ?_
  simp only [cutComparisonWord?,
    cutOptional_of_cutName? hname (show isNameStart '.' = false by rfl),
    cutOptional_of_cutName? hname (show isNameStart '$' = false by rfl),
    cutListed?_of_cutName? hname]
  split <;> rfl

theorem reads_logicalWord :
    c.Reads .logicalWord (logicalWords.contains (String.ofList (w.map fold)))
      ⟨.operatorWord, w⟩ := by
  refine reads_single hname cutLogicalWord? rfl ?_
  simp only [cutLogicalWord?, cutOptional_of_cutName? hname (show isNameStart '.' = false by rfl),
    cutListed?_of_cutName? hname]
  split <;> rfl

theorem reads_listedWord (words : List String)
    (hfind : rule.find? c.before c.rest =
      (cutListedName? words c.rest).map fun x => .plain (lexemeOf kind x.1) x.2 .stay) :
    c.Reads rule (words.contains (String.ofList (w.map fold))) ⟨kind, w⟩ :=
  reads_single hname _ hfind (cutListedName?_of_cutName? hname words)

/-- A header begins with its word, where blanks and a name stand behind that. -/
theorem reads_header (words : List String)
    (hfind : rule.find? c.before c.rest = findHeader? words kind c.rest) :
    c.Reads rule (words.contains (String.ofList (w.map fold)) && opensHeader rest)
      ⟨.keyword, w⟩ := by
  rw [Reads, hfind, findHeader?, cutListedName?_of_cutName? hname]
  cases words.contains (String.ofList (w.map fold)) with
  | false => rfl
  | true =>
      rw [if_pos rfl, Option.bind_some, Bool.true_and, cutRun?, opensHeader]
      cases hblanks : rest.takeWhile isBlank with
      | nil => rfl
      | cons d blanks =>
          rw [if_neg (List.cons_ne_nil d blanks), Option.bind_some]
          cases hdrop : rest.dropWhile isBlank with
          | nil => rfl
          | cons e u => cases he : isNameStart e <;> simp [cutName?, he, Match.plain]

theorem reads_functionHeader :
    ∃ b, (b = true → w.map fold = "fn".toList) ∧ c.Reads .functionHeader b ⟨.keyword, w⟩ := by
  cases hm : Rule.functionHeader.find? c.before c.rest with
  | none => exact ⟨false, by simp, by rw [Reads, hm]; rfl⟩
  | some m =>
      obtain ⟨word, hword, h⟩ := Option.bind_eq_some_iff.mp hm
      obtain ⟨blanks, -, h⟩ := Option.bind_eq_some_iff.mp h
      obtain ⟨name, -, h⟩ := Option.bind_eq_some_iff.mp h
      obtain ⟨sign, -, rfl⟩ := Option.map_eq_some_iff.mp h
      obtain ⟨hword, hlisted⟩ := Option.filter_eq_some_iff.mp hword
      obtain rfl := Option.some.inj (hname.symm.trans hword)
      refine ⟨true, fun _ => ?_, by rw [Reads, hm]; rfl⟩
      have hfn := List.mem_singleton.mp (List.contains_iff_mem.mp hlisted)
      rw [← hfn, String.toList_ofList]

theorem reads_call : c.Reads .call (opensCall rest) ⟨.functionName, w⟩ := by
  have hfind : Rule.call.find? c.before c.rest = findCall? c.rest := rfl
  rw [Reads, hfind, findCall?, hname, Option.bind_some, opensCall]
  cases hdrop : rest.dropWhile isBlank with
  | nil => rfl
  | cons d u =>
      by_cases hd : d = '('
      · subst hd
        rfl
      · simp [cutMark?_cons_eq_none u [] hd, hd]

theorem reads_label : c.Reads .label (opensLabel c.before rest) ⟨.label, w⟩ := by
  have hfind : Rule.label.find? c.before c.rest =
      if atLineStart c.before then findLabel? c.before c.rest else none := rfl
  rw [Reads, hfind, findLabel?, hname, Option.bind_some, opensLabel]
  cases atLineStart c.before with
  | false => rfl
  | true =>
      cases rest with
      | nil => rfl
      | cons d u =>
          by_cases hd : d = ':'
          · subst hd
            have hcolon : cutMark? [':'] (':' :: u) = some ([':'], u) :=
              cutMark?_eq_some.mpr ⟨rfl, rfl⟩
            cases hu : u.head? != some ':' <;>
              simp [hcolon, Guard.admits, hu, Option.filter, Match.plain]
          · simp [cutMark?_cons_eq_none u [] hd, hd]

theorem reads_memberAccess : ∃ b, c.Reads .memberAccess b ⟨.name, w⟩ := by
  cases hm : Rule.memberAccess.find? c.before c.rest with
  | none => exact ⟨false, by rw [Reads, hm]; rfl⟩
  | some m =>
      obtain ⟨name, hword, h⟩ := Option.bind_eq_some_iff.mp hm
      obtain ⟨sign, -, h⟩ := Option.bind_eq_some_iff.mp h
      obtain ⟨member, -, rfl⟩ := Option.map_eq_some_iff.mp h
      obtain rfl := Option.some.inj (hname.symm.trans hword)
      exact ⟨true, by rw [Reads, hm]; rfl⟩

theorem reads_name : c.Reads .name true ⟨.name, w⟩ :=
  reads_single hname cutName? rfl hname

theorem firstLexeme?_wordRules :
    ∃ b : Bool, (b = true → w.map fold = "fn".toList) ∧
      c.firstLexeme? Mode.wordRules =
        some ⟨ruleKind b c.before (String.ofList (w.map fold)) rest, w⟩ := by
  have hne : w ≠ [] := cutName?_ne_nil hname
  -- What these two find depends on more text than `ruleKind` is given.
  obtain ⟨b, hfn, hfunction⟩ := reads_functionHeader hname
  obtain ⟨member, hmember⟩ := reads_memberAccess hname
  refine ⟨b, hfn, ?_⟩
  rw [Mode.wordRules, firstLexeme?_cons (reads_comparisonWord hname) hne,
    firstLexeme?_cons (reads_logicalWord hname) hne,
    firstLexeme?_cons (reads_header hname ["struct"] rfl) hne,
    firstLexeme?_cons (reads_header hname ["for", "threadfor"] rfl) hne,
    firstLexeme?_cons hfunction hne,
    firstLexeme?_cons (reads_listedWord hname literalWords rfl) hne,
    firstLexeme?_cons (reads_listedWord hname keywordWords rfl) hne,
    firstLexeme?_cons (reads_listedWord hname declarationWords rfl) hne,
    firstLexeme?_cons (reads_call hname) hne, firstLexeme?_cons (reads_label hname) hne,
    firstLexeme?_cons hmember hne, firstLexeme?_cons (reads_name hname) hne, if_pos rfl, ite_self]
  simp only [ruleKind, apply_ite some, apply_ite (Lexeme.mk · w)]

end Names

end Cursor

/-! ## The two ways compared -/

theorem contains_operatorWords (f : String) :
    operatorWords.contains f = (comparisonWords.contains f || logicalWords.contains f) := by
  have hperm : operatorWords.Perm (comparisonWords ++ logicalWords) := by decide
  rw [Bool.eq_iff_iff, Bool.or_eq_true, List.contains_iff_mem, List.contains_iff_mem,
    List.contains_iff_mem, hperm.mem_iff, List.mem_append]

/-- The words that open a header, but for `struct`, are on the list of keywords. -/
theorem keyword_of_opensHeader {f : String} (h : f ∈ ["for", "threadfor", "fn"]) :
    comparisonWords.contains f = false ∧ logicalWords.contains f = false ∧
      literalWords.contains f = false ∧ keywordWords.contains f = true := by
  revert f
  decide

theorem declaration_of_struct :
    comparisonWords.contains "struct" = false ∧ logicalWords.contains "struct" = false ∧
      literalWords.contains "struct" = false ∧ keywordWords.contains "struct" = false ∧
      ["struct"].contains "struct" = true ∧ ["for", "threadfor"].contains "struct" = false ∧
      declarationWords.contains "struct" = true := by
  decide

theorem ruleKind_eq_wordKind {b : Bool} {w : List Char} (hfn : b = true → w.map fold = "fn".toList)
    (before : Option Char) (rest : List Char) :
    ruleKind b before (String.ofList (w.map fold)) rest = wordKind before w rest := by
  have hword : ∀ word : String, w.map fold = word.toList ↔ String.ofList (w.map fold) = word := by
    intro word
    rw [← String.toList_inj, String.toList_ofList]
  simp only [hword] at hfn
  simp only [wordKind_eq, contains_operatorWords, hword, ruleKind]
  generalize String.ofList (w.map fold) = f at hfn
  by_cases hstruct : f = "struct"
  · subst hstruct
    obtain ⟨hcomparison, hlogical, hliteral, hkeyword, hheader, hloop, hdeclaration⟩ :=
      declaration_of_struct
    have hb : b = false := by
      rw [Bool.eq_false_iff]
      intro htrue
      exact absurd (hfn htrue) (by decide)
    simp only [hcomparison, hlogical, hliteral, hkeyword, hheader, hloop, hdeclaration, hb,
      Bool.or_self, Bool.false_and, Bool.true_and, Bool.false_eq_true, if_false, if_true, true_and]
  · have hheader : ["struct"].contains f = false := by simpa using hstruct
    by_cases hopens : f ∈ ["for", "threadfor"] ∨ b = true
    · -- A keyword with a header or without one.
      have hmem : f ∈ ["for", "threadfor", "fn"] := by
        rcases hopens with hloop | hb
        · exact List.mem_append_left ["fn"] hloop
        · exact List.mem_append_right ["for", "threadfor"] (by simp [hfn hb])
      obtain ⟨hcomparison, hlogical, hliteral, hkeyword⟩ := keyword_of_opensHeader hmem
      simp only [hcomparison, hlogical, hliteral, hkeyword, hheader, Bool.or_self, Bool.false_and,
        Bool.false_eq_true, if_false, if_true, ite_self]
    · obtain ⟨hloop, hb⟩ := not_or.mp hopens
      rw [← List.contains_iff_mem, Bool.not_eq_true] at hloop
      rw [Bool.not_eq_true] at hb
      simp only [hheader, hloop, hb, hstruct, Bool.false_and, Bool.false_eq_true, if_false,
        false_and]
      cases comparisonWords.contains f with
      | true => rfl
      | false => rfl

/-- **Words have the kinds that the lists give them.** In root mode, in front of a
letter, an underscore or one of the two letters that fold to ASCII ones, the next
token is the whole word there, and its kind is that of `wordKind`. -/
theorem words_follow_lists {c : Cursor} {ch : Char} {t : List Char} (hmode : c.mode = .root)
    (hrest : c.rest = ch :: t)
    (hch : ch.isAlpha = true ∨ ch = '_' ∨ ch = '\u017f' ∨ ch = '\u212a') :
    c.lexemes.head? = some
      ⟨wordKind c.before (ch :: t.takeWhile isWordChar) (t.dropWhile isWordChar),
        ch :: t.takeWhile isWordChar⟩ := by
  have hstart := isNameStart_iff.mpr hch
  have hname : cutName? c.rest = some (ch :: t.takeWhile isWordChar, t.dropWhile isWordChar) :=
    cutName?_eq_some.mpr ⟨ch, t, hrest, hstart, rfl⟩
  have hmatch := Cursor.match?_of_root hmode hrest
  rw [Mode.rootRulesOn_of_isNameStart hstart] at hmatch
  obtain ⟨b, hfn, hfirst⟩ := Cursor.firstLexeme?_wordRules hname
  rw [ruleKind_eq_wordKind hfn] at hfirst
  exact Cursor.head?_lexemes_of_firstLexeme? hmatch (by simp [hrest]) hfirst

/-- A declaration word with a long s, which a name follows. -/
theorem words_follow_lists_struct :
    Cursor.mode ⟨some ';', [.root], '\u017f' :: "TRUCT ed ed;".toList⟩ = .root ∧
      (Cursor.lexemes ⟨some ';', [.root], '\u017f' :: "TRUCT ed ed;".toList⟩).head? =
        some ⟨.keyword, '\u017f' :: "TRUCT".toList⟩ := by
  refine ⟨rfl, ?_⟩
  have hword := words_follow_lists (c := ⟨some ';', [.root], '\u017f' :: "TRUCT ed ed;".toList⟩)
    rfl rfl (Or.inr (Or.inr (Or.inl rfl)))
  have htake : "TRUCT ed ed;".toList.takeWhile isWordChar = "TRUCT".toList := by decide
  have hdrop : "TRUCT ed ed;".toList.dropWhile isWordChar = " ed ed;".toList := by decide
  have hkind : wordKind (some ';') ('\u017f' :: "TRUCT".toList) " ed ed;".toList = .keyword := by
    rw [wordKind_eq]
    decide
  rw [htake, hdrop, hkind] at hword
  exact hword

end GaussMarkup
