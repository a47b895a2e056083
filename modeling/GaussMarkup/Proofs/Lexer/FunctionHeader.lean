import GaussMarkup.Proofs.Lexer.CutOffRuns
import GaussMarkup.Proofs.Lexer.Label

/-!
# The header of a one-line function

The header of a one-line function goes up to the next equals sign, whatever stands
there, and what is in front of the sign is lexed on its own. So the parameters are
lexed as they would be in place where lexing the text behind the name comes to the
sign in root mode. A comment or a string may hold the sign, and so may a comparison;
the header cuts such a lexeme, and the tokens are others than those in place.
-/

namespace GaussMarkup

/-- The parameters with the sign give the tokens that the text behind the name, lexed
as a source of its own, begins with. -/
def Match.LexedInPlace (m : Match) : Prop :=
  lexemes m.inner ++ [⟨.punctuation, ['=']⟩] <+: lexemes (m.inner ++ '=' :: m.rest)

variable {m : Match} {c d : Cursor} {ls : List Lexeme} {l : Lexeme} {s r u : List Char}

/-! ## What a header is -/

/-- A header begins with its word, and its sign is the last thing that it takes. -/
theorem exists_of_findFunctionHeader? (h : findFunctionHeader? s = some m) :
    (∃ w rest, cutName? s = some (w, rest) ∧ String.ofList (w.map fold) = "fn") ∧
      m.back = [⟨.punctuation, ['=']⟩] := by
  obtain ⟨word, hword, h⟩ := Option.bind_eq_some_iff.mp h
  obtain ⟨blanks, -, h⟩ := Option.bind_eq_some_iff.mp h
  obtain ⟨name, -, h⟩ := Option.bind_eq_some_iff.mp h
  obtain ⟨sign, hsign, rfl⟩ := Option.map_eq_some_iff.mp h
  obtain ⟨hname, hlisted⟩ := Option.filter_eq_some_iff.mp hword
  refine ⟨⟨word.1, word.2, hname, List.mem_singleton.mp (List.contains_iff_mem.mp hlisted)⟩, ?_⟩
  rw [(cutMark?_eq_some.mp hsign).1]

namespace Cursor

/-- The word of a header is on no list that is looked up before. -/
theorem match?_of_functionHeader (hmode : c.mode = .root)
    (h : findFunctionHeader? c.rest = some m) : c.match? = some m := by
  obtain ⟨⟨w, rest, hname, hfn⟩, hback⟩ := exists_of_findFunctionHeader? h
  obtain ⟨ch, t, hrest, hch, -⟩ := cutName?_eq_some.mp hname
  obtain ⟨hcomparisons, hlogicals, -⟩ := keyword_of_opensHeader (show "fn" ∈ _ by simp)
  have hcomparison := reads_comparisonWord hname
  have hlogical := reads_logicalWord hname
  have hstruct : c.Reads .structHeader _ _ := reads_header hname ["struct"] rfl
  have hloop : c.Reads .loopHeader _ _ := reads_header hname ["for", "threadfor"] rfl
  rw [hfn] at hcomparison hlogical hstruct hloop
  rw [hcomparisons] at hcomparison
  rw [hlogicals] at hlogical
  have hm := match?_of_root hmode hrest
  rw [Mode.rootRulesOn_of_isNameStart hch, Mode.wordRules,
    firstMatch?_of_none _ hcomparison.find?_eq_none, firstMatch?_of_none _ hlogical.find?_eq_none,
    firstMatch?_of_none _ hstruct.find?_eq_none, firstMatch?_of_none _ hloop.find?_eq_none,
    firstMatch?_of_some _ h] at hm
  · exact hm
  · refine advancesBy_of_text_ne_nil ?_
    simp [Match.text, hback]

/-- An equals sign that is no comparison. -/
theorem step?_equals (hmode : c.mode = .root) (hrest : c.rest = '=' :: r)
    (hr : r.head? ≠ some '=') :
    c.step? = some ⟨[⟨.punctuation, ['=']⟩], c.past ['='] r⟩ := by
  have hrules : Mode.rootRulesOn '=' = [.comparison, .punctuation, .other] := rfl
  have hcomparison : Rule.comparison.find? c.before c.rest = none := by
    have hmark : cutMark? ['='] r = none :=
      cutMark?_eq_none fun t ht => hr (by rw [ht]; rfl)
    simp [Rule.comparison, Rule.one, cutComparison?, hrest, cutOptional, cutComparisonSign?_cons,
      hmark]
  have hscan : cutOne? isPunctuation c.rest = some (['='], r) := by
    rw [hrest]
    rfl
  have hm := match?_of_root hmode hrest
  rw [hrules, firstMatch?_of_none _ hcomparison, firstMatch?_of_scan _ rfl hscan (by simp)] at hm
  exact step?_of_stay (by simp [hrest]) hm

end Cursor

/-! ## Where the sign stands alone -/

theorem Match.lexedInPlace_of_sign
    (hrun : Cursor.Run (Cursor.start (m.inner ++ '=' :: m.rest)) ls d)
    (hrest : d.rest = '=' :: m.rest) (hstack : d.stack = [.root])
    (hnext : m.rest.head? ≠ some '=') :
    lexemes m.inner = ls ∧
      (finalStack m.inner = [.root] ∨ finalStack m.inner = [.member, .root]) ∧
        m.LexedInPlace := by
  obtain ⟨e, hshort, hend, he⟩ :=
    Cursor.Run.exists_cutOff (c := Cursor.start m.inner) hrun .root hrest
  have hlexemes : lexemes m.inner = ls := by
    rw [lexemes, hshort.lexemes_eq, Cursor.lexemes_of_nil hend, List.append_nil]
  have hfinal : finalStack m.inner = e.stack := by
    rw [finalStack, hshort.finalStack_eq, Cursor.finalStack_of_nil hend]
  refine ⟨hlexemes, ?_, ?_⟩
  · rw [hfinal]
    rcases he with rfl | ⟨hmember, -⟩
    · exact Or.inl hstack
    · exact Or.inr hmember
  · have hsign := Cursor.step?_equals (Cursor.mode_of_stack hstack) hrest hnext
    refine ⟨(d.past ['='] m.rest).lexemes, ?_⟩
    rw [hlexemes, lexemes, hrun.lexemes_eq, Cursor.lexemes_of_step? hsign, List.append_assoc]

/-! ## Where another lexeme holds the sign -/

theorem length_textOf_le {ls ms : List Lexeme} (h : ls <+: ms) :
    (textOf ls).length ≤ (textOf ms).length := by
  obtain ⟨t, rfl⟩ := h
  rw [textOf_append, List.length_append]
  omega

theorem Match.not_lexedInPlace_of_hidden
    (hrun : Cursor.Run (Cursor.start (m.inner ++ '=' :: m.rest)) ls d)
    (hrest : d.rest = u ++ '=' :: m.rest) (hl : d.lexemes.head? = some l)
    (hlong : u.length < l.text.length) (hkind : l.kind ≠ .punctuation) : ¬m.LexedInPlace := by
  intro hplace
  obtain ⟨ms, hms⟩ := List.head?_eq_some_iff.mp hl
  have hinner : textOf ls ++ u = m.inner := by
    have hjoin := hrun.textOf_eq
    rw [hrest, ← List.append_assoc] at hjoin
    exact List.append_cancel_right hjoin
  have hlength := congrArg List.length hinner
  rw [List.length_append] at hlength
  have hfront : ls ++ [l] <+: lexemes (m.inner ++ '=' :: m.rest) := by
    refine ⟨ms, ?_⟩
    rw [lexemes, hrun.lexemes_eq, hms, List.append_assoc]
    rfl
  have hne : lexemes m.inner ++ [⟨.punctuation, ['=']⟩] ≠ ls ++ [l] := by
    intro heq
    obtain ⟨-, hsame⟩ := List.append_inj' heq rfl
    obtain rfl := List.singleton_inj.mp hsame
    exact hkind rfl
  -- One of the two goes on behind the end of the other.
  rcases List.prefix_or_prefix_of_prefix hplace hfront with hshort | hshort
  · rcases List.prefix_concat_iff.mp hshort with heq | hshort
    · exact hne heq
    · have hle := length_textOf_le hshort
      simp only [textOf_append, textOf_lexemes, List.length_append, textOf_cons, textOf_nil,
        List.length_cons, List.length_nil] at hle
      omega
  · rcases List.prefix_concat_iff.mp hshort with heq | hshort
    · exact hne heq.symm
    · have hle := length_textOf_le hshort
      simp only [textOf_append, textOf_lexemes, List.length_append, textOf_cons, textOf_nil,
        List.append_nil] at hle
      omega

/-- **Parameters are lexed as in place up to a sign that stands alone.** A header in
root mode takes its parameters, which are lexed on their own, and the sign. Where
lexing the text behind the name comes to that sign in root mode, and no second one
follows, the parameters give the tokens of that run. At their end the lexer is in root
mode or in the chain of members that the sign would have ended, and their tokens and
the sign are those in place. Where a comment, a string or anything else but
punctuation begins in the parameters and holds the sign, they are not. -/
theorem parameters_lexed_up_to_sign (hmode : c.mode = .root)
    (hfind : findFunctionHeader? c.rest = some m) :
    c.step? = some
        ⟨m.front ++ lexemes m.inner ++ [⟨.punctuation, ['=']⟩], c.behind m⟩ ∧
      (∀ ls d, Cursor.Run (Cursor.start (m.inner ++ '=' :: m.rest)) ls d →
        d.rest = '=' :: m.rest → d.stack = [.root] → m.rest.head? ≠ some '=' →
          lexemes m.inner = ls ∧
            (finalStack m.inner = [.root] ∨ finalStack m.inner = [.member, .root]) ∧
              m.LexedInPlace) ∧
      ∀ ls d l u, Cursor.Run (Cursor.start (m.inner ++ '=' :: m.rest)) ls d →
        d.rest = u ++ '=' :: m.rest → d.lexemes.head? = some l → u.length < l.text.length →
          l.kind ≠ .punctuation → ¬m.LexedInPlace := by
  refine ⟨?_, fun _ _ => Match.lexedInPlace_of_sign, fun _ _ _ _ =>
    Match.not_lexedInPlace_of_hidden⟩
  have hne : c.rest ≠ [] := by
    intro hnil
    rw [hnil] at hfind
    cases hfind
  rw [Cursor.step?_of_match hne (Cursor.match?_of_functionHeader hmode hfind), Match.yield,
    (exists_of_findFunctionHeader? hfind).2]

/-- A sign behind a parameter. -/
theorem parameters_lexed_up_to_sign_name :
    findFunctionHeader? "fn f(a)=1".toList = some ⟨[⟨.keyword, "fn".toList⟩, ⟨.whitespace, [' ']⟩,
        ⟨.functionName, ['f']⟩], "(a)".toList, [⟨.punctuation, ['=']⟩], ['1'], .stay⟩ ∧
      lexemes "(a)".toList = [⟨.punctuation, ['(']⟩, ⟨.name, ['a']⟩, ⟨.punctuation, [')']⟩] ∧
      (finalStack "(a)".toList = [.root] ∨ finalStack "(a)".toList = [.member, .root]) := by
  have hfind : findFunctionHeader? "fn f(a)=1".toList = some ⟨[⟨.keyword, "fn".toList⟩,
      ⟨.whitespace, [' ']⟩, ⟨.functionName, ['f']⟩], "(a)".toList, [⟨.punctuation, ['=']⟩],
      ['1'], .stay⟩ := by decide
  have hrun : Cursor.Run (Cursor.start "(a)=1".toList)
      [⟨.punctuation, ['(']⟩, ⟨.name, ['a']⟩, ⟨.punctuation, [')']⟩]
      ⟨some ')', [.root], "=1".toList⟩ := by
    have hopen : (Cursor.start "(a)=1".toList).match? =
        some (.plain [⟨.punctuation, ['(']⟩] "a)=1".toList .stay) := by decide
    have hname : (⟨some '(', [.root], "a)=1".toList⟩ : Cursor).match? =
        some (.plain [⟨.name, ['a']⟩] ")=1".toList .stay) := by decide
    have hclose : (⟨some 'a', [.root], ")=1".toList⟩ : Cursor).match? =
        some (.plain [⟨.punctuation, [')']⟩] "=1".toList .stay) := by decide
    exact .step (Cursor.step?_of_stay (by simp [Cursor.start]) hopen)
      (.step (Cursor.step?_of_stay (by simp) hname)
        (.single (Cursor.step?_of_stay (by simp) hclose)))
  obtain ⟨-, hplace, -⟩ :=
    parameters_lexed_up_to_sign (c := Cursor.start "fn f(a)=1".toList) rfl hfind
  obtain ⟨hlexemes, hstack, -⟩ := hplace _ _ hrun rfl rfl (by simp)
  exact ⟨hfind, hlexemes, hstack⟩

/-- A header cuts the comment that holds its sign. -/
theorem header_cuts_comment :
    ¬∀ (s : List Char) (c : Cursor) (m : Match), Cursor.Visits s c → c.mode = .root →
      findFunctionHeader? c.rest = some m → finalStack m.inner = [.root] ∧ m.LexedInPlace := by
  intro h
  have hfind : findFunctionHeader? "fn f(x /* y=1 */) = x;".toList = some ⟨[⟨.keyword, "fn".toList⟩,
      ⟨.whitespace, [' ']⟩, ⟨.functionName, ['f']⟩], "(x /* y".toList, [⟨.punctuation, ['=']⟩],
      "1 */) = x;".toList, .stay⟩ := by decide
  have hplace := (h "fn f(x /* y=1 */) = x;".toList (Cursor.start _) _ .start rfl hfind).2
  have hopen : (Cursor.start "(x /* y=1 */) = x;".toList).match? =
      some (.plain [⟨.punctuation, ['(']⟩] "x /* y=1 */) = x;".toList .stay) := by decide
  have hname : (⟨some '(', [.root], "x /* y=1 */) = x;".toList⟩ : Cursor).match? =
      some (.plain [⟨.name, ['x']⟩] " /* y=1 */) = x;".toList .stay) := by decide
  have hblank : (⟨some 'x', [.root], " /* y=1 */) = x;".toList⟩ : Cursor).match? =
      some (.plain [⟨.text, [' ']⟩] "/* y=1 */) = x;".toList .stay) := by decide
  have hcomment : (⟨some ' ', [.root], "/* y=1 */) = x;".toList⟩ : Cursor).match? =
      some (.plain [⟨.blockComment, "/* y=1 */".toList⟩] ") = x;".toList .stay) := by decide
  have hrun : Cursor.Run (Cursor.start "(x /* y=1 */) = x;".toList)
      [⟨.punctuation, ['(']⟩, ⟨.name, ['x']⟩, ⟨.text, [' ']⟩]
      ⟨some ' ', [.root], "/* y=1 */) = x;".toList⟩ :=
    .step (Cursor.step?_of_stay (by simp [Cursor.start]) hopen)
      (.step (Cursor.step?_of_stay (by simp) hname)
        (.single (Cursor.step?_of_stay (by simp) hblank)))
  have hfirst : (⟨some ' ', [.root], "/* y=1 */) = x;".toList⟩ : Cursor).lexemes.head? =
      some ⟨.blockComment, "/* y=1 */".toList⟩ := by
    rw [Cursor.lexemes_of_step? (Cursor.step?_of_stay (by simp) hcomment)]
    rfl
  refine absurd hplace (Match.not_lexedInPlace_of_hidden hrun (u := "/* y".toList) rfl hfirst ?_ ?_)
  · decide
  · decide

end GaussMarkup
