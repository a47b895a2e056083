import GaussMarkup.Proofs.Lexer.Coverage
import GaussMarkup.Proofs.Lexer.NumberExtent
import GaussMarkup.Proofs.Lexer.Stacks

/-!
# Progress of the lexer

Of all rules only one can find a match that covers no text: the one that closes a
chain of members (`Mode.takesText`). It takes a mode off the stack, and root mode,
which is then the current one, has no such rule. So at most every other step stands
still, and twice the text in front of the cursor with the height of the stack bounds
the steps of a run (`length_steps_le`). An embedded text is a proper part of the
text around it, which bounds how deep runs can be nested (`EmbeddedAt`).
-/

namespace GaussMarkup

/-! ## Scanners that take text -/

/-- A scanner that takes nothing finds no match. -/
def TakesSome (scan : List Char → Option Cut) : Prop :=
  ∀ ⦃s : List Char⦄ ⦃x : Cut⦄, scan s = some x → x.1 ≠ []

theorem TakesSome.optional {scan : List Char → Option Cut} (h : TakesSome scan) (c : Char) :
    TakesSome fun s => (scan (cutOptional c s).2).map fun x => ((cutOptional c s).1 ++ x.1, x.2) := by
  intro s x hx
  obtain ⟨y, hy, rfl⟩ := Option.map_eq_some_iff.mp hx
  exact List.append_ne_nil_of_right_ne_nil _ (h hy)

theorem takesSome_run (p : Char → Bool) : TakesSome (cutRun? p) :=
  fun _ _ => cutRun?_ne_nil

theorem takesSome_mark (c : Char) (mark : List Char) : TakesSome (cutMark? (c :: mark)) :=
  fun _ _ => cutMark?_ne_nil (List.cons_ne_nil c mark)

theorem takesSome_word {word : List Char} (hword : word ≠ []) : TakesSome (cutWord? word) := by
  intro s x h hnil
  have hfold := (cutWord?_eq_some.mp h).1
  rw [hnil] at hfold
  exact hword hfold.symm

theorem takesSome_one (p : Char → Bool) : TakesSome (cutOne? p) := by
  intro s x h
  cases s with
  | nil => cases h
  | cons c s =>
      simp only [cutOne?] at h
      split at h
      · obtain rfl := Option.some.inj h
        exact List.cons_ne_nil c []
      · cases h

theorem takesSome_name : TakesSome cutName? :=
  fun _ _ => cutName?_ne_nil

theorem takesSome_listedName (words : List String) : TakesSome (cutListedName? words) :=
  fun _ _ => cutListedName?_ne_nil

theorem takesSome_lineComment : TakesSome cutLineComment? := by
  intro s x h
  unfold cutLineComment? at h
  split at h
  · obtain rfl := Option.some.inj h
    simp
  · cases h

theorem takesSome_blockStart : TakesSome cutBlockStart? := by
  intro s x h
  unfold cutBlockStart? at h
  split at h
  · obtain rfl := Option.some.inj h
    simp
  · obtain rfl := Option.some.inj h
    simp
  · cases h

theorem takesSome_blockComment : TakesSome cutBlockComment? := by
  intro s x h
  obtain ⟨start, hstart, rfl⟩ := Option.map_eq_some_iff.mp h
  have hne := takesSome_blockStart hstart
  have hs : s ≠ [] := by
    rw [← joins_cutBlockStart? hstart]
    exact List.append_ne_nil_of_left_ne_nil hne _
  split
  · exact List.append_ne_nil_of_left_ne_nil hne _
  · exact hs

theorem takesSome_atComment : TakesSome cutAtComment? := by
  intro s x h
  unfold cutAtComment? at h
  split at h
  · obtain ⟨y, -, rfl⟩ := Option.map_eq_some_iff.mp h
    simp
  · cases h

theorem takesSome_inlineComment : TakesSome cutInlineComment? := by
  intro s x h
  unfold cutInlineComment? at h
  split at h
  · obtain ⟨y, -, rfl⟩ := Option.map_eq_some_iff.mp h
    simp
  · cases h

theorem takesSome_closingComment : TakesSome cutClosingComment? := by
  intro s x h
  unfold cutClosingComment? at h
  split at h
  · obtain rfl := Option.some.inj h
    simp
  · cases h

theorem takesSome_hex : TakesSome cutHex? := by
  intro s x h
  obtain ⟨mark, -, h⟩ := Option.bind_eq_some_iff.mp h
  obtain ⟨digits, hdigits, rfl⟩ := Option.map_eq_some_iff.mp h
  exact List.append_ne_nil_of_right_ne_nil _ (cutRun?_ne_nil hdigits)

theorem takesSome_mantissa : TakesSome cutMantissa? := by
  intro s x h
  obtain ⟨c, t, hx, -⟩ := exists_opensMantissa (takesLongest_mantissa.longest h).holds
  simp [hx]

theorem takesSome_scientific : TakesSome cutScientific? := by
  intro s x h
  obtain ⟨m, hm, h⟩ := Option.bind_eq_some_iff.mp h
  obtain ⟨y, -, rfl⟩ := Option.map_eq_some_iff.mp h
  exact List.append_ne_nil_of_left_ne_nil (takesSome_mantissa hm) _

theorem takesSome_signed : TakesSome cutSigned? := by
  intro s x h
  obtain ⟨m, hm, rfl⟩ := Option.map_eq_some_iff.mp h
  have hne := takesSome_mantissa hm
  split <;> simp [hne]

theorem takesSome_listed {words : List String} (hwords : "" ∉ words) :
    TakesSome (cutListed? words) := by
  intro s x h
  unfold cutListed? at h
  split at h
  · next hlisted =>
    obtain rfl := Option.some.inj h
    intro hnil
    rw [show s.takeWhile isWordChar = [] from hnil] at hlisted
    exact hwords (List.contains_iff_mem.mp hlisted)
  · cases h

theorem takesSome_comparisonSign : TakesSome cutComparisonSign? := by
  intro s x h
  unfold cutComparisonSign? at h
  split at h
  · split at h
    · obtain rfl := Option.some.inj h
      simp
    · cases h
  · split at h
    · obtain rfl := Option.some.inj h
      simp
    · cases h
  · cases h

theorem takesSome_comparisonWord : TakesSome cutComparisonWord? := by
  intro s x h
  obtain ⟨word, hword, rfl⟩ := Option.map_eq_some_iff.mp h
  exact List.append_ne_nil_of_right_ne_nil _ (takesSome_listed (by decide) hword)

theorem takesSome_comparison : TakesSome cutComparison? := by
  intro s x h
  obtain ⟨sign, hsign, rfl⟩ := Option.map_eq_some_iff.mp h
  exact List.append_ne_nil_of_right_ne_nil _ (takesSome_comparisonSign hsign)

theorem takesSome_product : TakesSome cutProduct? := by
  intro s x h
  obtain ⟨star, hstar, rfl⟩ := Option.map_eq_some_iff.mp h
  have hne := takesSome_mark '*' [] hstar
  simp [hne]

theorem takesSome_escape : TakesSome cutEscape? := by
  intro s x h
  unfold cutEscape? at h
  split at h
  · obtain ⟨y, -, rfl⟩ := Option.map_eq_some_iff.mp h
    simp
  · cases h

theorem takesSome_conditional (words : List String) : TakesSome (cutConditional? words) := by
  intro s x h
  obtain ⟨y, hy, rfl⟩ := Option.map_eq_some_iff.mp h
  obtain ⟨word, -, hword⟩ := List.exists_of_findSome?_eq_some hy
  have hne := takesSome_word (List.cons_ne_nil '#' word.toList) hword
  simp [hne]

/-! ## Rules that take text -/

theorem Match.Solid.text_ne_nil {m : Match} (h : m.Solid) (hne : m.front ++ m.back ≠ []) :
    m.text ≠ [] := by
  obtain ⟨l, ls, hl⟩ := List.exists_cons_of_ne_nil hne
  have hmem : l ∈ m.front ++ m.back := by simp [hl]
  intro htext
  simp only [text, List.append_eq_nil_iff] at htext
  have hall : textOf (m.front ++ m.back) = [] := by simp [htext]
  rw [hl, textOf_cons, List.append_eq_nil_iff] at hall
  exact h l hmem hall.1

namespace Rule

/-- In front of some text, no match of a rule is empty. -/
def TakesText (rule : Rule) : Prop :=
  ∀ ⦃before : Option Char⦄ ⦃s : List Char⦄ ⦃m : Match⦄, s ≠ [] → rule.find? before s = some m →
    m.text ≠ []

theorem takesText_single {rule : Rule} {kind : Kind} {move : Move} {scan : List Char → Option Cut}
    (hscan : TakesSome scan) (hfind : ∀ before s, rule.find? before s =
      (scan s).map fun x => .plain (lexemeOf kind x.1) x.2 move) : rule.TakesText := by
  intro _ s m _ hm
  rw [hfind] at hm
  obtain ⟨x, hx, rfl⟩ := Option.map_eq_some_iff.mp hm
  simpa using hscan hx

theorem takesText_guarded {kind : Kind} {move : Move} {scan : List Char → Option Cut}
    {guard : Guard} (h : Joins scan) (hscan : TakesSome scan) :
    (guarded kind move scan guard h).TakesText := by
  intro _ s m _ hm
  obtain ⟨x, hx, rfl⟩ := Option.map_eq_some_iff.mp hm
  simpa using hscan (Option.filter_eq_some_iff.mp hx).1

theorem TakesText.atLineStart {rule : Rule} (h : rule.TakesText) : rule.atLineStart.TakesText := by
  intro _ _ _ hs hm
  simp only [Rule.atLineStart] at hm
  split at hm
  · exact h hs hm
  · cases hm

/-- A rule whose matches all have a lexeme. -/
theorem Makes.takesText {rule : Rule} {move : Move} (h : rule.Makes move)
    (hne : ∀ {before s m}, rule.find? before s = some m → m.front ++ m.back ≠ []) :
    rule.TakesText :=
  fun _ _ _ _ hm => (h _ _ _ hm).1.text_ne_nil (hne hm)

theorem takesText_header {words : List String} {kind : Kind} {rule : Rule} {move : Move}
    (hmakes : rule.Makes move) (hfind : ∀ before s, rule.find? before s = findHeader? words kind s) :
    rule.TakesText := by
  refine hmakes.takesText fun {before s m} h => ?_
  rw [hfind] at h
  obtain ⟨word, -, h⟩ := Option.bind_eq_some_iff.mp h
  obtain ⟨blanks, -, h⟩ := Option.bind_eq_some_iff.mp h
  obtain ⟨name, -, rfl⟩ := Option.map_eq_some_iff.mp h
  simp [Match.plain]

theorem takesText_functionHeader : functionHeader.TakesText := by
  refine makes_functionHeader.takesText fun {before s m} h => ?_
  obtain ⟨word, -, h⟩ := Option.bind_eq_some_iff.mp h
  obtain ⟨blanks, -, h⟩ := Option.bind_eq_some_iff.mp h
  obtain ⟨name, -, h⟩ := Option.bind_eq_some_iff.mp h
  obtain ⟨sign, -, rfl⟩ := Option.map_eq_some_iff.mp h
  simp

theorem takesText_call : call.TakesText := by
  refine makes_call.takesText fun {before s m} h => ?_
  obtain ⟨name, -, h⟩ := Option.bind_eq_some_iff.mp h
  obtain ⟨paren, -, rfl⟩ := Option.map_eq_some_iff.mp h
  simp [Match.plain]

theorem takesText_memberAccess : memberAccess.TakesText := by
  refine makes_memberAccess.takesText fun {before s m} h => ?_
  obtain ⟨name, -, h⟩ := Option.bind_eq_some_iff.mp h
  obtain ⟨sign, -, h⟩ := Option.bind_eq_some_iff.mp h
  obtain ⟨member, -, rfl⟩ := Option.map_eq_some_iff.mp h
  simp [Match.plain]

theorem takesText_memberLink : memberLink.TakesText := by
  refine makes_memberLink.takesText fun {before s m} h => ?_
  obtain ⟨dot, -, h⟩ := Option.bind_eq_some_iff.mp h
  obtain ⟨member, -, rfl⟩ := Option.map_eq_some_iff.mp h
  simp [Match.plain]

theorem takesText_label : label.TakesText := by
  refine makes_label.takesText fun {before s m} h => ?_
  simp only [label, Rule.atLineStart] at h
  split at h
  · obtain ⟨name, -, h⟩ := Option.bind_eq_some_iff.mp h
    obtain ⟨colon, -, rfl⟩ := Option.map_eq_some_iff.mp h
    simp [Match.plain]
  · cases h

theorem takesText_directive {start : List Char → Option Cut} {mode : Mode} {rule : Rule}
    (hmakes : rule.Makes (.push mode))
    (hfind : ∀ before s, rule.find? before s =
      if GaussMarkup.atLineStart before then findDirective? start mode s else none) :
    rule.TakesText := by
  refine hmakes.takesText fun {before s m} h => ?_
  rw [hfind] at h
  split at h
  · obtain ⟨rest, -, h⟩ := List.exists_of_findSome?_eq_some h
    obtain ⟨x, -, h⟩ := Option.bind_eq_some_iff.mp h
    split at h
    · cases h
    · obtain rfl := Option.some.inj h
      simp
  · cases h

theorem takesText_includeFile : includeFile.TakesText := by
  intro _ s m _ h
  obtain ⟨word, hword, h⟩ := Option.bind_eq_some_iff.mp h
  obtain ⟨lead, -, rfl⟩ := Option.map_eq_some_iff.mp h
  have hne := takesSome_word (by decide) hword
  simp [hne]

theorem takesText_disabledLine : disabledLine.TakesText := by
  intro _ s m hs h
  obtain rfl := Option.some.inj h
  simpa using cutLine_ne_nil hs

end Rule

/-- Only the end of a chain of members may take nothing. One entry for each rule, in
the order of `Mode.rules`. -/
theorem Mode.takesText {mode : Mode} :
    ∀ rule ∈ mode.rules, rule.TakesText ∨ mode = .member ∧ rule = .memberEnd := by
  cases mode <;>
    simp only [Mode.rules, List.forall_mem_cons, List.not_mem_nil, false_implies, implies_true,
      and_true, reduceCtorEq, false_and, or_false, or_true]
  case root =>
    exact ⟨Rule.takesText_directive Rule.makes_disabledStart fun _ _ => rfl,
      Rule.takesText_directive Rule.makes_directiveStart fun _ _ => rfl,
      Rule.takesText_single (takesSome_mark ..) fun _ _ => rfl,
      Rule.takesText_single (takesSome_run _) fun _ _ => rfl,
      Rule.takesText_single (takesSome_mark ..) fun _ _ => rfl,
      Rule.takesText_single takesSome_lineComment fun _ _ => rfl,
      Rule.takesText_single takesSome_blockComment fun _ _ => rfl,
      Rule.takesText_single takesSome_atComment fun _ _ => rfl,
      Rule.takesText_single (takesSome_mark ..) fun _ _ => rfl,
      Rule.takesText_single takesSome_hex fun _ _ => rfl,
      Rule.takesText_single takesSome_scientific fun _ _ => rfl,
      Rule.takesText_guarded joins_cutSigned? takesSome_signed,
      Rule.takesText_single (takesSome_run _) fun _ _ => rfl,
      Rule.takesText_single (takesSome_mark ..) fun _ _ => rfl,
      Rule.takesText_single takesSome_comparisonWord fun _ _ => rfl,
      Rule.takesText_single ((takesSome_listed (by decide)).optional '.') fun _ _ => rfl,
      Rule.takesText_single takesSome_comparison fun _ _ => rfl,
      Rule.takesText_single ((takesSome_one _).optional '$') fun _ _ => rfl,
      Rule.takesText_single takesSome_product fun _ _ => rfl,
      Rule.takesText_single ((takesSome_one _).optional '.') fun _ _ => rfl,
      Rule.takesText_single (takesSome_one _) fun _ _ => rfl,
      Rule.takesText_single (takesSome_one _) fun _ _ => rfl,
      Rule.takesText_header Rule.makes_structHeader fun _ _ => rfl,
      Rule.takesText_header Rule.makes_loopHeader fun _ _ => rfl,
      Rule.takesText_functionHeader,
      Rule.takesText_single (takesSome_listedName _) fun _ _ => rfl,
      Rule.takesText_single (takesSome_listedName _) fun _ _ => rfl,
      Rule.takesText_single (takesSome_listedName _) fun _ _ => rfl,
      Rule.takesText_call,
      Rule.takesText_label,
      Rule.takesText_memberAccess,
      Rule.takesText_single takesSome_name fun _ _ => rfl,
      Rule.takesText_single (takesSome_one _) fun _ _ => rfl⟩
  case string =>
    exact ⟨Rule.takesText_single (takesSome_mark ..) fun _ _ => rfl,
      Rule.takesText_single takesSome_escape fun _ _ => rfl,
      Rule.takesText_single (takesSome_run _) fun _ _ => rfl,
      Rule.takesText_single (takesSome_mark ..) fun _ _ => rfl,
      Rule.takesText_single (takesSome_mark ..) fun _ _ => rfl⟩
  case member =>
    exact Or.inl Rule.takesText_memberLink
  case directive =>
    exact ⟨Rule.takesText_includeFile,
      Rule.takesText_single (takesSome_run _) fun _ _ => rfl,
      Rule.takesText_single takesSome_inlineComment fun _ _ => rfl,
      Rule.takesText_single takesSome_closingComment fun _ _ => rfl,
      Rule.takesText_single (takesSome_mark ..) fun _ _ => rfl,
      Rule.takesText_guarded joins_lineFeed (takesSome_mark ..),
      Rule.takesText_single (takesSome_mark ..) fun _ _ => rfl⟩
  case disabled =>
    exact ⟨(Rule.takesText_guarded (joins_cutConditional? _) (takesSome_conditional _)).atLineStart,
      (Rule.takesText_single (takesSome_conditional _) fun _ _ => rfl).atLineStart,
      (Rule.takesText_guarded (joins_cutConditional? _) (takesSome_conditional _)).atLineStart,
      Rule.takesText_disabledLine⟩

/-! ## Steps that stand still -/

namespace Cursor

/-- A step takes some of the text in front of it, and its lexemes hold what it
takes. -/
def Takes (c : Cursor) (st : Step) : Prop :=
  textOf st.lexemes ≠ [] ∧ textOf st.lexemes ++ st.next.rest = c.rest

/-- A step takes nothing and closes a chain of members. -/
def ClosesChain (c : Cursor) (st : Step) : Prop :=
  c.stack = [.member, .root] ∧ st = ⟨[], { c with stack := [.root] }⟩

variable {c : Cursor} {m : Match} {st : Step}

theorem text_ne_nil_or_memberEnd {rule : Rule} (hne : c.rest ≠ []) (hrule : rule ∈ c.mode.rules)
    (hfind : rule.find? c.before c.rest = some m) :
    m.text ≠ [] ∨ c.mode = .member ∧ m = .plain [] c.rest .pop := by
  rcases Mode.takesText rule hrule with htakes | ⟨hmode, rfl⟩
  · exact Or.inl (htakes hne hfind)
  · exact Or.inr ⟨hmode, (Option.some.inj hfind).symm⟩

theorem takes_or_closesChain (hstack : Stacked c.stack) (h : c.step? = some st) :
    c.Takes st ∨ c.ClosesChain st := by
  have hrest := (Run.single h).textOf_eq
  obtain ⟨hne, ⟨m, hm, rfl⟩ | ⟨ch, rest, -, -, rfl⟩⟩ := step?_cases h
  · obtain ⟨rule, hrule, hfind, -⟩ := find_of_match? hm
    rcases text_ne_nil_or_memberEnd hne hrule hfind with htext | ⟨hmode, rfl⟩
    · have hyield : textOf m.yield = m.text := by simp [Match.yield, Match.text]
      exact Or.inl ⟨by rwa [hyield], hrest⟩
    · refine Or.inr ?_
      obtain ⟨before, stack, rest⟩ := c
      cases hstack with
      | member => exact ⟨rfl, by rw [Match.yield_plain]; rfl⟩
      | root | string | directive | disabled => cases hmode
  · exact Or.inl ⟨List.cons_ne_nil ch [], hrest⟩

/-- Behind a chain of members root mode takes text. -/
theorem ClosesChain.exists_takes (hclose : c.ClosesChain st) (hne : c.rest ≠ []) :
    ∃ st', st.next.step? = some st' ∧ st.next.Takes st' := by
  obtain ⟨-, rfl⟩ := hclose
  obtain ⟨m, hm⟩ := exists_match? (c := { c with stack := [.root] }) .root hne
  have hst := step?_of_match (c := { c with stack := [.root] }) hne hm
  refine ⟨_, hst, ?_⟩
  rcases takes_or_closesChain .root hst with htakes | ⟨hstack, -⟩
  · exact htakes
  · cases hstack

/-! ## The number of steps -/

/-- Every step is paid for by the size of the cursor. -/
theorem length_steps_add_le (c : Cursor) : c.steps.length + c.finalStack.length ≤ c.size := by
  induction c using step_induction with
  | h c _ next =>
      cases hst : c.step? with
      | none =>
          have hrest := step?_eq_none.mp hst
          rw [steps_of_nil hrest, finalStack_of_nil hrest]
          simp [size]
      | some st =>
          have hsize := size_step?_lt hst
          have hle := next st hst
          rw [steps_of_step? hst, finalStack_of_step? hst, List.length_cons]
          omega

end Cursor

theorem Stacked.ne_nil {stack : List Mode} (h : Stacked stack) : stack ≠ [] := by
  cases h <;> simp

/-- A run over a source has at most two steps for each character. -/
theorem length_steps_le (s : List Char) : (Cursor.start s).steps.length ≤ 2 * s.length := by
  obtain ⟨d, hrun, -, hstack⟩ := (Cursor.start s).exists_run_lexemes
  have hpos : 0 < (Cursor.start s).finalStack.length := by
    rw [← hstack]
    exact List.length_pos_iff.mpr (Cursor.Visits.start.run hrun).stacked.ne_nil
  have hle := (Cursor.start s).length_steps_add_le
  simp only [Cursor.size, Cursor.start, List.length_singleton] at hle hpos ⊢
  omega

theorem length_le_textOf {ls : List Lexeme} (h : ∀ l ∈ ls, l.text ≠ []) :
    ls.length ≤ (textOf ls).length := by
  induction ls with
  | nil => simp
  | cons l ls ih =>
      have hl : l.text.length ≠ 0 := by simpa using h l (List.mem_cons_self ..)
      have hls := ih fun l' hl' => h l' (List.mem_cons_of_mem _ hl')
      simp only [List.length_cons, textOf_cons, List.length_append]
      omega

theorem length_lexemes_le (s : List Char) : (lexemes s).length ≤ s.length := by
  have hle := length_le_textOf (Cursor.start s).text_ne_nil_of_mem_lexemes
  rwa [Cursor.textOf_lexemes] at hle

/-! ## Embedded texts -/

/-- What the run over `t` embeds is cut out of `t` and shorter. -/
theorem Cursor.Reaches.inner_lt {t : List Char} {c : Cursor} {m : Match} (hc : Reaches t c)
    (hm : c.match? = some m) (hinner : m.inner ≠ []) :
    m.inner <:+: t ∧ m.inner.length < t.length := by
  obtain ⟨ls, hrun⟩ := hc
  obtain ⟨hrest, hlength⟩ := covers_of_match? hm
  have ht : t = textOf ls ++ c.rest := hrun.textOf_eq.symm
  constructor
  · refine ⟨textOf ls ++ textOf m.front, textOf m.back ++ m.rest, ?_⟩
    rw [ht, ← hrest]
    simp [Match.text]
  · have hlt := hlength.resolve_left hinner
    rw [ht, List.length_append]
    omega

/-- The run over `s` embeds the text `t`, or one that it embeds does so, `depth` runs
below it. -/
inductive EmbeddedAt (s : List Char) : (depth : Nat) → (t : List Char) → Prop
  | self : EmbeddedAt s 0 s
  | inner {depth : Nat} {t : List Char} {c : Cursor} {m : Match} :
      EmbeddedAt s depth t → Cursor.Reaches t c → c.match? = some m → m.inner ≠ [] →
        EmbeddedAt s (depth + 1) m.inner

theorem EmbeddedAt.depth_add_length_le {s t : List Char} {depth : Nat}
    (h : EmbeddedAt s depth t) : depth + t.length ≤ s.length := by
  induction h with
  | self => omega
  | inner _ hc hm hinner ih =>
      have hlt := (hc.inner_lt hm hinner).2
      omega

/-- **Lexing ends.** A token stream is exhausted after as many calls as its source has
characters. Take the run over a source, or over a text embedded in it at any depth.
With text left no rule finds an empty match, but for the one that closes a chain of
members. The run takes a step there that takes text or closes a chain; in the second
case the next step takes text. So the run has at most two steps for each character.
What it embeds is a proper part of its text, and no run is nested deeper than the
source is long. -/
theorem lexing_ends (s : List Char) :
    (∀ offset n, s.length ≤ n → ((TokenStream.fresh offset s).after n).next.1 = none) ∧
    ∀ depth t, EmbeddedAt s depth t →
      depth + t.length ≤ s.length ∧
      (Cursor.start t).steps.length ≤ 2 * t.length ∧
      ∀ c, Cursor.Reaches t c → c.rest ≠ [] →
        (∀ rule ∈ c.mode.rules, ∀ m, rule.find? c.before c.rest = some m →
          m.text ≠ [] ∨ c.mode = .member ∧ m = .plain [] c.rest .pop) ∧
        (∃ st, c.step? = some st ∧
          (c.Takes st ∨
            c.ClosesChain st ∧ ∃ st', st.next.step? = some st' ∧ st.next.Takes st')) ∧
        ∀ m, c.match? = some m → m.inner ≠ [] → m.inner <:+: t ∧ m.inner.length < t.length := by
  constructor
  · intro offset n hn
    have hlength : (locate offset (lexemes s)).length ≤ n := by
      rw [← List.length_map (f := Token.lexeme), map_lexeme_locate]
      exact (length_lexemes_le s).trans hn
    rw [TokenStream.next_after_fresh]
    exact List.getElem?_eq_none hlength
  · intro depth t ht
    refine ⟨ht.depth_add_length_le, length_steps_le t, fun c hc hne => ⟨?_, ?_, ?_⟩⟩
    · exact fun rule hrule m hfind => Cursor.text_ne_nil_or_memberEnd hne hrule hfind
    · have hstack := hc.visits.stacked
      obtain ⟨m, hm⟩ := Cursor.exists_match? hstack hne
      refine ⟨_, Cursor.step?_of_match hne hm, ?_⟩
      rcases Cursor.takes_or_closesChain hstack (Cursor.step?_of_match hne hm) with htakes | hclose
      · exact Or.inl htakes
      · exact Or.inr ⟨hclose, hclose.exists_takes hne⟩
    · exact fun m hm hinner => hc.inner_lt hm hinner

/-- The parameters of a one-line function are lexed one run down. Behind the member in
them a step stands still, and the next one takes the parenthesis. -/
theorem lexing_ends_parameters :
    EmbeddedAt "fn f(a.b)=1".toList 1 "(a.b)".toList ∧
      1 + "(a.b)".toList.length ≤ "fn f(a.b)=1".toList.length ∧
      (Cursor.start "(a.b)".toList).steps.length ≤ 2 * "(a.b)".toList.length ∧
      ∃ c st, Cursor.Reaches "(a.b)".toList c ∧ c.rest = [')'] ∧ c.step? = some st ∧
        c.ClosesChain st ∧ ∃ st', st.next.step? = some st' ∧ st.next.Takes st' := by
  have hheader : (Cursor.start "fn f(a.b)=1".toList).match? = some
      ⟨[⟨.keyword, "fn".toList⟩, ⟨.whitespace, [' ']⟩, ⟨.functionName, ['f']⟩], "(a.b)".toList,
        [⟨.punctuation, ['=']⟩], ['1'], .stay⟩ := by rfl
  have hembedded : EmbeddedAt "fn f(a.b)=1".toList 1 "(a.b)".toList :=
    .inner .self ⟨[], .refl _⟩ hheader (by decide)
  have hparen : (Cursor.start "(a.b)".toList).match? =
      some (.plain [⟨.punctuation, ['(']⟩] "a.b)".toList .stay) := by rfl
  have hmember : (⟨some '(', [.root], "a.b)".toList⟩ : Cursor).match? = some
      (.plain [⟨.name, ['a']⟩, ⟨.punctuation, ['.']⟩, ⟨.member, ['b']⟩] [')'] (.push .member)) := by
    rfl
  have hrun : (Cursor.start "(a.b)".toList).Run _ ⟨some 'b', [.member, .root], [')']⟩ :=
    .step (Cursor.step?_of_match (by decide) hparen) <|
      .single (Cursor.step?_of_match (by decide) hmember)
  obtain ⟨hdepth, hsteps, hprogress⟩ := (lexing_ends "fn f(a.b)=1".toList).2 1 _ hembedded
  obtain ⟨-, ⟨st, hst, htakes | hclose⟩, -⟩ := hprogress _ ⟨_, hrun⟩ (by decide)
  · have hstill : (⟨some 'b', [.member, .root], [')']⟩ : Cursor).match? =
        some (.plain [] [')'] .pop) := by rfl
    rw [Cursor.step?_of_plain (by decide) hstill] at hst
    obtain rfl := Option.some.inj hst
    exact absurd rfl htakes.1
  · exact ⟨hembedded, hdepth, hsteps, _, st, ⟨_, hrun⟩, rfl, hst, hclose.1, hclose.2⟩

end GaussMarkup
