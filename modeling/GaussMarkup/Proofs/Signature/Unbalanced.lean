import GaussMarkup.Proofs.Signature.Reading

/-!
# Brackets that do not match

`bracketsMatch` is the usual test: a closing bracket has the kind of the
innermost open one, and none is left open. Reading a signature tests less. It
counts brackets of all kinds together, only while it searches for an equals
sign, and asks of a list no more than that its square brackets are paired.
`BracketFault` lists what is left of the test, and a signature is refused for
its brackets in exactly these cases (`parse_unbalanced_iff`). An opening brace
that nothing closes is not among them: it hides the equals sign behind it, and
the text is read as a call (`parse_accepts_unclosed`).
-/

namespace GaussMarkup

/-! ## Matching brackets -/

/-- The bracket that closes the one that a character opens. -/
def closingOf? (c : Char) : Option Char :=
  if c = '(' then some ')' else if c = '[' then some ']' else if c = '{' then some '}' else none

/-- Whether the brackets of a text match, if `awaited` closes those that are open
in front of it, innermost first. -/
def bracketsMatchFrom (awaited : List Char) : List Char → Bool
  | [] => awaited.isEmpty
  | c :: s =>
    match closingOf? c with
    | some close => bracketsMatchFrom (close :: awaited) s
    | none =>
      if isClosing c then awaited.head? == some c && bracketsMatchFrom awaited.tail s
      else bracketsMatchFrom awaited s

/-- Whether every closing bracket has the kind of the innermost open one, and none
is left open. -/
def bracketsMatch (s : List Char) : Bool :=
  bracketsMatchFrom [] s

example : bracketsMatch "\x7b a, b \x7d = f(x[, y])".toList = true ∧
    bracketsMatch "f(x[)]".toList = false ∧ bracketsMatch "f(x".toList = false := by decide

/-! ## What a signature is refused for -/

/-- Text behind the first parenthesis of a call that has a last one, with paired
square brackets in front of it and blanks behind it. -/
def ReadableParameters (inner : List Char) : Prop :=
  ∃ list tail, inner = list ++ ')' :: tail ∧ (∀ c ∈ tail, isBlank c = true) ∧
    squareBracket.Paired list

/-- A call with a parenthesis behind which no parameters can be read. -/
def CallFault (call : List Char) : Prop :=
  ∃ name inner, call = name ++ '(' :: inner ∧ '(' ∉ name ∧ ¬ ReadableParameters inner

/-- What a signature is refused for: a closing bracket with none open in front of
it, square brackets of the returned values that are not paired, or a call whose
parameters cannot be read. -/
inductive BracketFault (s : List Char) : Prop where
  | closing {front : List Char} {c : Char} {rest : List Char} (text : s = front ++ c :: rest)
      (closes : isClosing c = true) (paired : anyBracket.Paired front)
  | returns {left right : List Char} (text : s = left ++ '=' :: right)
      (paired : anyBracket.Paired left)
      (fault : ¬ squareBracket.Paired (dropBraces (trim left)))
  | assigned {left right : List Char} (text : s = left ++ '=' :: right)
      (paired : anyBracket.Paired left) (fault : CallFault (trim right))
  | bare (covered : anyBracket.Covered 0 s) (fault : CallFault (trim s))

variable {s : List Char} {e : SignatureError}

/-- Where the first of two readers is refused for nothing but its brackets, both
together are so if it fails or the second one is. -/
theorem exists_unbalanced_bind_iff {α β : Type} {r : Except SignatureError α}
    (hr : ∀ e, r = .error e → ∃ bracket, e = .unbalanced bracket)
    (next : α → Except SignatureError β) :
    (∃ bracket, r.bind next = .error (.unbalanced bracket)) ↔
      (¬ ∃ a, r = .ok a) ∨
        ∃ a, r = .ok a ∧ ∃ bracket, next a = .error (.unbalanced bracket) := by
  cases r with
  | ok a => simp [Except.bind]
  | error e =>
      obtain ⟨bracket, rfl⟩ := hr e rfl
      simp [Except.bind]

/-- Parameters that run up to a last parenthesis are read as a list, and others
are not read. -/
theorem readParameters_cases (s : List Char) :
    (∃ list tail, s = list ++ ')' :: tail ∧ (∀ c ∈ tail, isBlank c = true) ∧
        readParameters s = (readItems list).map ({ items := · })) ∨
      readParameters s = .error (.unbalanced '(') := by
  obtain ⟨tail, htail, hs⟩ := exists_dropEndWhile_append isBlank s
  by_cases hlast : (dropEndWhile isBlank s).getLast? = some ')'
  · obtain ⟨list, hlist⟩ := List.getLast?_eq_some_iff.mp hlast
    obtain rfl : s = list ++ ')' :: tail := by rw [hs, hlist]; simp
    exact .inl ⟨list, tail, rfl, htail, readParameters_of_closed htail list⟩
  · exact .inr (by simp [readParameters, hlast])

theorem exists_readParameters_iff (s : List Char) :
    (∃ parameters, readParameters s = .ok parameters) ↔ ReadableParameters s := by
  constructor
  · rintro ⟨parameters, hread⟩
    rcases readParameters_cases s with ⟨list, tail, hs, htail, hlist⟩ | hfail
    · rw [hread] at hlist
      refine ⟨list, tail, hs, htail, (exists_readItems_iff list).mp ?_⟩
      cases hitems : readItems list with
      | ok items => exact ⟨items, rfl⟩
      | error e => rw [hitems] at hlist; cases hlist
    · rw [hread] at hfail
      cases hfail
  · rintro ⟨list, tail, rfl, htail, hpaired⟩
    obtain ⟨items, hitems⟩ := (exists_readItems_iff list).mpr hpaired
    exact ⟨{ items := items }, by rw [readParameters_of_closed htail, hitems]; rfl⟩

theorem exists_unbalanced_of_readParameters (h : readParameters s = .error e) :
    ∃ bracket, e = .unbalanced bracket := by
  rcases readParameters_cases s with ⟨list, tail, -, -, hlist⟩ | hfail
  · cases hitems : readItems list with
    | ok items => rw [h, hitems] at hlist; cases hlist
    | error e' =>
        rw [h, hitems] at hlist
        obtain rfl : e = e' := Except.error.inj hlist
        exact exists_unbalanced_of_readItemsFrom hitems
  · exact ⟨'(', Except.error.inj (h.symm.trans hfail)⟩

/-- A call is refused for its brackets exactly if its parameters cannot be read,
whether it has a name or not. -/
theorem readCall_unbalanced_iff (returns : Option ItemList) (call : List Char) :
    (∃ bracket, readCall returns call = .error (.unbalanced bracket)) ↔ CallFault call := by
  have hparameters (inner : List Char) (e : SignatureError) (h : readParameters inner = .error e) :
      ∃ bracket, e = .unbalanced bracket := exists_unbalanced_of_readParameters h
  constructor
  · rintro ⟨bracket, hread⟩
    by_cases hparen : '(' ∈ call
    · obtain ⟨name, inner, rfl, hname⟩ := List.eq_append_cons_of_mem hparen
      refine ⟨name, inner, rfl, hname, ?_⟩
      rw [readCall_of_paren hname] at hread
      rcases (exists_unbalanced_bind_iff (hparameters inner) _).mp ⟨bracket, hread⟩ with
        hfail | ⟨parameters, -, _, hnamed⟩
      · rwa [exists_readParameters_iff] at hfail
      · split at hnamed <;> cases hnamed
    · rw [readCall_of_not_mem hparen] at hread
      split at hread <;> cases hread
  · rintro ⟨name, inner, rfl, hname, hfault⟩
    rw [readCall_of_paren hname, exists_unbalanced_bind_iff (hparameters inner),
      exists_readParameters_iff]
    exact .inl hfault

/-- A signature is refused for its brackets exactly in the four cases of
`BracketFault`. -/
theorem parse_unbalanced_iff (s : List Char) :
    (∃ bracket, Signature.parse s = .error (.unbalanced bracket)) ↔ BracketFault s := by
  have hitems (list : List Char) (e : SignatureError) (h : readItems list = .error e) :
      ∃ bracket, e = .unbalanced bracket := exists_unbalanced_of_readItemsFrom h
  constructor
  · rintro ⟨bracket, hparse⟩
    rcases splitAssignment_cases s with
      hcovered | ⟨left, right, rfl, hpaired⟩ | ⟨front, c, rest, hs, hpaired, hclose⟩
    · rw [parse_of_covered hcovered] at hparse
      exact .bare hcovered ((readCall_unbalanced_iff none _).mp ⟨bracket, hparse⟩)
    · rw [parse_of_paired hpaired] at hparse
      rcases (exists_unbalanced_bind_iff (hitems _) _).mp ⟨bracket, hparse⟩ with
        hfail | ⟨items, -, hcall⟩
      · rw [exists_readItems_iff] at hfail
        exact .returns rfl hpaired hfail
      · exact .assigned rfl hpaired ((readCall_unbalanced_iff _ _).mp hcall)
    · exact .closing hs hclose hpaired
  · intro hfault
    cases hfault with
    | closing text closes paired => exact ⟨_, text ▸ parse_of_closing paired closes _⟩
    | returns text paired fault =>
        rw [text, parse_of_paired paired, exists_unbalanced_bind_iff (hitems _),
          exists_readItems_iff]
        exact .inl fault
    | @assigned left right text paired fault =>
        rw [text, parse_of_paired paired, exists_unbalanced_bind_iff (hitems _)]
        -- The returned values may be refused first, and for their brackets too.
        by_cases hreturns : ∃ items, readItems (dropBraces (trim left)) = .ok items
        · obtain ⟨items, hread⟩ := hreturns
          exact .inr ⟨items, hread, (readCall_unbalanced_iff _ _).mpr fault⟩
        · exact .inl hreturns
    | bare covered fault =>
        rw [parse_of_covered covered]
        exact (readCall_unbalanced_iff none _).mpr fault

/-- An opening brace that nothing closes is read as part of the name. -/
theorem parse_accepts_unclosed :
    ¬ ∀ s, bracketsMatch s = false →
      ∃ bracket, Signature.parse s = .error (.unbalanced bracket) := by
  intro h
  obtain ⟨bracket, hparse⟩ := h "\x7b a, b = f(x)".toList (by decide)
  have hread : Signature.parse "\x7b a, b = f(x)".toList = .ok
      { name := "\x7b a, b = f".toList
        parameters := some { items := [.element { text := "x".toList }] } } := by rfl
  rw [hread] at hparse
  cases hparse

end GaussMarkup
