import GaussMarkup.Proofs.Lexer.PlainName
import GaussMarkup.Proofs.Lexer.Restart
import GaussMarkup.Proofs.Lexer.Stacks

/-!
# Chains of members

A chain is a structure, a member of it, a member of that, and so on. One rule of
root mode takes the structure with its first member and opens a mode of its own.
There only a dot with a name behind it goes on, and the name is not looked up: a
member `ne` is no operator, and a member `proc` no keyword. Whatever else comes
closes the mode, by a step that takes nothing (`Cursor.step?_endsChain`).

So a chain is read by one step from root mode and by one more for each further
member, and all of them leave the same stack of modes (`Cursor.RunUnder`).
-/

namespace GaussMarkup

/-! ## Chains -/

/-- The sign between a structure and its member. -/
inductive MemberSign
  | dot
  | arrow
  deriving DecidableEq, Repr

/-- How a sign is written. -/
def MemberSign.text : MemberSign → List Char
  | dot => ['.']
  | arrow => ['-', '>']

section Signs

/-! A sign ends a name, and is not what makes it a call or a label. -/

variable (sign : MemberSign) (s : List Char)

theorem endsName_sign : endsName (sign.text ++ s) = true := by
  cases sign with
  | dot => exact endsName_cons (by decide) s
  | arrow => exact endsName_cons (by decide) ('>' :: s)

theorem opensCall_sign : opensCall (sign.text ++ s) = false := by
  cases sign with
  | dot => rfl
  | arrow => rfl

theorem opensLabel_sign (before : Option Char) : opensLabel before (sign.text ++ s) = false := by
  cases sign <;> simp [opensLabel, MemberSign.text]

theorem cutMemberSign?_sign : cutMemberSign? (sign.text ++ s) = some (sign.text, s) := by
  cases sign with
  | dot => rfl
  | arrow => rfl

end Signs

/-- A structure, a member of it, and any number of further members. The structure
is no word of a list; the members may be. -/
structure MemberChain where
  base : List Char
  sign : MemberSign
  member : List Char
  further : List (List Char)
  base_isName : isName base = true
  base_not_reserved : isReserved base = false
  member_isName : isName member = true
  further_isName : ∀ x ∈ further, isName x = true

/-- Further members as they are written. -/
def linkText (xs : List (List Char)) : List Char :=
  xs.flatMap ('.' :: ·)

/-- A dot and a member for each further member. -/
def linkLexemes (xs : List (List Char)) : List Lexeme :=
  xs.flatMap fun x => [⟨.punctuation, ['.']⟩, ⟨.member, x⟩]

namespace MemberChain

/-- A chain as it is written. -/
def text (chain : MemberChain) : List Char :=
  chain.base ++ (chain.sign.text ++ (chain.member ++ linkText chain.further))

/-- What a chain is read as. -/
def lexemes (chain : MemberChain) : List Lexeme :=
  [⟨.name, chain.base⟩, ⟨.punctuation, chain.sign.text⟩, ⟨.member, chain.member⟩] ++
    linkLexemes chain.further

/-- The cursor behind a chain that a source begins with. -/
def behind (chain : MemberChain) (stack : List Mode) (rest : List Char) : Cursor :=
  ⟨chain.text.getLast?, stack, rest⟩

end MemberChain

/-- A chain does not go on here: neither its last name does, nor does a dot with
a name behind it follow. -/
def endsChain (rest : List Char) : Bool :=
  endsName rest && !(rest.head? == some '.' && rest.tail.head?.any isNameStart)

theorem textOf_linkLexemes (xs : List (List Char)) : textOf (linkLexemes xs) = linkText xs := by
  induction xs with
  | nil => rfl
  | cons x xs ih =>
      rw [linkLexemes, List.flatMap_cons, textOf_append]
      rw [linkLexemes] at ih
      rw [ih, linkText, linkText, List.flatMap_cons]
      simp

theorem MemberChain.textOf_lexemes (chain : MemberChain) :
    textOf chain.lexemes = chain.text := by
  simp [lexemes, text, textOf_linkLexemes]

/-- Behind a name of a chain no name goes on. -/
theorem endsName_linkText {rest : List Char} (h : endsChain rest = true)
    (xs : List (List Char)) : endsName (linkText xs ++ rest) = true := by
  cases xs with
  | nil => exact (Bool.and_eq_true_iff.mp h).1
  | cons x xs => exact endsName_cons (by decide) _

namespace Cursor

variable {c : Cursor} {stack : List Mode}

/-! ## Steps under one stack -/

/-- Some steps, each of which leaves the same stack, lead from one cursor to
another and produce these lexemes. -/
inductive RunUnder (stack : List Mode) : Cursor → List Lexeme → Cursor → Prop
  | refl (c : Cursor) : RunUnder stack c [] c
  | step {c d : Cursor} {st : Step} {ls : List Lexeme} :
      c.step? = some st → st.next.stack = stack → RunUnder stack st.next ls d →
        RunUnder stack c (st.lexemes ++ ls) d

namespace RunUnder

variable {d : Cursor} {ls : List Lexeme}

theorem run (h : RunUnder stack c ls d) : Run c ls d := by
  induction h with
  | refl c => exact .refl c
  | step hst _ _ ih => exact .step hst ih

theorem lexemeStacks_eq (h : RunUnder stack c ls d) :
    c.lexemeStacks = List.replicate ls.length stack ++ d.lexemeStacks := by
  induction h with
  | refl c => rfl
  | @step c d st ls hst hstack _ ih =>
      rw [lexemeStacks_of_step? hst, ih, hstack, List.map_const', List.length_append,
        List.replicate_add, List.append_assoc]

end RunUnder

/-! ## The steps of a chain -/

variable {before : Option Char} {x y s rest : List Char}

/-- In root mode a structure is taken together with its first member. -/
theorem exists_step?_access (before : Option Char) (stack : List Mode) (sign : MemberSign)
    (hx : isName x = true) (hreserved : isReserved x = false) (hy : isName y = true)
    (hs : endsName s = true) :
    ∃ last, step? ⟨before, .root :: stack, x ++ (sign.text ++ (y ++ s))⟩ =
      some ⟨[⟨.name, x⟩, ⟨.punctuation, sign.text⟩, ⟨.member, y⟩],
        ⟨last, .member :: .root :: stack, s⟩⟩ := by
  have hname := cutName?_append hx (endsName_sign sign (y ++ s))
  have hne : x ≠ [] := cutName?_ne_nil hname
  obtain ⟨ch, t, hcons, hch, -⟩ := cutName?_eq_some.mp hname
  generalize hc : (⟨before, .root :: stack, x ++ (sign.text ++ (y ++ s))⟩ : Cursor) = c
  have hrest : c.rest = x ++ (sign.text ++ (y ++ s)) := hc ▸ rfl
  rw [← hrest] at hname hcons
  -- A sign follows, so the two rules in front of the one for members find nothing.
  have hcall : Rule.call.find? c.before c.rest = none := by
    have hreads := reads_call hname
    rw [opensCall_sign] at hreads
    exact hreads.find?_eq_none
  have hlabel : Rule.label.find? c.before c.rest = none := by
    have hreads := reads_label hname
    rw [opensLabel_sign] at hreads
    exact hreads.find?_eq_none
  have haccess : Rule.memberAccess.find? c.before c.rest = some (.plain
      [⟨.name, x⟩, ⟨.punctuation, sign.text⟩, ⟨.member, y⟩] s (.push .member)) := by
    show findMemberAccess? c.rest = _
    rw [findMemberAccess?, hname, Option.bind_some, cutMemberSign?_sign, Option.bind_some,
      cutName?_append hy hs, Option.map_some]
  have hmatch : c.match? = some (.plain
      [⟨.name, x⟩, ⟨.punctuation, sign.text⟩, ⟨.member, y⟩] s (.push .member)) := by
    rw [match?_of_root (hc ▸ rfl) hcons, Mode.rootRulesOn_of_isNameStart hch,
      firstMatch?_of_not_reserved hname hreserved, firstMatch?_of_none _ hcall,
      firstMatch?_of_none _ hlabel]
    exact firstMatch?_of_some _ haccess (advancesBy_of_text_ne_nil (by simp [hne]))
  rw [step?_of_plain (by simp [hrest, hne]) hmatch, ← hc]
  exact ⟨_, rfl⟩

/-- In the mode of a chain a dot and a name are taken as a further member,
whatever the name. -/
theorem exists_step?_link (before : Option Char) (stack : List Mode) (hx : isName x = true)
    (hs : endsName s = true) :
    ∃ last, step? ⟨before, .member :: stack, '.' :: (x ++ s)⟩ =
      some ⟨[⟨.punctuation, ['.']⟩, ⟨.member, x⟩], ⟨last, .member :: stack, s⟩⟩ := by
  have hlink : findMemberLink? ('.' :: (x ++ s)) =
      some (.plain [⟨.punctuation, ['.']⟩, ⟨.member, x⟩] s .stay) := by
    rw [findMemberLink?, cutMark?_singleton, Option.bind_some, cutName?_append hx hs,
      Option.map_some]
  have hmatch : match? ⟨before, .member :: stack, '.' :: (x ++ s)⟩ =
      some (.plain [⟨.punctuation, ['.']⟩, ⟨.member, x⟩] s .stay) := by
    show firstMatch? _ [.memberLink, .memberEnd] = _
    exact firstMatch?_of_some _ hlink (advancesBy_of_text_ne_nil (by simp))
  rw [step?_of_plain (by simp) hmatch]
  exact ⟨_, rfl⟩

/-- What ends a chain closes its mode, and nothing of it is taken. -/
theorem step?_endsChain {mode : Mode} (hends : endsChain rest = true) (hne : rest ≠ []) :
    step? ⟨before, .member :: mode :: stack, rest⟩ = some ⟨[], ⟨before, mode :: stack, rest⟩⟩ := by
  have hlink : findMemberLink? rest = none := by
    obtain ⟨ch, s, rfl⟩ := List.exists_cons_of_ne_nil hne
    by_cases hdot : ch = '.'
    · subst hdot
      have hname : cutName? s = none := by
        have hs := (Bool.and_eq_true_iff.mp hends).2
        cases s with
        | nil => rfl
        | cons d s => exact cutName?_eq_none s (by simpa using hs)
      rw [findMemberLink?, cutMark?_singleton, Option.bind_some, hname, Option.map_none]
    · rw [findMemberLink?, cutMark?_cons_eq_none s [] hdot, Option.bind_none]
  have hmatch : match? ⟨before, .member :: mode :: stack, rest⟩ = some (.plain [] rest .pop) := by
    show firstMatch? _ [.memberLink, .memberEnd] = _
    rw [firstMatch?_of_none _ hlink]
    exact firstMatch?_of_some _ rfl rfl
  exact step?_of_plain hne hmatch

/-! ## The run over a chain -/

theorem exists_runUnder_links {xs : List (List Char)} (before : Option Char) (stack : List Mode)
    (hxs : ∀ x ∈ xs, isName x = true) (hends : endsChain rest = true) :
    ∃ last, RunUnder (.member :: stack) ⟨before, .member :: stack, linkText xs ++ rest⟩
      (linkLexemes xs) ⟨last, .member :: stack, rest⟩ := by
  induction xs generalizing before with
  | nil => exact ⟨before, .refl _⟩
  | cons x xs ih =>
      obtain ⟨hx, hxs⟩ := List.forall_mem_cons.mp hxs
      obtain ⟨next, hstep⟩ := exists_step?_link before stack hx (endsName_linkText hends xs)
      -- A link leaves the stack as it was, so the other links run from behind it.
      obtain ⟨last, hrun⟩ := ih next hxs
      have hrun := RunUnder.step hstep rfl hrun
      refine ⟨last, ?_⟩
      simpa [linkText, linkLexemes] using hrun

theorem exists_runUnder_chain (before : Option Char) (stack : List Mode) (chain : MemberChain)
    (hends : endsChain rest = true) :
    ∃ last, RunUnder (.member :: .root :: stack) ⟨before, .root :: stack, chain.text ++ rest⟩
      chain.lexemes ⟨last, .member :: .root :: stack, rest⟩ := by
  have hs := endsName_linkText hends chain.further
  obtain ⟨next, hstep⟩ := exists_step?_access before stack chain.sign chain.base_isName
    chain.base_not_reserved chain.member_isName hs
  obtain ⟨last, hlinks⟩ := exists_runUnder_links next (.root :: stack) chain.further_isName hends
  have hrun := RunUnder.step hstep rfl hlinks
  refine ⟨last, ?_⟩
  simpa [MemberChain.text, MemberChain.lexemes] using hrun

end Cursor

theorem lexes_chain (chain : MemberChain) {rest : List Char} (hends : endsChain rest = true) :
    (Cursor.start (chain.text ++ rest)).Run chain.lexemes (chain.behind [.member, .root] rest) ∧
      lexemes (chain.text ++ rest) =
        chain.lexemes ++ (chain.behind [.member, .root] rest).lexemes ∧
      tokenStacks (chain.text ++ rest) =
        List.replicate chain.lexemes.length [.member, .root] ++
          (chain.behind [.member, .root] rest).lexemeStacks := by
  obtain ⟨last, hrun⟩ := Cursor.exists_runUnder_chain none [] chain hends
  obtain rfl : last = chain.text.getLast? := by
    have hlast := hrun.run.before_eq
    rwa [chain.textOf_lexemes, Option.or_none] at hlast
  exact ⟨hrun.run, hrun.run.lexemes_eq, hrun.lexemeStacks_eq⟩

/-- **Chains of members have any length.** A source that is a chain is read as a
name, a sign and a member, and then as a dot and a member for each further one,
all with the mode of chains on top of the root. Where more text follows that
does not go on with the chain, the next step closes that mode and takes nothing,
and from there on the text is read in root mode. -/
theorem member_chains_any_length (chain : MemberChain) :
    lexemes chain.text = chain.lexemes ∧
      tokenStacks chain.text = List.replicate chain.lexemes.length [.member, .root] ∧
      ∀ rest : List Char, rest ≠ [] → endsChain rest = true →
        (Cursor.start (chain.text ++ rest)).Run chain.lexemes
          (chain.behind [.member, .root] rest) ∧
        (chain.behind [.member, .root] rest).step? = some ⟨[], chain.behind [.root] rest⟩ ∧
        lexemes (chain.text ++ rest) = chain.lexemes ++ (chain.behind [.root] rest).lexemes ∧
        tokenStacks (chain.text ++ rest) =
          List.replicate chain.lexemes.length [.member, .root] ++
            (chain.behind [.root] rest).lexemeStacks := by
  obtain ⟨-, hlexemes, hstacks⟩ := lexes_chain chain (show endsChain [] = true from rfl)
  rw [List.append_nil, Cursor.lexemes_of_nil rfl, List.append_nil] at hlexemes
  rw [List.append_nil, Cursor.lexemeStacks, Cursor.steps_of_nil rfl, List.flatMap_nil,
    List.append_nil] at hstacks
  refine ⟨hlexemes, hstacks, fun rest hne hends => ?_⟩
  obtain ⟨hrun, hlexemes, hstacks⟩ := lexes_chain chain hends
  have hpop : (chain.behind [.member, .root] rest).step? = some ⟨[], chain.behind [.root] rest⟩ :=
    Cursor.step?_endsChain hends hne
  rw [Cursor.lexemes_of_step? hpop] at hlexemes
  rw [Cursor.lexemeStacks_of_step? hpop] at hstacks
  exact ⟨hrun, hpop, hlexemes, hstacks⟩

set_option maxRecDepth 8000 in
/-- An arrow and a dot, members called as an operator and as a keyword, and an
open parenthesis behind the last one. -/
theorem member_chains_any_length_arrow :
    ∃ chain : MemberChain, chain.text = "s->ne.proc".toList ∧ "(1)".toList ≠ [] ∧
      endsChain "(1)".toList = true ∧
      lexemes "s->ne.proc".toList =
        [⟨.name, ['s']⟩, ⟨.punctuation, ['-', '>']⟩, ⟨.member, ['n', 'e']⟩, ⟨.punctuation, ['.']⟩,
          ⟨.member, "proc".toList⟩] ∧
      lexemes ("s->ne.proc".toList ++ "(1)".toList) =
        chain.lexemes ++ Cursor.lexemes ⟨some 'c', [.root], "(1)".toList⟩ := by
  let chain : MemberChain :=
    ⟨"s".toList, .arrow, "ne".toList, ["proc".toList], by decide, by decide, by decide, by decide⟩
  obtain ⟨hbare, -, hends⟩ := member_chains_any_length chain
  obtain ⟨-, -, hlexemes, -⟩ := hends "(1)".toList (by decide) (by decide)
  exact ⟨chain, rfl, by decide, by decide, hbare, hlexemes⟩

end GaussMarkup
