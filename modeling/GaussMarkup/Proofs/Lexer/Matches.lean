import GaussMarkup.Lexer.Step
import GaussMarkup.Proofs.Lexer.Scanning
import Mathlib.Data.List.Basic

/-!
# What the rules find

Two facts about every match are read off the rules once: none of its lexemes is
empty, and its move is the one that the rule is written with. `Mode.moves` lists
the moves of the rules of each mode, so what a step can do to the stack of modes
is a case analysis over five short lists (`Rule.exists_makes`).
-/

namespace GaussMarkup

theorem text_ne_nil_of_mem_lexemeOf {kind : Kind} {text : List Char} {l : Lexeme}
    (h : l ∈ lexemeOf kind text) : l.text ≠ [] := by
  unfold lexemeOf at h
  split at h
  · cases h
  · next hne =>
    obtain rfl := List.mem_singleton.mp h
    exact hne

/-- No lexeme of a match is empty, those of its embedded text apart. -/
def Match.Solid (m : Match) : Prop :=
  ∀ l ∈ m.front ++ m.back, l.text ≠ []

theorem Match.solid_plain {ls : List Lexeme} {rest : List Char} {move : Move}
    (h : ∀ l ∈ ls, l.text ≠ []) : (Match.plain ls rest move).Solid := by
  simpa [Match.Solid, Match.plain] using h

namespace Rule

/-- All matches of a rule are solid and make the same move. -/
def Makes (rule : Rule) (move : Move) : Prop :=
  ∀ (before : Option Char) (s : List Char) (m : Match),
    rule.find? before s = some m → m.Solid ∧ m.move = move

variable {move : Move}

/-- A rule that takes a single lexeme, with or without a guard. -/
theorem makes_single {rule : Rule} {kind : Kind} {scan : Option Char → List Char → Option Cut}
    (h : ∀ before s, rule.find? before s =
      (scan before s).map fun x => .plain (lexemeOf kind x.1) x.2 move := by intros; rfl) :
    rule.Makes move := by
  intro before s m hm
  rw [h] at hm
  obtain ⟨x, -, rfl⟩ := Option.map_eq_some_iff.mp hm
  exact ⟨Match.solid_plain fun l hl => text_ne_nil_of_mem_lexemeOf hl, rfl⟩

theorem Makes.atLineStart {rule : Rule} (h : rule.Makes move) :
    rule.atLineStart.Makes move := by
  intro _ _ _ hm
  simp only [Rule.atLineStart] at hm
  split at hm
  · exact h _ _ _ hm
  · cases hm

/-! ## Rules that find several lexemes -/

theorem makes_findHeader {words : List String} {kind : Kind} {s : List Char} {m : Match}
    (h : findHeader? words kind s = some m) : m.Solid ∧ m.move = .stay := by
  obtain ⟨word, hword, h⟩ := Option.bind_eq_some_iff.mp h
  obtain ⟨blanks, hblanks, h⟩ := Option.bind_eq_some_iff.mp h
  obtain ⟨name, hname, rfl⟩ := Option.map_eq_some_iff.mp h
  refine ⟨Match.solid_plain ?_, rfl⟩
  simp [cutListedName?_ne_nil hword, cutRun?_ne_nil hblanks, cutName?_ne_nil hname]

theorem makes_structHeader : structHeader.Makes .stay :=
  fun _ _ _ h => makes_findHeader h

theorem makes_loopHeader : loopHeader.Makes .stay :=
  fun _ _ _ h => makes_findHeader h

theorem makes_functionHeader : functionHeader.Makes .stay := by
  intro _ _ _ h
  obtain ⟨word, hword, h⟩ := Option.bind_eq_some_iff.mp h
  obtain ⟨blanks, hblanks, h⟩ := Option.bind_eq_some_iff.mp h
  obtain ⟨name, hname, h⟩ := Option.bind_eq_some_iff.mp h
  obtain ⟨sign, hsign, rfl⟩ := Option.map_eq_some_iff.mp h
  have hne := cutMark?_ne_nil (by simp) hsign
  refine ⟨?_, rfl⟩
  simp [Match.Solid, cutListedName?_ne_nil hword, cutRun?_ne_nil hblanks,
    cutName?_ne_nil hname, hne]

theorem makes_call : call.Makes .stay := by
  intro _ _ _ h
  obtain ⟨name, hname, h⟩ := Option.bind_eq_some_iff.mp h
  obtain ⟨paren, hparen, rfl⟩ := Option.map_eq_some_iff.mp h
  refine ⟨Match.solid_plain fun l hl => ?_, rfl⟩
  rw [List.cons_append, List.mem_cons, List.mem_append, List.mem_singleton] at hl
  rcases hl with rfl | hl | rfl
  · exact cutName?_ne_nil hname
  · exact text_ne_nil_of_mem_lexemeOf hl
  · exact cutMark?_ne_nil (by simp) hparen

theorem makes_label : label.Makes .stay := by
  refine Makes.atLineStart ?_
  intro _ _ _ h
  obtain ⟨name, hname, h⟩ := Option.bind_eq_some_iff.mp h
  obtain ⟨colon, hcolon, rfl⟩ := Option.map_eq_some_iff.mp h
  have hne := cutMark?_ne_nil (by simp) (Option.filter_eq_some_iff.mp hcolon).1
  refine ⟨Match.solid_plain ?_, rfl⟩
  simp [cutName?_ne_nil hname, hne]

theorem makes_memberAccess : memberAccess.Makes (.push .member) := by
  intro _ _ _ h
  obtain ⟨name, hname, h⟩ := Option.bind_eq_some_iff.mp h
  obtain ⟨sign, hsign, h⟩ := Option.bind_eq_some_iff.mp h
  obtain ⟨member, hmember, rfl⟩ := Option.map_eq_some_iff.mp h
  refine ⟨Match.solid_plain ?_, rfl⟩
  simp [cutName?_ne_nil hname, cutMemberSign?_ne_nil hsign, cutName?_ne_nil hmember]

theorem makes_memberLink : memberLink.Makes .stay := by
  intro _ _ _ h
  obtain ⟨dot, hdot, h⟩ := Option.bind_eq_some_iff.mp h
  obtain ⟨member, hmember, rfl⟩ := Option.map_eq_some_iff.mp h
  have hne := cutMark?_ne_nil (by simp) hdot
  refine ⟨Match.solid_plain ?_, rfl⟩
  simp [hne, cutName?_ne_nil hmember]

theorem makes_memberEnd : memberEnd.Makes .pop := by
  intro _ _ _ h
  obtain rfl := Option.some.inj h
  exact ⟨Match.solid_plain (by simp), rfl⟩

theorem makes_findDirective {start : List Char → Option Cut} {mode : Mode} {s : List Char}
    {m : Match} (h : findDirective? start mode s = some m) :
    m.Solid ∧ m.move = .push mode := by
  obtain ⟨rest, -, h⟩ := List.exists_of_findSome?_eq_some h
  obtain ⟨x, -, h⟩ := Option.bind_eq_some_iff.mp h
  split at h
  · cases h
  · next hne =>
    obtain rfl := Option.some.inj h
    exact ⟨by simpa [Match.Solid] using hne, rfl⟩

theorem makes_disabledStart : disabledStart.Makes (.push .disabled) :=
  Makes.atLineStart fun _ _ _ h => makes_findDirective h

theorem makes_directiveStart : directiveStart.Makes (.push .directive) :=
  Makes.atLineStart fun _ _ _ h => makes_findDirective h

theorem makes_includeFile : includeFile.Makes .stay := by
  intro _ _ _ h
  obtain ⟨word, -, h⟩ := Option.bind_eq_some_iff.mp h
  obtain ⟨lead, -, rfl⟩ := Option.map_eq_some_iff.mp h
  refine ⟨Match.solid_plain fun l hl => ?_, rfl⟩
  rw [List.mem_append, List.mem_append] at hl
  rcases hl with (hl | hl) | hl <;> exact text_ne_nil_of_mem_lexemeOf hl

theorem makes_disabledLine : disabledLine.Makes .stay := by
  intro _ _ _ h
  obtain rfl := Option.some.inj h
  exact ⟨Match.solid_plain fun l hl => text_ne_nil_of_mem_lexemeOf hl, rfl⟩

end Rule

/-! ## The rules of each mode -/

/-- The moves that the rules of a mode make. -/
def Mode.moves : Mode → List Move
  | .root => [.stay, .push .string, .push .member, .push .directive, .push .disabled]
  | .string => [.stay, .pop]
  | .member => [.stay, .pop]
  | .directive => [.stay, .pop]
  | .disabled => [.stay, .push .disabled, .pop]

/-- The moves of the rules of root mode behind those for directives. -/
def Mode.plainRootMoves : List Move :=
  [.stay, .push .string, .push .member]

/-- One entry for each rule, in the order of `Mode.rules`. -/
theorem Rule.exists_makes_of_root :
    ∀ rule ∈ Mode.root.rules.drop 2, ∃ move ∈ Mode.plainRootMoves, rule.Makes move := by
  simp only [Mode.rules, List.drop_succ_cons, List.drop_zero, List.forall_mem_cons,
    List.not_mem_nil, false_implies, implies_true, and_true]
  refine ⟨⟨_, ?_, makes_single⟩,
    ⟨_, ?_, makes_single⟩, ⟨_, ?_, makes_single⟩, ⟨_, ?_, makes_single⟩,
    ⟨_, ?_, makes_single⟩, ⟨_, ?_, makes_single⟩, ⟨_, ?_, makes_single⟩,
    ⟨_, ?_, makes_single⟩, ⟨_, ?_, makes_single⟩, ⟨_, ?_, makes_single⟩,
    ⟨_, ?_, makes_single⟩, ⟨_, ?_, makes_single⟩, ⟨_, ?_, makes_single⟩,
    ⟨_, ?_, makes_single⟩, ⟨_, ?_, makes_single⟩, ⟨_, ?_, makes_single⟩,
    ⟨_, ?_, makes_single⟩, ⟨_, ?_, makes_single⟩, ⟨_, ?_, makes_single⟩,
    ⟨_, ?_, makes_single⟩, ⟨_, ?_, makes_structHeader⟩, ⟨_, ?_, makes_loopHeader⟩,
    ⟨_, ?_, makes_functionHeader⟩, ⟨_, ?_, makes_single⟩, ⟨_, ?_, makes_single⟩,
    ⟨_, ?_, makes_single⟩, ⟨_, ?_, makes_call⟩, ⟨_, ?_, makes_label⟩,
    ⟨_, ?_, makes_memberAccess⟩, ⟨_, ?_, makes_single⟩, ⟨_, ?_, makes_single⟩⟩ <;>
    simp [Mode.plainRootMoves]

/-- One entry for each rule, in the order of `Mode.rules`. -/
theorem Rule.exists_makes {mode : Mode} :
    ∀ rule ∈ mode.rules, ∃ move ∈ mode.moves, rule.Makes move := by
  cases mode <;>
    simp only [Mode.rules, List.forall_mem_cons, List.not_mem_nil, false_implies, implies_true,
      and_true]
  case root =>
    have hplain : ∀ move ∈ Mode.plainRootMoves, move ∈ Mode.root.moves := by decide
    have hrules (rule : Rule) (h : rule ∈ Mode.root.rules.drop 2) :
        ∃ move ∈ Mode.root.moves, rule.Makes move := by
      obtain ⟨move, hmove, hmakes⟩ := exists_makes_of_root rule h
      exact ⟨move, hplain move hmove, hmakes⟩
    refine ⟨⟨_, ?_, makes_disabledStart⟩, ⟨_, ?_, makes_directiveStart⟩, ?_⟩
    · simp [Mode.moves]
    · simp [Mode.moves]
    · simpa only [Mode.rules, List.drop_succ_cons, List.drop_zero, List.forall_mem_cons,
        List.not_mem_nil, false_implies, implies_true, and_true] using hrules
  case string =>
    refine ⟨⟨_, ?_, makes_single⟩, ⟨_, ?_, makes_single⟩, ⟨_, ?_, makes_single⟩,
      ⟨_, ?_, makes_single⟩, ⟨_, ?_, makes_single⟩⟩ <;> simp [Mode.moves]
  case member =>
    refine ⟨⟨_, ?_, makes_memberLink⟩, ⟨_, ?_, makes_memberEnd⟩⟩ <;> simp [Mode.moves]
  case directive =>
    refine ⟨⟨_, ?_, makes_includeFile⟩, ⟨_, ?_, makes_single⟩, ⟨_, ?_, makes_single⟩,
      ⟨_, ?_, makes_single⟩, ⟨_, ?_, makes_single⟩, ⟨_, ?_, makes_single⟩,
      ⟨_, ?_, makes_single⟩⟩ <;> simp [Mode.moves]
  case disabled =>
    refine ⟨⟨_, ?_, Makes.atLineStart makes_single⟩, ⟨_, ?_, Makes.atLineStart makes_single⟩,
      ⟨_, ?_, Makes.atLineStart makes_single⟩, ⟨_, ?_, makes_disabledLine⟩⟩ <;> simp [Mode.moves]

/-- What comes first in a list depends on its members only. -/
theorem findSome?_congr {α β : Type} {f g : α → Option β} {xs : List α}
    (h : ∀ x ∈ xs, f x = g x) : xs.findSome? f = xs.findSome? g := by
  rw [← List.head?_filterMap, List.filterMap_congr h, List.head?_filterMap]

namespace Cursor

/-- The match of the first of some rules that leads on. -/
def firstMatch? (c : Cursor) (rules : List Rule) : Option Match :=
  rules.findSome? fun rule => (rule.find? c.before c.rest).filter c.advancesBy

theorem match?_eq_firstMatch? (c : Cursor) : c.match? = c.firstMatch? c.mode.rules := rfl

theorem firstMatch?_of_some {c : Cursor} {rule : Rule} {m : Match} (rules : List Rule)
    (h : rule.find? c.before c.rest = some m) (hadv : c.advancesBy m = true) :
    c.firstMatch? (rule :: rules) = some m := by
  simp [firstMatch?, h, hadv]

/-- Behind a rule that leads on, the other rules do not count. -/
theorem firstMatch?_append_of_mem {c : Cursor} {rule : Rule} {m : Match} {front : List Rule}
    (hmem : rule ∈ front) (hfind : rule.find? c.before c.rest = some m)
    (hm : c.advancesBy m = true) (rules : List Rule) :
    c.firstMatch? (front ++ rules) = c.firstMatch? front := by
  have hsome : (c.firstMatch? front).isSome = true :=
    List.findSome?_isSome_iff.mpr ⟨rule, hmem, by rw [hfind, Option.filter_some, if_pos hm]; rfl⟩
  rw [firstMatch?, List.findSome?_append]
  exact Option.or_of_isSome hsome

/-- A rule that finds the match `m` just where `b` holds. -/
theorem firstMatch?_of_ite {c : Cursor} {rule : Rule} {m : Match} {b : Bool} (rules : List Rule)
    (h : rule.find? c.before c.rest = if b then some m else none)
    (hadv : b = true → c.advancesBy m = true) :
    c.firstMatch? (rule :: rules) = if b then some m else c.firstMatch? rules := by
  cases b with
  | false => simp [firstMatch?, h]
  | true => simp [firstMatch?, h, hadv rfl]

theorem advancesBy_of_text_ne_nil {c : Cursor} {m : Match} (h : m.text ≠ []) :
    c.advancesBy m = true := by
  simp [advancesBy, Match.isEmpty, h]

theorem move_mem_of_match? {c : Cursor} {m : Match} (h : c.match? = some m) :
    m.move ∈ c.mode.moves := by
  obtain ⟨rule, hrule, hfind, -⟩ := find_of_match? h
  obtain ⟨move, hmove, hmakes⟩ := Rule.exists_makes rule hrule
  rw [(hmakes _ _ _ hfind).2]
  exact hmove

theorem solid_of_match? {c : Cursor} {m : Match} (h : c.match? = some m) : m.Solid := by
  obtain ⟨rule, hrule, hfind, -⟩ := find_of_match? h
  obtain ⟨move, -, hmakes⟩ := Rule.exists_makes rule hrule
  exact (hmakes _ _ _ hfind).1

end Cursor

end GaussMarkup
