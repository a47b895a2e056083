import GaussMarkup.Role.MenuSelection
import Mathlib.Data.List.Chain

/-!
# What the ampersands of a menu entry mean

The splitter of menu entries looks at both neighbours of an ampersand, and pairs of
ampersands are made one afterwards, in each stretch by itself. Together that is one rule
on maximal runs (`readRuns`): a single ampersand in front of a character that is not
blank makes the character an accelerator, and any other run of `n` ampersands stands for
`n / 2` of them, rounded up. No stretch begins or ends inside a run, so what happens
to a run does not depend on what is around it.
-/

namespace GaussMarkup

/-- No two neighbours in a list both have a property. -/
def NoneAdjacent {α : Type} (p : α → Bool) (l : List α) : Prop :=
  l.IsChain fun x y => ¬(p x = true ∧ p y = true)

/-- A piece of the text of a menu entry: a run of ampersands, or another character. -/
inductive MenuRun
  | ampersands (n : Nat) (pos : 0 < n)
  | other (c : Char) (ne : c ≠ '&')

namespace MenuRun

def text : MenuRun → List Char
  | ampersands n _ => List.replicate n '&'
  | other c _ => [c]

def isAmpersands : MenuRun → Bool
  | ampersands _ _ => true
  | other _ _ => false

end MenuRun

/-- What a reader of a menu entry reads one after the other. -/
inductive MenuMark
  | ordinary (c : Char)
  | accelerator (c : Char)
  deriving DecidableEq, Repr

/-- What the runs of a menu entry mean. -/
def readRuns : List MenuRun → List MenuMark
  | [] => []
  | .other c _ :: runs => .ordinary c :: readRuns runs
  | .ampersands 1 _ :: .other c _ :: runs =>
    if isBlank c then .ordinary '&' :: .ordinary c :: readRuns runs
    else .accelerator c :: readRuns runs
  | .ampersands n _ :: runs =>
    List.replicate ((n + 1) / 2) (.ordinary '&') ++ readRuns runs

/-- What a menu entry is printed as one after the other. -/
inductive MenuPiece
  | text (s : List Char)
  | accelerator (c : Char)
  deriving DecidableEq, Repr

namespace MenuPiece

def marks : MenuPiece → List MenuMark
  | text s => s.map .ordinary
  | accelerator c => [.accelerator c]

def node : MenuPiece → Inline
  | text s => .text s
  | accelerator c => .span none ["accelerator".toList] [.text [c]]

def isText : MenuPiece → Bool
  | text _ => true
  | accelerator _ => false

end MenuPiece

/-- All ordinary characters between two accelerators are in one text. -/
structure Grouped (pieces : List MenuPiece) : Prop where
  nonempty : .text [] ∉ pieces
  apart : NoneAdjacent MenuPiece.isText pieces

/-- The text of a menu entry: without markers, and with its arrows if it is a selection. -/
def menuText (call : RoleCall) : List Char :=
  if lowercase call.name = menuSelectionName then
    replaceAll '-' ['-', '>'] call.settings.menuArrow (unescape call.text)
  else unescape call.text

/-! ## Runs -/

theorem noneAdjacent_cons {α : Type} {p : α → Bool} {x : α} {l : List α} :
    NoneAdjacent p (x :: l) ↔
      (p x = true → ∀ y ∈ l.head?, p y = false) ∧ NoneAdjacent p l := by
  rw [NoneAdjacent, List.isChain_cons]
  refine and_congr_left' ⟨fun h hx y hy => ?_, fun h y hy hxy => ?_⟩
  · exact Bool.eq_false_iff.mpr fun hy' => h y hy ⟨hx, hy'⟩
  · exact Bool.eq_false_iff.mp (h hxy.1 y hy) hxy.2

/-- Every text can be cut into maximal runs. -/
theorem exists_runs (s : List Char) :
    ∃ runs : List MenuRun, runs.flatMap MenuRun.text = s ∧
      NoneAdjacent MenuRun.isAmpersands runs := by
  induction s with
  | nil => exact ⟨[], rfl, List.isChain_nil⟩
  | cons c s ih =>
      obtain ⟨runs, rfl, h⟩ := ih
      by_cases hc : c = '&'
      · subst hc
        -- The ampersand joins the run behind it, if there is one.
        match runs with
        | .ampersands n pos :: runs =>
            rw [noneAdjacent_cons] at h
            exact ⟨.ampersands (n + 1) (Nat.succ_pos n) :: runs, rfl, noneAdjacent_cons.mpr h⟩
        | [] => exact ⟨[.ampersands 1 Nat.one_pos], rfl, List.isChain_singleton _⟩
        | .other d hd :: runs =>
            refine ⟨.ampersands 1 Nat.one_pos :: .other d hd :: runs, rfl, ?_⟩
            exact noneAdjacent_cons.mpr ⟨by simp [MenuRun.isAmpersands], h⟩
      · exact ⟨.other c hc :: runs, rfl, noneAdjacent_cons.mpr ⟨nofun, h⟩⟩

/-- What stands behind a run of ampersands does not begin with one. -/
theorem head?_ne_of_noneAdjacent {n : Nat} {pos : 0 < n} {runs : List MenuRun}
    (h : NoneAdjacent MenuRun.isAmpersands (.ampersands n pos :: runs)) :
    (runs.flatMap MenuRun.text).head? ≠ some '&' := by
  have hnext := (noneAdjacent_cons.mp h).1 rfl
  cases runs with
  | nil => nofun
  | cons run runs =>
      cases run with
      | ampersands => cases hnext _ rfl
      | other c ne => simpa [MenuRun.text] using ne

/-! ## Pairs of ampersands -/

variable {s : List Char}

@[simp] theorem singleAmpersands_nil : singleAmpersands [] = [] :=
  replaceAll_nil ..

theorem singleAmpersands_cons {c : Char} (h : c ≠ '&') (s : List Char) :
    singleAmpersands (c :: s) = c :: singleAmpersands s :=
  replaceAll_of_ne h

theorem singleAmpersands_single (h : s.head? ≠ some '&') :
    singleAmpersands ('&' :: s) = '&' :: singleAmpersands s :=
  replaceAll_alone h

theorem singleAmpersands_pair (s : List Char) :
    singleAmpersands ('&' :: '&' :: s) = '&' :: singleAmpersands s :=
  replaceAll_two

theorem singleAmpersands_replicate (h : s.head? ≠ some '&') :
    ∀ n, singleAmpersands (List.replicate n '&' ++ s) =
      List.replicate ((n + 1) / 2) '&' ++ singleAmpersands s
  | 0 => rfl
  | 1 => singleAmpersands_single h
  | n + 2 => by
      have hhalf : (n + 2 + 1) / 2 = (n + 1) / 2 + 1 := by omega
      calc singleAmpersands ('&' :: '&' :: (List.replicate n '&' ++ s))
          = '&' :: (List.replicate ((n + 1) / 2) '&' ++ singleAmpersands s) := by
            rw [singleAmpersands_pair, singleAmpersands_replicate h n]
        _ = List.replicate ((n + 2 + 1) / 2) '&' ++ singleAmpersands s := by
            rw [hhalf]
            rfl

/-! ## Stretches -/

variable {last : Option Char}

theorem acceleratorSpansFrom_ampersand (h : marksAccelerator last s = false) :
    acceleratorSpansFrom last ('&' :: s) =
      let later := acceleratorSpansFrom (some '&') s
      ('&' :: later.1, later.2) := by
  simp [acceleratorSpansFrom, h]

theorem acceleratorSpansFrom_other {c : Char} (h : c ≠ '&') (last : Option Char)
    (s : List Char) :
    acceleratorSpansFrom last (c :: s) =
      let later := acceleratorSpansFrom (some c) s
      (c :: later.1, later.2) := by
  simp [acceleratorSpansFrom, h]

theorem acceleratorSpansFrom_replicate (s : List Char) :
    ∀ n, acceleratorSpansFrom (some '&') (List.replicate n '&' ++ s) =
      let later := acceleratorSpansFrom (some '&') s
      (List.replicate n '&' ++ later.1, later.2)
  | 0 => rfl
  | n + 1 => by
      rw [List.replicate_succ, List.cons_append, acceleratorSpansFrom_ampersand rfl,
        acceleratorSpansFrom_replicate s n]
      rfl

theorem head?_acceleratorSpansFrom (h : s.head? ≠ some '&') :
    (acceleratorSpansFrom last s).1.head? ≠ some '&' := by
  cases s with
  | nil => nofun
  | cons c s =>
      have hc : c ≠ '&' := by simpa using h
      simpa [acceleratorSpansFrom_other hc] using hc

/-! ## Pieces -/

/-- The piece of a text, unless the text is empty. -/
def textPieces (s : List Char) : List MenuPiece :=
  if s = [] then [] else [.text s]

/-- The pieces of a stretch that begins with an accelerator. -/
def acceleratorPieces (span : List Char) : List MenuPiece :=
  match singleAmpersands span with
  | [] => []
  | c :: s => .accelerator c :: textPieces s

/-- The pieces of all stretches. -/
def spansPieces (spans : List Char × List (List Char)) : List MenuPiece :=
  textPieces (singleAmpersands spans.1) ++ spans.2.flatMap acceleratorPieces

theorem map_node_textPieces (s : List Char) : (textPieces s).map MenuPiece.node = textNode s := by
  rw [textPieces, textNode]
  split <;> rfl

theorem map_node_acceleratorPieces (span : List Char) :
    (acceleratorPieces span).map MenuPiece.node = acceleratorNodes span := by
  rw [acceleratorPieces, acceleratorNodes]
  cases singleAmpersands span with
  | nil => rfl
  | cons c s => exact congrArg (_ :: ·) (map_node_textPieces s)

theorem menuNodes_eq (s : List Char) :
    menuNodes s = (spansPieces (acceleratorSpansFrom none s)).map MenuPiece.node := by
  rw [spansPieces, List.map_append, List.map_flatMap, map_node_textPieces]
  simp only [map_node_acceleratorPieces]
  rfl

theorem Grouped.cons_accelerator {pieces : List MenuPiece} (h : Grouped pieces) (c : Char) :
    Grouped (.accelerator c :: pieces) where
  nonempty := by simpa using h.nonempty
  apart := noneAdjacent_cons.mpr ⟨nofun, h.apart⟩

theorem Grouped.textPieces_append {pieces : List MenuPiece} (h : Grouped pieces)
    (hhead : ∀ p ∈ pieces.head?, p.isText = false) (s : List Char) :
    Grouped (textPieces s ++ pieces) := by
  rw [textPieces]
  split
  · exact h
  · refine ⟨?_, noneAdjacent_cons.mpr ⟨fun _ => hhead, h.apart⟩⟩
    simpa [*, eq_comm] using h.nonempty

theorem grouped_flatMap_acceleratorPieces (spans : List (List Char)) :
    Grouped (spans.flatMap acceleratorPieces) ∧
      ∀ p ∈ (spans.flatMap acceleratorPieces).head?, p.isText = false := by
  induction spans with
  | nil => exact ⟨⟨by simp, List.isChain_nil⟩, nofun⟩
  | cons span spans ih =>
      rw [List.flatMap_cons, acceleratorPieces]
      cases singleAmpersands span with
      | nil => exact ih
      | cons c s =>
          have hrest := ih.1.textPieces_append ih.2 s
          exact ⟨hrest.cons_accelerator c, by simp [MenuPiece.isText]⟩

theorem grouped_spansPieces (spans : List Char × List (List Char)) :
    Grouped (spansPieces spans) :=
  have h := grouped_flatMap_acceleratorPieces spans.2
  h.1.textPieces_append h.2 _

/-! ## What the pieces say -/

theorem flatMap_marks_textPieces (s : List Char) :
    (textPieces s).flatMap MenuPiece.marks = s.map .ordinary := by
  rw [textPieces]
  split <;> simp [*, MenuPiece.marks]

/-- What the stretches of a text say. -/
def spansMarks (last : Option Char) (s : List Char) : List MenuMark :=
  (spansPieces (acceleratorSpansFrom last s)).flatMap MenuPiece.marks

theorem spansMarks_eq (last : Option Char) (s : List Char) :
    spansMarks last s =
      (singleAmpersands (acceleratorSpansFrom last s).1).map .ordinary ++
        ((acceleratorSpansFrom last s).2.flatMap acceleratorPieces).flatMap MenuPiece.marks := by
  rw [spansMarks, spansPieces, List.flatMap_append, flatMap_marks_textPieces]

theorem spansMarks_other {c : Char} (h : c ≠ '&') (last : Option Char) (s : List Char) :
    spansMarks last (c :: s) = .ordinary c :: spansMarks (some c) s := by
  simp [spansMarks_eq, acceleratorSpansFrom_other h, singleAmpersands_cons h]

theorem spansMarks_run {n : Nat} (h : s.head? ≠ some '&')
    (hmark : marksAccelerator last (List.replicate n '&' ++ s) = false) :
    spansMarks last (List.replicate (n + 1) '&' ++ s) =
      List.replicate ((n + 2) / 2) (.ordinary '&') ++ spansMarks (some '&') s := by
  have hspans : acceleratorSpansFrom last ('&' :: (List.replicate n '&' ++ s)) =
      let later := acceleratorSpansFrom (some '&') s
      (List.replicate (n + 1) '&' ++ later.1, later.2) := by
    rw [acceleratorSpansFrom_ampersand hmark, acceleratorSpansFrom_replicate]
    rfl
  rw [List.replicate_succ, List.cons_append, spansMarks_eq, hspans, spansMarks_eq,
    singleAmpersands_replicate (head?_acceleratorSpansFrom h), List.map_append,
    List.map_replicate, List.append_assoc]

theorem spansMarks_accelerator {c : Char} (h : c ≠ '&') (hblank : isBlank c = false)
    (hlast : last ≠ some '&') :
    spansMarks last ('&' :: c :: s) = .accelerator c :: spansMarks (some c) s := by
  have hmark : marksAccelerator last (c :: s) = true := by
    simp [marksAccelerator, h, hblank, hlast]
  have hspans : acceleratorSpansFrom last ('&' :: c :: s) =
      let later := acceleratorSpansFrom (some c) s
      ([], (c :: later.1) :: later.2) := by
    rw [acceleratorSpansFrom, if_pos ⟨rfl, hmark⟩, acceleratorSpansFrom_other h]
  rw [spansMarks_eq, hspans, spansMarks_eq]
  simp [acceleratorPieces, singleAmpersands_cons h, flatMap_marks_textPieces, MenuPiece.marks]

/-- No ampersand of a longer run and none at the end marks an accelerator. -/
theorem marksAccelerator_run (last : Option Char) {n : Nat} {pos : 0 < n + 1}
    {runs : List MenuRun}
    (hruns : NoneAdjacent MenuRun.isAmpersands (.ampersands (n + 1) pos :: runs))
    (h : ∀ c ne runs', runs = .other c ne :: runs' → n ≠ 0) :
    marksAccelerator last (List.replicate n '&' ++ runs.flatMap MenuRun.text) = false := by
  cases n with
  | succ n => simp [marksAccelerator, List.replicate_succ]
  | zero =>
      cases runs with
      | nil => simp [marksAccelerator]
      | cons run runs =>
          cases run with
          | ampersands => cases (noneAdjacent_cons.mp hruns).1 rfl _ rfl
          | other c ne => exact absurd rfl (h c ne runs rfl)

/-- The splitter reads the runs of a text, wherever in a text it begins, if that is not
inside a run. -/
theorem spansMarks_flatMap_text (last : Option Char) {runs : List MenuRun}
    (hruns : NoneAdjacent MenuRun.isAmpersands runs)
    (hlast : last = some '&' → (runs.flatMap MenuRun.text).head? ≠ some '&') :
    spansMarks last (runs.flatMap MenuRun.text) = readRuns runs := by
  induction runs using readRuns.induct generalizing last with
  | case1 => simp [spansMarks_eq, acceleratorSpansFrom, readRuns]
  | case2 c ne runs ih =>
      -- Another character.
      have hlater := ih (some c) (noneAdjacent_cons.mp hruns).2 (by simp [ne])
      rw [readRuns, ← hlater]
      exact spansMarks_other ne last _
  | case3 pos c ne runs hblank ih =>
      -- One ampersand in front of a blank.
      have hbehind := (noneAdjacent_cons.mp hruns).2
      have hlater := ih (some c) (noneAdjacent_cons.mp hbehind).2 (by simp [ne])
      have hmark : marksAccelerator last (c :: runs.flatMap MenuRun.text) = false := by
        simp [marksAccelerator, hblank]
      rw [readRuns, if_pos hblank, ← hlater, ← spansMarks_other ne (some '&')]
      exact spansMarks_run (n := 0) (by simpa [MenuRun.text] using ne) hmark
  | case4 pos c ne runs hblank ih =>
      -- One ampersand in front of an accelerator.
      have hbehind := (noneAdjacent_cons.mp hruns).2
      have hlater := ih (some c) (noneAdjacent_cons.mp hbehind).2 (by simp [ne])
      rw [readRuns, if_neg hblank, ← hlater]
      exact spansMarks_accelerator ne (by simpa using hblank) (fun h => hlast h rfl)
  | case5 n pos runs hmany ih =>
      -- Any other run.
      obtain ⟨n, rfl⟩ := Nat.exists_eq_succ_of_ne_zero pos.ne'
      have hhead := head?_ne_of_noneAdjacent hruns
      have hlater := ih (some '&') (noneAdjacent_cons.mp hruns).2 (fun _ => hhead)
      have hmark := marksAccelerator_run last hruns fun c ne runs' hr hn =>
        hmany c ne runs' hr (congrArg Nat.succ hn)
      rw [readRuns, ← hlater]
      · exact spansMarks_run hhead hmark
      · exact hmany

/-- A role of menu entries prints one span with the source and the name of the role, and
in it what the runs of its text mean: each accelerator as a span of its own, and the
ordinary characters in front of, between and behind them as texts. -/
theorem menuRole_reads_runs (call : RoleCall) (h : call.name ≠ []) :
    ∃ (runs : List MenuRun) (pieces : List MenuPiece),
      runs.flatMap MenuRun.text = menuText call ∧ NoneAdjacent MenuRun.isAmpersands runs ∧
        pieces.flatMap MenuPiece.marks = readRuns runs ∧ Grouped pieces ∧
          menuRole call =
            { nodes :=
                [.span (some call.rawText) [lowercase call.name] (pieces.map MenuPiece.node)]
              messages := [] } := by
  obtain ⟨runs, hruns, hapart⟩ := exists_runs (menuText call)
  refine ⟨runs, spansPieces (acceleratorSpansFrom none (menuText call)), hruns, hapart, ?_,
    grouped_spansPieces _, ?_⟩
  · rw [← hruns]
    exact spansMarks_flatMap_text none hapart nofun
  · rw [menuRole, if_neg h, ← menuNodes_eq]
    rfl

/-- The entry is read as `A & B && C`, with the `A` and the `C` as accelerators. -/
theorem menuRole_reads_runs_guilabel :
    let call : RoleCall :=
      { name := "GuiLabel".toList, rawText := "entry".toList
        text := "&A & B &&&& &C".toList, line := 1, settings := {} }
    call.name ≠ [] ∧
      ∃ (runs : List MenuRun) (pieces : List MenuPiece),
        runs.flatMap MenuRun.text = menuText call ∧ NoneAdjacent MenuRun.isAmpersands runs ∧
          pieces.flatMap MenuPiece.marks = readRuns runs ∧ Grouped pieces ∧
            menuRole call =
              { nodes :=
                  [.span (some call.rawText) [lowercase call.name] (pieces.map MenuPiece.node)]
                messages := [] } :=
  ⟨by decide, menuRole_reads_runs _ (by decide)⟩

end GaussMarkup
