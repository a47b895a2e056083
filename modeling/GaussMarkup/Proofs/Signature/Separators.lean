import GaussMarkup.Signature.Html
import Mathlib.Data.List.Basic

/-!
# Where the separators of a list stand

A list of parameters or returned values is printed piece by piece: the brackets of its
groups and its elements in document order, with separators among them. The walk over a
list decides at two places whether to print a separator, in front of an element and
behind it, and remembers three counters in between. What it does comes to this
(`walkItems_eq`): behind an element stands a separator if an element outside all groups
is still to come; in front of one stands a separator if it is not the first and no such
element is to come from there on. Between two consecutive elements there are only
brackets, so of the two separators that may stand there exactly one does
(`Separated`).
-/

namespace GaussMarkup

/-- What a printed list consists of. -/
inductive ListPiece
  | openGroup
  | closeGroup
  /-- An element; it is direct if it stands outside all groups. -/
  | element (e : Element) (direct : Bool)
  | separator
  deriving DecidableEq, Repr

namespace ListPiece

def isElement : ListPiece → Bool
  | element _ _ => true
  | _ => false

def isDirect : ListPiece → Bool
  | element _ direct => direct
  | _ => false

def isSeparator : ListPiece → Bool
  | separator => true
  | _ => false

/-- The fragments that a piece is printed as. -/
def fragments (sep : Fragment) : ListPiece → List Fragment
  | openGroup => ["<span class=\"optional\">[</span>".toList]
  | closeGroup => ["<span class=\"optional\">]</span>".toList]
  | element e _ =>
    (if e.plain then [] else ["<em>".toList]) ++ escapeHtml e.text ::
      (if e.plain then [] else ["</em>".toList])
  | separator => [sep]

end ListPiece

variable {ps qs : List ListPiece}

/-- Some piece is an element. -/
def hasElement (ps : List ListPiece) : Bool :=
  ps.any ListPiece.isElement

/-- Some piece is an element outside all groups. -/
def hasDirect (ps : List ListPiece) : Bool :=
  ps.any ListPiece.isDirect

/-- The pieces that are no separators. -/
def bare (ps : List ListPiece) : List ListPiece :=
  ps.filter fun p => !p.isSeparator

mutual

/-- The brackets and elements of an item in document order. -/
def Item.pieces (direct : Bool) : Item → List ListPiece
  | .element e => [.element e direct]
  | .optional items => .openGroup :: (Item.allPieces false items ++ [.closeGroup])

/-- The brackets and elements of items in document order. -/
def Item.allPieces (direct : Bool) : List Item → List ListPiece
  | [] => []
  | item :: items => item.pieces direct ++ Item.allPieces direct items

end

/-- Printed pieces have one separator between each two consecutive elements and no
others. It directly follows the first of the two if a direct element comes behind that
one, and otherwise directly precedes the second. -/
structure Separated (ps : List ListPiece) : Prop where
  between : ∀ {a b c : List ListPiece} {x y : ListPiece}, ps = a ++ x :: (b ++ y :: c) →
    x.isElement = true → y.isElement = true → hasElement b = false →
      ∃ brackets, (∀ p ∈ brackets, p = .openGroup ∨ p = .closeGroup) ∧
        b = if hasDirect (y :: c) then .separator :: brackets else brackets ++ [.separator]
  first : ∀ {a c : List ListPiece} {x : ListPiece}, ps = a ++ x :: c → x.isElement = true →
    hasElement a = false → .separator ∉ a
  last : ∀ {a c : List ListPiece} {x : ListPiece}, ps = a ++ x :: c → x.isElement = true →
    hasElement c = false → .separator ∉ c
  none : hasElement ps = false → .separator ∉ ps

/-! ## Elements among pieces -/

@[simp] theorem hasElement_nil : hasElement [] = false := rfl

@[simp] theorem hasElement_cons (p : ListPiece) (ps : List ListPiece) :
    hasElement (p :: ps) = (p.isElement || hasElement ps) := rfl

@[simp] theorem hasElement_append (ps qs : List ListPiece) :
    hasElement (ps ++ qs) = (hasElement ps || hasElement qs) :=
  List.any_append

@[simp] theorem hasDirect_nil : hasDirect [] = false := rfl

@[simp] theorem hasDirect_cons (p : ListPiece) (ps : List ListPiece) :
    hasDirect (p :: ps) = (p.isDirect || hasDirect ps) := rfl

@[simp] theorem hasDirect_append (ps qs : List ListPiece) :
    hasDirect (ps ++ qs) = (hasDirect ps || hasDirect qs) :=
  List.any_append

@[simp] theorem bare_cons (p : ListPiece) (ps : List ListPiece) :
    bare (p :: ps) = if p.isSeparator then bare ps else p :: bare ps := by
  cases h : p.isSeparator <;> simp [bare, h]

@[simp] theorem bare_append (ps qs : List ListPiece) : bare (ps ++ qs) = bare ps ++ bare qs :=
  List.filter_append ..

theorem ListPiece.isDirect_eq_false {p : ListPiece} (h : p.isElement = false) :
    p.isDirect = false := by
  cases p with
  | element => cases h
  | openGroup | closeGroup | separator => rfl

theorem ListPiece.isSeparator_eq_false {p : ListPiece} (h : p.isElement = true) :
    p.isSeparator = false := by
  cases p with
  | element => rfl
  | openGroup | closeGroup | separator => cases h

theorem hasDirect_eq_false (h : hasElement ps = false) : hasDirect ps = false := by
  induction ps with
  | nil => rfl
  | cons p ps ih =>
      rw [hasElement_cons, Bool.or_eq_false_iff] at h
      simp [ListPiece.isDirect_eq_false h.1, ih h.2]

@[simp] theorem hasElement_bare (ps : List ListPiece) : hasElement (bare ps) = hasElement ps := by
  induction ps with
  | nil => rfl
  | cons p ps ih => cases p <;> simp [ListPiece.isElement, ListPiece.isSeparator, ih]

@[simp] theorem hasDirect_bare (ps : List ListPiece) : hasDirect (bare ps) = hasDirect ps := by
  induction ps with
  | nil => rfl
  | cons p ps ih => cases p <;> simp [ListPiece.isDirect, ListPiece.isSeparator, ih]

/-! ## Putting in separators -/

/-- A separator where one is wanted. -/
def separatorIf (b : Bool) : List ListPiece :=
  if b then [.separator] else []

@[simp] theorem bare_separatorIf (b : Bool) : bare (separatorIf b) = [] := by
  cases b <;> rfl

@[simp] theorem hasElement_separatorIf (b : Bool) : hasElement (separatorIf b) = false := by
  cases b <;> rfl

theorem flatMap_separatorIf (b : Bool) (sep : Fragment) :
    (separatorIf b).flatMap (ListPiece.fragments sep) = if b then [sep] else [] := by
  cases b <;> rfl

@[simp] theorem countP_separatorIf (b : Bool) :
    (separatorIf b).countP ListPiece.isElement = 0 := by
  cases b <;> rfl

/-- Pieces with the separators put in. `first` says that no element was printed yet,
`later` that a direct element comes behind all of them. -/
def separate (first later : Bool) : List ListPiece → List ListPiece
  | [] => []
  | p :: ps =>
    if p.isElement then
      separatorIf (!first && !(later || hasDirect (p :: ps))) ++
        p :: (separatorIf (later || hasDirect ps) ++ separate false later ps)
    else p :: separate first later ps

theorem separate_element {first later : Bool} {p : ListPiece} (h : p.isElement = true)
    (ps : List ListPiece) :
    separate first later (p :: ps) = separatorIf (!first && !(later || hasDirect (p :: ps))) ++
      p :: (separatorIf (later || hasDirect ps) ++ separate false later ps) := by
  simp only [separate, h, if_true]

theorem separate_other {first later : Bool} {p : ListPiece} (h : p.isElement = false)
    (ps : List ListPiece) : separate first later (p :: ps) = p :: separate first later ps := by
  simp [separate, h]

theorem separate_append (first later : Bool) (ps qs : List ListPiece) :
    separate first later (ps ++ qs) =
      separate first (later || hasDirect qs) ps ++ separate (first && !hasElement ps) later qs := by
  induction ps generalizing first with
  | nil => simp [separate]
  | cons p ps ih =>
      cases hp : p.isElement with
      | true =>
          simp [separate_element hp, hp, ih, Bool.or_assoc, Bool.or_comm]
      | false => simp [separate_other hp, hp, ih]

theorem separate_of_hasElement {first later : Bool} (h : hasElement ps = false) :
    separate first later ps = ps := by
  induction ps with
  | nil => rfl
  | cons p ps ih =>
      rw [hasElement_cons, Bool.or_eq_false_iff] at h
      rw [separate_other h.1, ih h.2]

theorem separate_group (first later : Bool) (ps : List ListPiece) :
    separate first later (.openGroup :: (ps ++ [.closeGroup])) =
      .openGroup :: (separate first later ps ++ [.closeGroup]) := by
  have hclose : hasDirect [.closeGroup] = false := rfl
  rw [separate_other rfl, separate_append, hclose, Bool.or_false]
  rfl

theorem bare_separate (first later : Bool) (h : ∀ p ∈ ps, p.isSeparator = false) :
    bare (separate first later ps) = ps := by
  induction ps generalizing first with
  | nil => rfl
  | cons p ps ih =>
      obtain ⟨hp, hps⟩ := List.forall_mem_cons.mp h
      cases hel : p.isElement with
      | true => simp [separate_element hel, hp, ih false hps]
      | false => simp [separate_other hel, hp, ih first hps]

/-! ## Around an element -/

theorem countP_bare (ps : List ListPiece) :
    (bare ps).countP ListPiece.isElement = ps.countP ListPiece.isElement := by
  induction ps with
  | nil => rfl
  | cons p ps ih =>
      cases p <;>
        simp [List.countP_cons, ListPiece.isElement, ListPiece.isSeparator, ih]

theorem countP_separate (first later : Bool) (ps : List ListPiece) :
    (separate first later ps).countP ListPiece.isElement = ps.countP ListPiece.isElement := by
  induction ps generalizing first with
  | nil => rfl
  | cons p ps ih =>
      cases hp : p.isElement with
      | true => simp [separate_element hp, hp, ih]
      | false => simp [separate_other hp, hp, ih]

/-- Two ways to name the same element by the number of those in front of it are the same
way. -/
theorem eq_of_countP_eq {a a' r r' : List ListPiece} {x x' : ListPiece}
    (h : a ++ x :: r = a' ++ x' :: r') (hx : x.isElement = true) (hx' : x'.isElement = true)
    (hcount : a.countP ListPiece.isElement = a'.countP ListPiece.isElement) :
    a = a' ∧ x :: r = x' :: r' := by
  obtain ⟨k, ha, hr⟩ | ⟨k, ha, hr⟩ := List.append_eq_append_iff.mp h
  · cases k with
    | nil => exact ⟨by simpa using ha.symm, hr⟩
    | cons p k =>
        obtain ⟨rfl, -⟩ := List.cons.inj hr
        simp [ha, hx] at hcount
  · cases k with
    | nil => exact ⟨by simpa using ha, hr.symm⟩
    | cons p k =>
        obtain ⟨rfl, -⟩ := List.cons.inj hr
        simp [ha, hx'] at hcount

/-- What stands in front of an element and behind it is put in from what the element has in
front of it and behind it. -/
theorem separate_around {first later : Bool} {a r : List ListPiece} {x : ListPiece}
    (hps : ∀ p ∈ ps, p.isSeparator = false) (h : separate first later ps = a ++ x :: r)
    (hx : x.isElement = true) :
    a = separate first (later || hasDirect (x :: r)) (bare a) ++
        separatorIf (!(first && !hasElement a) && !(later || hasDirect (x :: r))) ∧
      r = separatorIf (later || hasDirect r) ++ separate false later (bare r) := by
  have hbare : ps = bare a ++ x :: bare r := by
    rw [← bare_separate first later hps, h]
    simp [ListPiece.isSeparator_eq_false hx]
  have hsplit := h
  rw [hbare, separate_append, separate_element hx, ← List.append_assoc] at hsplit
  have hcount : (separate first (later || hasDirect (x :: bare r)) (bare a) ++
      separatorIf (!(first && !hasElement (bare a)) && !(later || hasDirect (x :: bare r)))).countP
        ListPiece.isElement = a.countP ListPiece.isElement := by
    simp [countP_separate, countP_bare]
  obtain ⟨ha, hr⟩ := eq_of_countP_eq hsplit hx hx hcount
  refine ⟨?_, ?_⟩
  · simpa using ha.symm
  · simpa using (List.cons.inj hr).2.symm

/-- An element behind a separator is behind it in the rest. -/
theorem of_separatorIf_append {b : Bool} {a r : List ListPiece} {x : ListPiece}
    (h : separatorIf b ++ ps = a ++ x :: r) (hx : x.isElement = true) :
    ∃ a', a = separatorIf b ++ a' ∧ ps = a' ++ x :: r := by
  cases b with
  | false => exact ⟨a, rfl, h⟩
  | true =>
      cases a with
      | nil =>
          obtain ⟨rfl, -⟩ := List.cons.inj h
          cases hx
      | cons p a =>
          obtain ⟨rfl, h⟩ := List.cons.inj h
          exact ⟨a, rfl, by simpa [separatorIf] using h⟩

theorem isSeparator_of_mem_bare {p : ListPiece} (h : p ∈ bare ps) : p.isSeparator = false := by
  simpa using (List.mem_filter.mp h).2

theorem separator_notMem_bare (ps : List ListPiece) : .separator ∉ bare ps :=
  fun h => Bool.noConfusion (isSeparator_of_mem_bare h)

/-- Between two consecutive elements there are only brackets and separators. -/
theorem bracket_of_mem_bare {p : ListPiece} (h : p ∈ bare ps) (hel : hasElement ps = false) :
    p = .openGroup ∨ p = .closeGroup := by
  have hp : p.isElement = false := by
    simpa using List.any_eq_false.mp hel p (List.mem_filter.mp h).1
  cases p with
  | openGroup => exact .inl rfl
  | closeGroup => exact .inr rfl
  | element => cases hp
  | separator => cases isSeparator_of_mem_bare h

theorem separated_separate (hps : ∀ p ∈ ps, p.isSeparator = false) :
    Separated (separate true false ps) where
  between {a b c x y} h hx hy hb := by
    obtain ⟨-, hr⟩ := separate_around hps h hx
    have hdirect : hasDirect (b ++ y :: c) = hasDirect (y :: c) := by
      simp [hasDirect_eq_false hb]
    rw [hdirect, Bool.false_or] at hr
    obtain ⟨b', hb', hr'⟩ := of_separatorIf_append hr.symm hy
    obtain ⟨hfront, -⟩ := separate_around (fun _ => isSeparator_of_mem_bare) hr' hy
    have hel : hasElement b' = false := by simpa [hb'] using hb
    rw [separate_of_hasElement (by simpa using hel)] at hfront
    refine ⟨bare b', fun p hp => bracket_of_mem_bare hp hel, ?_⟩
    rw [hb'.trans (congrArg (separatorIf _ ++ ·) hfront)]
    cases hasDirect (y :: c) <;> simp [separatorIf]
  first {a c x} h hx ha := by
    obtain ⟨ha', -⟩ := separate_around hps h hx
    rw [separate_of_hasElement (by simpa using ha), ha] at ha'
    rw [ha']
    simpa [separatorIf] using separator_notMem_bare a
  last {a c x} h hx hc := by
    obtain ⟨-, hc'⟩ := separate_around hps h hx
    rw [separate_of_hasElement (by simpa using hc), hasDirect_eq_false hc] at hc'
    rw [hc']
    exact separator_notMem_bare c
  none h := by
    have hel : hasElement ps = false := by
      rw [← bare_separate true false hps, hasElement_bare, h]
    rw [separate_of_hasElement hel]
    exact fun hmem => by simpa [ListPiece.isSeparator] using hps _ hmem

-- `f([a, ]b, c[, d])`: the separators of both groups are inside them.
example (a b c d : Element) :
    separate true false (Item.allPieces true
        [.optional [.element a], .element b, .element c, .optional [.element d]]) =
      [.openGroup, .element a false, .separator, .closeGroup, .element b true, .separator,
        .element c true, .openGroup, .separator, .element d false, .closeGroup] :=
  rfl

/-! ## The walk -/

mutual

theorem Item.isSeparator_of_mem_pieces (direct : Bool) (item : Item) :
    ∀ p ∈ item.pieces direct, p.isSeparator = false := by
  cases item with
  | element e => simp [Item.pieces, ListPiece.isSeparator]
  | optional items =>
      have ih := Item.isSeparator_of_mem_allPieces false items
      simpa [Item.pieces, ListPiece.isSeparator, or_imp, forall_and] using ih

theorem Item.isSeparator_of_mem_allPieces (direct : Bool) (items : List Item) :
    ∀ p ∈ Item.allPieces direct items, p.isSeparator = false := by
  cases items with
  | nil => simp [Item.allPieces]
  | cons item items =>
      have ih := Item.isSeparator_of_mem_pieces direct item
      have ihs := Item.isSeparator_of_mem_allPieces direct items
      simpa [Item.allPieces, or_imp, forall_and] using ⟨ih, ihs⟩

end

mutual

theorem Item.countP_pieces (direct : Bool) (item : Item) :
    (item.pieces direct).countP ListPiece.isDirect =
      if direct && item.isElement then 1 else 0 := by
  cases item with
  | element e =>
      cases direct <;> simp [Item.pieces, Item.isElement, List.countP_cons, ListPiece.isDirect]
  | optional items =>
      have ih := Item.countP_allPieces false items
      simp [Item.pieces, Item.isElement, ListPiece.isDirect, ih]

theorem Item.countP_allPieces (direct : Bool) (items : List Item) :
    (Item.allPieces direct items).countP ListPiece.isDirect =
      if direct then items.countP Item.isElement else 0 := by
  cases items with
  | nil => cases direct <;> rfl
  | cons item items =>
      have ih := Item.countP_pieces direct item
      have ihs := Item.countP_allPieces direct items
      rw [Item.allPieces, List.countP_append, ih, ihs, List.countP_cons]
      cases direct <;> simp [Nat.add_comm]

end

theorem hasDirect_eq (ps : List ListPiece) :
    hasDirect ps = decide (0 < ps.countP ListPiece.isDirect) := by
  rw [Bool.eq_iff_iff]
  simp [hasDirect, List.countP_pos_iff]

namespace ListContext

/-- What walking over pieces comes to if `later` direct elements come behind them: their
fragments, with the separators put in, and the context behind them. -/
def printed (ctx : ListContext) (later : Nat) (ps : List ListPiece) :
    List Fragment × ListContext :=
  ((separate ctx.first (0 < later) ps).flatMap (ListPiece.fragments ctx.separator),
    { ctx with first := ctx.first && !hasElement ps, requiredLeft := later })

theorem printed_append (ctx : ListContext) (later : Nat) (ps qs : List ListPiece) :
    ctx.printed later (ps ++ qs) =
      let front := ctx.printed (later + qs.countP ListPiece.isDirect) ps
      (front.1 ++ (front.2.printed later qs).1, (front.2.printed later qs).2) := by
  have hlater : (decide (0 < later) || hasDirect qs) =
      decide (0 < later + qs.countP ListPiece.isDirect) := by
    rw [hasDirect_eq, ← Bool.decide_or, decide_eq_decide]
    omega
  simp [printed, separate_append, hlater, Bool.and_assoc]

theorem printed_group (ctx : ListContext) (later : Nat) (ps : List ListPiece) :
    ctx.printed later (.openGroup :: (ps ++ [.closeGroup])) =
      let group := ctx.enterGroup.2.printed later ps
      (ctx.enterGroup.1 ++ group.1 ++ group.2.leaveGroup.1, group.2.leaveGroup.2) := by
  have hopen : ListPiece.fragments ctx.separator .openGroup = ctx.enterGroup.1 := by rfl
  have hclose : ListPiece.fragments ctx.separator .closeGroup =
      (ctx.enterGroup.2.printed later ps).2.leaveGroup.1 := by rfl
  rw [printed, separate_group]
  simp [hopen, hclose, printed, enterGroup, leaveGroup, ListPiece.isElement]

theorem walkItem_element (ctx : ListContext) (later : Nat) (e : Element)
    (h : ctx.requiredLeft =
      later + (Item.pieces (ctx.depth == 0) (.element e)).countP ListPiece.isDirect) :
    ctx.walkItem (.element e) = ctx.printed later (Item.pieces (ctx.depth == 0) (.element e)) := by
  rw [Item.countP_pieces] at h
  have hleft : (ctx.enterElement e).2.requiredLeft = later := by
    by_cases hdepth : ctx.depth = 0 <;> simp_all [enterElement, Item.isElement]
  have hfront : (ctx.requiredLeft == 0) = !(decide (0 < later) || ctx.depth == 0) := by
    rw [h]
    cases ctx.depth == 0 <;> cases later <;> simp [Item.isElement]
  have hdirect : hasDirect [.element e (ctx.depth == 0)] = (ctx.depth == 0) := by
    simp [ListPiece.isDirect]
  have hentered : (ctx.enterElement e).2 = { ctx with first := false, requiredLeft := later } := by
    rw [← hleft]
    rfl
  rw [walkItem, leaveElement, hentered, printed, Item.pieces, separate_element rfl, hdirect,
    ← hfront]
  simp [enterElement, ListPiece.fragments, ListPiece.isElement, separate, flatMap_separatorIf]

mutual

/-- The counters of the walk say what is put in: the elements still required are those in
the item and those behind it. -/
theorem walkItem_eq (ctx : ListContext) (later : Nat) :
    ∀ item : Item,
      ctx.requiredLeft = later + (item.pieces (ctx.depth == 0)).countP ListPiece.isDirect →
        ctx.walkItem item = ctx.printed later (item.pieces (ctx.depth == 0))
  | .element e, h => ctx.walkItem_element later e h
  | .optional items, h => by
      have hgroup : ctx.enterGroup.2.walkItems items =
          ctx.enterGroup.2.printed later (Item.allPieces false items) := by
        refine walkItems_eq ctx.enterGroup.2 later items ?_
        rw [Item.countP_pieces] at h
        simpa [enterGroup, Item.countP_allPieces, Item.isElement] using h
      rw [walkItem, hgroup, Item.pieces, printed_group]

theorem walkItems_eq (ctx : ListContext) (later : Nat) :
    ∀ items : List Item,
      ctx.requiredLeft =
          later + (Item.allPieces (ctx.depth == 0) items).countP ListPiece.isDirect →
        ctx.walkItems items = ctx.printed later (Item.allPieces (ctx.depth == 0) items)
  | [], h => by
      have hleft : ctx.requiredLeft = later := h
      simp [walkItems, Item.allPieces, printed, separate, ← hleft]
  | item :: items, h => by
      rw [Item.allPieces, List.countP_append, Nat.add_comm (List.countP ..), ← Nat.add_assoc] at h
      rw [walkItems, walkItem_eq ctx _ item h, Item.allPieces, printed_append]
      dsimp only
      rw [walkItems_eq _ later items rfl]
      rfl

end

theorem walkItems_ofList (list : ItemList) :
    (ofList list).walkItems list.items =
      (ofList list).printed 0 (Item.allPieces true list.items) := by
  refine walkItems_eq (ofList list) 0 list.items ?_
  simp [ofList, ItemList.requiredCount, Item.countP_allPieces]

end ListContext

/-- A list is printed as its brackets and elements in document order, with one separator
between each two consecutive elements and no others. A separator directly follows the
earlier element while an element outside all groups is still to come, and directly
precedes the later one if none is. -/
theorem separators_between_elements (list : ItemList) :
    ∃ ps : List ListPiece, bare ps = Item.allPieces true list.items ∧ Separated ps ∧
      walkParameters list = ListContext.openParameters ++
        ps.flatMap (ListPiece.fragments list.separator) ++ ListContext.closeParameters ∧
      walkReturns list = (ListContext.ofList list).openReturns ++
        ps.flatMap (ListPiece.fragments list.separator) ++
          (ListContext.ofList list).closeReturns := by
  have hpieces := Item.isSeparator_of_mem_allPieces true list.items
  refine ⟨separate true false (Item.allPieces true list.items), bare_separate true false hpieces,
    separated_separate hpieces, ?_, ?_⟩
  · rw [walkParameters, ListContext.walkItems_ofList]
    rfl
  · rw [walkReturns, ListContext.walkItems_ofList]
    rfl

end GaussMarkup
