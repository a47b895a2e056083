import GaussMarkup.Proofs.Signature.Reading
import Mathlib.Data.List.Infix

/-!
# What a list says

A list of a signature is read as a tree, and its text is a row of characters. Both
are compared by their events: the brackets and elements in document order, each
element with the number of groups around it. Of a tree they are written down by
going through it (`Item.allEvents`), and they determine the tree
(`Item.allEvents_injective`). Of a text they are read off its pieces, each with what
stands in front of it and the delimiter behind it (`ListCut.events`).

The invariant of the reader is that the events of what it holds, the outer groups
and the innermost one, are those of the text that it has read, the piece in hand
apart (`allEvents_of_readItemsFrom`).
-/

namespace GaussMarkup

/-! ## Events of a tree -/

/-- What comes next in a list: a bracket, or an element with the number of groups
around it. -/
inductive ListEvent
  | opens
  | closes
  | element (depth : Nat) (e : Element)
  deriving DecidableEq, Repr

/-- The text of an element. -/
def ListEvent.text? : ListEvent → Option (List Char)
  | element _ e => some e.text
  | _ => none

mutual

/-- The events of an item that has `depth` groups around it. -/
def Item.events (depth : Nat) : Item → List ListEvent
  | .element e => [.element depth e]
  | .optional items => .opens :: (Item.allEvents (depth + 1) items ++ [.closes])

/-- The events of items that have `depth` groups around them. -/
def Item.allEvents (depth : Nat) : List Item → List ListEvent
  | [] => []
  | item :: items => item.events depth ++ Item.allEvents depth items

end

namespace Item

variable {depth : Nat} {s t : List ListEvent}

theorem allEvents_append (depth : Nat) (items others : List Item) :
    allEvents depth (items ++ others) = allEvents depth items ++ allEvents depth others := by
  induction items with
  | nil => simp [allEvents]
  | cons item items ih => rw [List.cons_append, allEvents, allEvents, ih, List.append_assoc]

theorem events_ne_closes (item : Item) (s : List ListEvent) :
    (item.events depth ++ s).head? ≠ some .closes := by
  cases item with
  | element e => simp [events]
  | optional items => simp [events]

/-- Nothing, or a closing bracket, comes next. -/
def EndsGroup (s : List ListEvent) : Prop :=
  s = [] ∨ s.head? = some .closes

theorem EndsGroup.ne_events (hs : EndsGroup s) (item : Item) (t : List ListEvent) :
    s ≠ item.events depth ++ t := by
  rintro rfl
  rcases hs with hnil | hhead
  · cases item <;> simp [events] at hnil
  · exact events_ne_closes item t hhead

mutual

theorem events_append_inj (depth : Nat) (item other : Item) (s t : List ListEvent)
    (h : item.events depth ++ s = other.events depth ++ t) : item = other ∧ s = t := by
  cases item with
  | element e =>
      cases other with
      | element e' => simpa [events] using h
      | optional others => simp [events] at h
  | optional items =>
      cases other with
      | element e' => simp [events] at h
      | optional others =>
          simp only [events, List.cons_append, List.append_assoc, List.cons.injEq, true_and] at h
          obtain ⟨rfl, hrest⟩ := allEvents_append_inj (depth + 1) items others _ _ (Or.inr rfl)
            (Or.inr rfl) h
          exact ⟨rfl, by simpa using hrest⟩

/-- Items in front of the end of their group are known from their events. -/
theorem allEvents_append_inj (depth : Nat) (items others : List Item) (s t : List ListEvent)
    (hs : EndsGroup s) (ht : EndsGroup t)
    (h : allEvents depth items ++ s = allEvents depth others ++ t) : items = others ∧ s = t := by
  cases items with
  | nil =>
      cases others with
      | nil => exact ⟨rfl, h⟩
      | cons other others =>
          rw [allEvents, allEvents, List.append_assoc] at h
          exact absurd h (hs.ne_events other _)
  | cons item items =>
      cases others with
      | nil =>
          rw [allEvents, allEvents, List.append_assoc] at h
          exact absurd h.symm (ht.ne_events item _)
      | cons other others =>
          rw [allEvents, allEvents, List.append_assoc, List.append_assoc] at h
          obtain ⟨rfl, hrest⟩ := events_append_inj depth item other _ _ h
          obtain ⟨rfl, hend⟩ := allEvents_append_inj depth items others s t hs ht hrest
          exact ⟨rfl, hend⟩

end

theorem allEvents_injective (depth : Nat) : Function.Injective (allEvents depth) := by
  intro items others h
  have h : allEvents depth items ++ [] = allEvents depth others ++ [] := by simpa using h
  exact (allEvents_append_inj depth items others [] [] (Or.inl rfl) (Or.inl rfl) h).1

end Item

/-! ## Events of a text -/

/-- What the text of a list is cut at. -/
def isListDelimiter (c : Char) : Bool :=
  ['[', ']', ','].contains c

/-- A piece of a text, with all that stands in front of it and the delimiter behind
it. -/
structure ListCut where
  front : List Char
  piece : List Char
  stop : Option Char

/-- The cuts of a text that has `front` and a piece in front of it. -/
def cutListFrom (front piece : List Char) : List Char → List ListCut
  | [] => [⟨front, piece, none⟩]
  | c :: s =>
    if isListDelimiter c then ⟨front, piece, some c⟩ :: cutListFrom (front ++ piece ++ [c]) [] s
    else cutListFrom front (piece ++ [c]) s

/-- A text cut at each of its delimiters. -/
def cutList (s : List Char) : List ListCut :=
  cutListFrom [] [] s

/-- The element that a piece is, if it is not blank, with `depth` groups around
it. -/
def pieceEvents (depth : Nat) (piece : List Char) : List ListEvent :=
  Item.allEvents depth (elementOf piece)

/-- The bracket that a delimiter is. -/
def bracketEvents : Option Char → List ListEvent
  | some '[' => [.opens]
  | some ']' => [.closes]
  | _ => []

/-- The brackets that are open behind a text. -/
def openBrackets (s : List Char) : Nat :=
  s.count '[' - s.count ']'

/-- The events of a piece and of the delimiter behind it. -/
def ListCut.events (cut : ListCut) : List ListEvent :=
  pieceEvents (openBrackets cut.front) cut.piece ++ bracketEvents cut.stop

/-- The events of a text. -/
def textEvents (s : List Char) : List ListEvent :=
  (cutList s).flatMap ListCut.events

theorem pieceEvents_eq (depth : Nat) (piece : List Char) :
    pieceEvents depth piece =
      if trim piece = [] then [] else [.element depth { text := trim piece }] := by
  rw [pieceEvents, elementOf]
  split <;> rfl

theorem map_piece_cutListFrom (front piece s : List Char) :
    (cutListFrom front piece s).map ListCut.piece =
      (s.splitOnP isListDelimiter).modifyHead (piece ++ ·) := by
  induction s generalizing front piece with
  | nil => simp [cutListFrom]
  | cons c s ih =>
      rw [cutListFrom, List.splitOnP_cons_eq_if_modifyHead]
      split
      · rw [List.map_cons, ih]
        obtain ⟨p, ps, hps⟩ := List.exists_cons_of_ne_nil
          (List.splitOnP_ne_nil isListDelimiter s)
        simp [hps]
      · rw [ih, List.modifyHead_modifyHead]
        simp [Function.comp_def]

/-- The elements of a text are its pieces that are not blank. -/
theorem filterMap_textEvents (s : List Char) :
    (textEvents s).filterMap ListEvent.text? =
      ((s.splitOnP isListDelimiter).map trim).filter (· ≠ []) := by
  have hcut (cut : ListCut) : cut.events.filterMap ListEvent.text? =
      ([cut.piece].map trim).filter (· ≠ []) := by
    have hbracket : (bracketEvents cut.stop).filterMap ListEvent.text? = [] := by
      unfold bracketEvents
      split <;> rfl
    rw [ListCut.events, List.filterMap_append, hbracket, List.append_nil, pieceEvents_eq]
    by_cases hblank : trim cut.piece = []
    · simp [hblank]
    · simp [hblank, ListEvent.text?]
  have hpieces : (cutListFrom [] [] s).map ListCut.piece = s.splitOnP isListDelimiter := by
    rw [map_piece_cutListFrom]
    exact congrFun List.modifyHead_id _
  rw [← hpieces, textEvents, cutList]
  induction cutListFrom [] [] s with
  | nil => rfl
  | cons cut cuts ih =>
      rw [List.flatMap_cons, List.filterMap_append, ih, hcut]
      rw [← List.filter_append, ← List.map_append]
      rfl

/-! ## What the reader has read -/

/-- The events of groups that are still open, innermost first, up to their opening
brackets. -/
def outerEvents : List (List Item) → List ListEvent
  | [] => []
  | level :: outer => outerEvents outer ++ Item.allEvents outer.length level ++ [.opens]

/-- The events of what a reader has read, the piece in hand apart. -/
def ListReader.events (r : ListReader) : List ListEvent :=
  outerEvents r.outer ++ Item.allEvents r.outer.length r.level

theorem allEvents_flushed (r : ListReader) (depth : Nat) :
    Item.allEvents depth r.flushed =
      Item.allEvents depth r.level ++ pieceEvents depth r.piece.reverse :=
  Item.allEvents_append depth r.level (elementOf r.piece.reverse)

/-- A reader has read a text and, behind its last delimiter, the piece in hand. -/
structure ListReader.Behind (r : ListReader) (front : List Char) : Prop where
  depth : front.count '[' = front.count ']' + r.outer.length
  piece : ∀ c ∈ r.piece, isListDelimiter c = false

/-- The events that a reader comes to with the rest of the text. -/
def ListReader.eventsWith (r : ListReader) (front s : List Char) : List ListEvent :=
  r.events ++ (cutListFrom front r.piece.reverse s).flatMap ListCut.events

namespace ListReader

variable {r : ListReader} {front s : List Char} {c : Char}

theorem Behind.openBrackets_eq (h : r.Behind front) : openBrackets front = r.outer.length := by
  have hdepth := h.depth
  rw [openBrackets]
  omega

/-- Behind a delimiter all counts are those of the text, since the piece holds
none. -/
theorem Behind.count_eq (h : r.Behind front) {d : Char} (hd : isListDelimiter d = true)
    (c : Char) : (front ++ r.piece.reverse ++ [c]).count d = front.count d + [c].count d := by
  have hmem : d ∉ r.piece.reverse := fun hmem => by
    rw [h.piece d (List.mem_reverse.mp hmem)] at hd
    cases hd
  rw [List.count_append, List.count_append, List.count_eq_zero.mpr hmem, Nat.add_zero]

/-- **One character of a list.** The reader goes on, and the events that it comes to
stay the same, unless a group is closed and none is open. -/
theorem Behind.exists_next (h : r.Behind front) (hc : c = ']' → r.outer ≠ []) :
    ∃ (r' : ListReader) (front' : List Char), r'.Behind front' ∧
      ∀ s, readItemsFrom r (c :: s) = readItemsFrom r' s ∧
        r.eventsWith front (c :: s) = r'.eventsWith front' s := by
  have hopens := h.count_eq (d := '[') rfl c
  have hcloses := h.count_eq (d := ']') rfl c
  have hdepth := h.depth
  by_cases hopen : c = '['
  · subst hopen
    refine ⟨{ outer := r.flushed :: r.outer }, front ++ r.piece.reverse ++ ['['], ⟨?_, by simp⟩,
      fun s => ⟨by simp [readItemsFrom], ?_⟩⟩
    · rw [hopens, hcloses, List.length_cons]
      simp
      omega
    · simp [eventsWith, cutListFrom, isListDelimiter, ListCut.events, bracketEvents, events,
        outerEvents, allEvents_flushed, h.openBrackets_eq, Item.allEvents]
  by_cases hclose : c = ']'
  · subst hclose
    obtain ⟨parent, outer, houter⟩ := List.exists_cons_of_ne_nil (hc rfl)
    refine ⟨{ level := parent ++ [.optional r.flushed], outer := outer },
      front ++ r.piece.reverse ++ [']'], ⟨?_, by simp⟩,
      fun s => ⟨by simp [readItemsFrom, houter], ?_⟩⟩
    · rw [houter, List.length_cons] at hdepth
      rw [hopens, hcloses]
      simp
      omega
    · simp [eventsWith, cutListFrom, isListDelimiter, ListCut.events, bracketEvents, events,
        outerEvents, allEvents_flushed, h.openBrackets_eq, Item.allEvents, Item.allEvents_append,
        Item.events, houter]
  by_cases hcomma : c = ','
  · subst hcomma
    refine ⟨{ r with piece := [], level := r.flushed }, front ++ r.piece.reverse ++ [','],
      ⟨?_, by simp⟩, fun s => ⟨by simp [readItemsFrom], ?_⟩⟩
    · rw [hopens, hcloses]
      simpa using hdepth
    · simp [eventsWith, cutListFrom, isListDelimiter, ListCut.events, bracketEvents, events,
        allEvents_flushed, h.openBrackets_eq]
  · have hplain : isListDelimiter c = false := by simp [isListDelimiter, hopen, hclose, hcomma]
    refine ⟨{ r with piece := c :: r.piece }, front, ⟨hdepth, ?_⟩, fun s => ⟨?_, ?_⟩⟩
    · exact List.forall_mem_cons.mpr ⟨hplain, h.piece⟩
    · simp [readItemsFrom, hopen, hclose, hcomma]
    · simp [eventsWith, cutListFrom, hplain, events]

/-- What is read in the end has the events of what was read so far and those of the
rest of the text. -/
theorem Behind.allEvents_eq {items : List Item} (h : r.Behind front)
    (hread : readItemsFrom r s = .ok items) :
    Item.allEvents 0 items = r.eventsWith front s := by
  induction s generalizing r front with
  | nil =>
      rw [readItemsFrom] at hread
      split at hread
      · next houter =>
        obtain rfl := Except.ok.inj hread
        simp [eventsWith, cutListFrom, ListCut.events, bracketEvents, events, houter, outerEvents,
          allEvents_flushed, h.openBrackets_eq]
      · cases hread
  | cons c s ih =>
      have hc : c = ']' → r.outer ≠ [] := by
        rintro rfl houter
        rw [readItemsFrom_of_closing houter rfl] at hread
        cases hread
      obtain ⟨r', front', h', hnext⟩ := h.exists_next hc
      obtain ⟨hsame, hevents⟩ := hnext s
      rw [hevents]
      exact ih h' (hsame.symm.trans hread)

/-! ## What is wrong with a list -/

theorem readItemsFrom_of_not_covered (h : ¬squareBracket.Covered r.outer.length s) :
    readItemsFrom r s = .error (.unbalanced ']') := by
  induction s generalizing r with
  | nil => exact absurd (Bracketing.covered_nil _ _) h
  | cons c s ih =>
      by_cases hc : (squareBracket.closes c || squareBracket.inner c) = true → 0 < r.outer.length
      · obtain ⟨r', hlength, hread⟩ := exists_readItemsFrom_cons hc
        rw [hread]
        refine ih fun hcovered => h (Bracketing.covered_cons.mpr ⟨hc, ?_⟩)
        rwa [← hlength]
      · rw [Classical.not_imp, Nat.not_lt, Nat.le_zero, List.length_eq_zero_iff] at hc
        exact readItemsFrom_of_closing hc.2 hc.1 s

theorem readItemsFrom_of_open (h : squareBracket.Covered r.outer.length s)
    (hopen : 0 < squareBracket.openBehind r.outer.length s) :
    readItemsFrom r s = .error (.unbalanced '[') := by
  induction s generalizing r with
  | nil =>
      have houter : r.outer ≠ [] := by
        rintro hnil
        simp [Bracketing.openBehind, hnil] at hopen
      rw [readItemsFrom, if_neg houter]
  | cons c s ih =>
      obtain ⟨hc, hrest⟩ := Bracketing.covered_cons.mp h
      obtain ⟨r', hlength, hread⟩ := exists_readItemsFrom_cons hc
      rw [← Bracketing.openBehind_cons hc, ← hlength] at hopen
      rw [hread]
      exact ih (hlength ▸ hrest) hopen

end ListReader

/-- Every square bracket that a text closes is open just where no prefix closes more
than it opens. -/
theorem covered_squareBracket_iff {s : List Char} :
    squareBracket.Covered 0 s ↔ ∀ p, p <+: s → p.count ']' ≤ p.count '[' := by
  constructor
  · rintro h p ⟨t, rfl⟩
    have hle := h.of_append.countP_le
    rwa [Nat.zero_add] at hle
  · intro h a c b hs hc
    obtain rfl : c = ']' := by simpa [squareBracket] using hc
    have hle := h (a ++ [']']) ⟨b, by simp [hs]⟩
    rw [List.count_append, List.count_append] at hle
    simp only [List.count_singleton_self, List.count_singleton] at hle
    have hlt : a.count ']' < a.count '[' := Nat.lt_of_succ_le hle
    rwa [Nat.zero_add]

/-- **Lists are read as they are written.** A list is refused for a closing bracket
if some prefix of its text closes more square brackets than it opens, and otherwise
for an opening one if the text opens more than it closes. In all other cases it is
read, as the one tree that has the events of the text. So there is a group for each
pair of brackets, and the elements are the pieces between delimiters that are not
blank, each inside as many groups as brackets are open in front of it. -/
theorem lists_read_as_written (s : List Char) :
    ((∃ p, p <+: s ∧ p.count '[' < p.count ']') → readItems s = .error (.unbalanced ']')) ∧
      ((∀ p, p <+: s → p.count ']' ≤ p.count '[') →
        (s.count ']' < s.count '[' → readItems s = .error (.unbalanced '[')) ∧
        (s.count ']' = s.count '[' → ∃ items, readItems s = .ok items ∧
          (∀ others, Item.allEvents 0 others = textEvents s ↔ others = items) ∧
          (Item.allEvents 0 items).filterMap ListEvent.text? =
            ((s.splitOnP isListDelimiter).map trim).filter (· ≠ []))) := by
  refine ⟨?_, fun hfront => ⟨fun hcount => ?_, fun hcount => ?_⟩⟩
  · rintro ⟨p, hp, hcount⟩
    refine ListReader.readItemsFrom_of_not_covered fun hcovered => ?_
    have hle := covered_squareBracket_iff.mp hcovered p hp
    omega
  · refine ListReader.readItemsFrom_of_open (covered_squareBracket_iff.mpr hfront) ?_
    have hopen : s.countP squareBracket.closes < s.countP squareBracket.opens := hcount
    simp only [Bracketing.openBehind, List.length_nil]
    omega
  · obtain ⟨items, hread⟩ := (exists_readItems_iff s).mpr
      ⟨covered_squareBracket_iff.mpr hfront, hcount.symm⟩
    have hstart : ListReader.Behind {} [] := ⟨rfl, by simp⟩
    have hevents : Item.allEvents 0 items = textEvents s := hstart.allEvents_eq hread
    refine ⟨items, hread, fun others => ?_, by rw [hevents, filterMap_textEvents]⟩
    rw [← hevents]
    exact (Item.allEvents_injective 0).eq_iff

/-- A group in a group, with nothing in it but blanks, and commas next to brackets. -/
theorem lists_read_as_written_nested :
    (∀ p, p <+: "a[, b[ ]c ,]".toList → p.count ']' ≤ p.count '[') ∧
      "a[, b[ ]c ,]".toList.count ']' = "a[, b[ ]c ,]".toList.count '[' ∧
      readItems "a[, b[ ]c ,]".toList = .ok
        [.element { text := ['a'] },
          .optional [.element { text := ['b'] }, .optional [], .element { text := ['c'] }]] := by
  have hfront : ∀ p, p <+: "a[, b[ ]c ,]".toList → p.count ']' ≤ p.count '[' := by
    have hinits : ∀ p ∈ "a[, b[ ]c ,]".toList.inits, p.count ']' ≤ p.count '[' := by decide
    exact fun p hp => hinits p ((List.mem_inits _ _).mpr hp)
  have hcount : "a[, b[ ]c ,]".toList.count ']' = "a[, b[ ]c ,]".toList.count '[' := by decide
  obtain ⟨items, hread, htree, -⟩ := ((lists_read_as_written _).2 hfront).2 hcount
  have hevents : Item.allEvents 0 [.element { text := ['a'] },
      .optional [.element { text := ['b'] }, .optional [], .element { text := ['c'] }]] =
        textEvents "a[, b[ ]c ,]".toList := by
    have htrim : trim ['a'] = ['a'] ∧ trim [' ', 'b'] = ['b'] ∧ trim ['c', ' '] = ['c'] ∧
        trim [' '] = [] ∧ trim [] = [] := by decide
    simp [textEvents, cutList, cutListFrom, isListDelimiter, ListCut.events, pieceEvents_eq,
      bracketEvents, openBrackets, Item.allEvents, Item.events, htrim]
  rw [(htree _).mp hevents]
  exact ⟨hfront, hcount, hread⟩

end GaussMarkup
