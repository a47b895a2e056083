import GaussMarkup.Proofs.Signature.PlainText
import GaussMarkup.Proofs.Signature.Reading

/-!
# Reading a printed signature

A signature that is printed, seen by a reader of markup and read again is the
same signature, however its optional groups are nested. The printer places
separators by counters that it threads through the groups, and the reader of
lists keeps a stack of open groups; what ties the two together is `Ready`: where
the printer is not going to put a separator in front of the next element, the
reader holds no element.
-/

namespace GaussMarkup

/-! ## Signatures that can be read again -/

/-- A name, or the text of an element, without delimiters and outer blanks. -/
structure LegibleText (t : List Char) : Prop where
  ne_nil : t ≠ []
  trim_eq : trim t = t
  free : ∀ c ∈ t, c ∉ [',', '=', '(', ')', '[', ']', '{', '}']

instance (t : List Char) : Decidable (LegibleText t) :=
  decidable_of_iff
    (t ≠ [] ∧ trim t = t ∧
      (t.all fun c => !([',', '=', '(', ')', '[', ']', '{', '}'].contains c)) = true)
    ⟨fun h => ⟨h.1, h.2.1, by simpa using h.2.2⟩,
      fun h => ⟨h.ne_nil, h.trim_eq, by simpa using h.free⟩⟩

/-- An emphasised element with a legible text, or a group of legible items. -/
inductive Item.Legible : Item → Prop
  | element {text : List Char} : LegibleText text → Item.Legible (.element { text := text })
  | optional {items : List Item} :
      (∀ item ∈ items, item.Legible) → Item.Legible (.optional items)

/-- A list of legible items with the usual separator. -/
structure ItemList.Legible (list : ItemList) : Prop where
  items : ∀ item ∈ list.items, item.Legible
  separator : list.separator = defaultSeparator

/-- A signature whose name, returned values and parameters are legible. -/
structure Signature.Legible (s : Signature) : Prop where
  name : LegibleText s.name
  returns : ∀ list ∈ s.returns, list.Legible
  parameters : ∀ list ∈ s.parameters, list.Legible

/-! ## Reading a stretch of a list -/

namespace ListReader

/-- No element is in hand. -/
def Blank (r : ListReader) : Prop :=
  ∀ c ∈ r.piece, isBlank c = true

/-- Some text leads from one state of the reader to another and adds items to
the innermost group. -/
structure Reads (r : ListReader) (t : List Char) (items : List Item) (r' : ListReader) : Prop where
  takes : ∀ s, readItemsFrom r (t ++ s) = readItemsFrom r' s
  flushed : r'.flushed = r.flushed ++ items
  outer : r'.outer = r.outer

variable {r r' r'' : ListReader} {t t' : List Char} {items items' : List Item}

theorem Reads.refl (r : ListReader) : r.Reads [] [] r :=
  ⟨fun _ => rfl, (List.append_nil _).symm, rfl⟩

theorem Reads.trans (h : r.Reads t items r') (h' : r'.Reads t' items' r'') :
    r.Reads (t ++ t') (items ++ items') r'' where
  takes s := by rw [List.append_assoc, h.takes, h'.takes]
  flushed := by rw [h'.flushed, h.flushed, List.append_assoc]
  outer := h'.outer.trans h.outer

theorem Blank.flushed_eq (h : r.Blank) : r.flushed = r.level := by
  have htrim : trim r.piece.reverse = [] :=
    trim_of_blanks fun c hc => h c (List.mem_reverse.mp hc)
  rw [flushed, elementOf, if_pos htrim, List.append_nil]

/-- Text without delimiters goes to the piece in hand. -/
theorem readItemsFrom_text (ht : ∀ c ∈ t, c ∉ ['[', ']', ',']) (r : ListReader) (s : List Char) :
    readItemsFrom r (t ++ s) = readItemsFrom { r with piece := t.reverse ++ r.piece } s := by
  induction t generalizing r with
  | nil => rfl
  | cons c t ih =>
      obtain ⟨hc, ht⟩ := List.forall_mem_cons.mp ht
      simp only [List.mem_cons, List.not_mem_nil, or_false, not_or] at hc
      rw [List.cons_append, readItemsFrom, if_neg hc.1, if_neg hc.2.1, if_neg hc.2.2, ih ht,
        List.reverse_cons, List.append_assoc, List.singleton_append]

/-- Blanks change nothing but the piece in hand. -/
theorem reads_blanks (ht : ∀ c ∈ t, isBlank c = true) (r : ListReader) :
    r.Reads t [] { r with piece := t.reverse ++ r.piece } where
  takes := readItemsFrom_text (fun c hc hmem => by
    have hblank := ht c hc
    simp only [List.mem_cons, List.not_mem_nil, or_false] at hmem
    rcases hmem with rfl | rfl | rfl <;> exact absurd hblank (by decide)) r
  flushed := by
    have hpad := trim_pad (w := []) (by simp) ht r.piece.reverse
    rw [List.nil_append] at hpad
    simp only [ListReader.flushed, elementOf, List.reverse_append, List.reverse_reverse, hpad,
      List.append_nil]
  outer := rfl

theorem reads_separator (r : ListReader) :
    ∃ r', r.Reads defaultSeparator [] r' ∧ r'.Blank := by
  refine ⟨{ r with piece := [' '], level := r.flushed }, ⟨fun s => ?_, ?_, rfl⟩, ?_⟩
  · simp [defaultSeparator, readItemsFrom]
  · have hblank : ListReader.Blank { r with piece := [' '], level := r.flushed } := by
      simp only [Blank, List.mem_singleton, forall_eq]
      decide
    rw [hblank.flushed_eq, List.append_nil]
  · simp only [Blank, List.mem_singleton, forall_eq]
    decide

/-- With no element in hand, a legible text is read as an element. -/
theorem Blank.reads_text (h : r.Blank) (ht : LegibleText t) :
    r.Reads t [.element { text := t }] { r with piece := t.reverse ++ r.piece } where
  takes := readItemsFrom_text (fun c hc hmem => ht.free c hc (by
    simp only [List.mem_cons, List.not_mem_nil, or_false] at hmem ⊢
    tauto)) r
  flushed := by
    have hpad := trim_pad (v := []) (fun c hc => h c (List.mem_reverse.mp hc)) (by simp) t
    rw [List.append_nil, ht.trim_eq] at hpad
    rw [h.flushed_eq]
    simp only [ListReader.flushed, elementOf, List.reverse_append, List.reverse_reverse, hpad,
      if_neg ht.ne_nil]
  outer := rfl

/-- A whole list is read where its items are. -/
theorem Reads.readItems_eq (h : ListReader.Reads {} t items r') : readItems t = .ok items := by
  have hflushed : r'.flushed = items := h.flushed
  have houter : r'.outer = [] := h.outer
  have hread := h.takes []
  rw [List.append_nil] at hread
  rw [readItems, hread, readItemsFrom, if_pos houter, hflushed]

end ListReader

/-! ## Reading what the printer wrote -/

namespace ListContext

variable {ctx : ListContext} {r : ListReader}

/-- Where no separator is going to stand in front of the next element, the
reader has no element in hand. -/
def Ready (ctx : ListContext) (r : ListReader) : Prop :=
  ctx.first = true ∨ 0 < ctx.requiredLeft → r.Blank

theorem Ready.exists_reads_textBefore (hr : ctx.Ready r) (hsep : ctx.separator = defaultSeparator) :
    ∃ r', r.Reads ctx.textBefore [] r' ∧ r'.Blank := by
  unfold textBefore
  split
  · rw [hsep]
    exact ListReader.reads_separator r
  · next h =>
    refine ⟨r, .refl r, hr ?_⟩
    cases hfirst : ctx.first with
    | true => exact .inl rfl
    | false => exact .inr (Nat.pos_of_ne_zero (by simpa [hfirst] using h))

theorem exists_reads_textBehind (ctx : ListContext) (hfirst : ctx.first = false)
    (hsep : ctx.separator = defaultSeparator) (r : ListReader) :
    ∃ r', r.Reads ctx.textBehind [] r' ∧ ctx.Ready r' := by
  unfold textBehind
  split
  · rw [hsep]
    obtain ⟨r', hreads, hblank⟩ := ListReader.reads_separator r
    exact ⟨r', hreads, fun _ => hblank⟩
  · next h =>
    refine ⟨r, .refl r, fun hready => ?_⟩
    rcases hready with hready | hready
    · rw [hfirst] at hready
      cases hready
    · exact absurd hready h

end ListContext

namespace Item

/-- Wherever the printer is, the reader gets an item back from its text. -/
def ReadsBack (item : Item) : Prop :=
  ∀ (ctx : ListContext) (r : ListReader), ctx.separator = defaultSeparator → ctx.Ready r →
    ∃ r', r.Reads (ctx.itemText item) [item] r' ∧ (ctx.walkItem item).2.Ready r'

theorem readsBack_element {text : List Char} (h : LegibleText text) :
    ReadsBack (.element { text := text }) := by
  intro ctx r hsep hr
  obtain ⟨r₁, hbefore, hblank⟩ := hr.exists_reads_textBefore hsep
  have htext := hblank.reads_text h
  obtain ⟨r₂, hbehind, hready⟩ :=
    (ctx.enterElement { text := text }).2.exists_reads_textBehind rfl hsep _
  exact ⟨r₂, hbefore.trans (htext.trans hbehind), hready⟩

/-- Items one after the other, if each of them is read back. -/
theorem readsBack_items {items : List Item} (h : ∀ item ∈ items, item.ReadsBack)
    (ctx : ListContext) (r : ListReader) (hsep : ctx.separator = defaultSeparator)
    (hr : ctx.Ready r) :
    ∃ r', r.Reads (ctx.itemsText items) items r' ∧ (ctx.walkItems items).2.Ready r' := by
  induction items generalizing ctx r with
  | nil => exact ⟨r, .refl r, hr⟩
  | cons item items ih =>
      obtain ⟨hitem, hitems⟩ := List.forall_mem_cons.mp h
      obtain ⟨r₁, hreads, hready⟩ := hitem ctx r hsep hr
      have hsep' := (ctx.keeps_walkItem item).1.trans hsep
      obtain ⟨r₂, hreads', hready'⟩ := ih hitems _ r₁ hsep' hready
      exact ⟨r₂, hreads.trans hreads', hready'⟩

/-- A group, if each of its items is read back. -/
theorem readsBack_optional {items : List Item} (h : ∀ item ∈ items, item.ReadsBack) :
    ReadsBack (.optional items) := by
  intro ctx r hsep _
  -- Behind the opening bracket the reader starts a group of its own, with nothing in hand.
  have hblank : ListReader.Blank { outer := r.flushed :: r.outer } := by
    simp [ListReader.Blank]
  obtain ⟨r', hreads, -⟩ := readsBack_items h ctx.enterGroup.2 _ hsep fun _ => hblank
  have hitems : r'.flushed = items := hreads.flushed
  have houter : r'.outer = r.flushed :: r.outer := hreads.outer
  have hclosed : ListReader.Blank
      { level := r.flushed ++ [.optional items], outer := r.outer } := by
    simp [ListReader.Blank]
  refine ⟨{ level := r.flushed ++ [.optional items], outer := r.outer },
    ⟨fun s => ?_, hclosed.flushed_eq, rfl⟩, fun _ => hclosed⟩
  calc readItemsFrom r (ctx.itemText (.optional items) ++ s)
      = readItemsFrom { outer := r.flushed :: r.outer }
          (ctx.enterGroup.2.itemsText items ++ ']' :: s) := by
        simp [ListContext.itemText, readItemsFrom]
    _ = readItemsFrom r' (']' :: s) := hreads.takes _
    _ = readItemsFrom { level := r.flushed ++ [.optional items], outer := r.outer } s := by
        simp [readItemsFrom, houter, hitems]

theorem Legible.readsBack {item : Item} (h : item.Legible) : item.ReadsBack := by
  induction h with
  | element htext => exact readsBack_element htext
  | optional _ ih => exact readsBack_optional ih

end Item

/-! ## Brackets of printed items -/

theorem paired_defaultSeparator : anyBracket.Paired defaultSeparator :=
  Bracketing.paired_of_ignores
    (List.forall_mem_cons.mpr ⟨by decide, List.forall_mem_singleton.mpr (by decide)⟩)

theorem LegibleText.paired {t : List Char} (h : LegibleText t) : anyBracket.Paired t := by
  refine Bracketing.paired_of_ignores fun c hc => ?_
  have hfree := h.free c hc
  simp only [List.mem_cons, List.not_mem_nil, or_false, not_or] at hfree
  simp [Bracketing.Ignores, anyBracket, isOpening, isClosing, hfree]

theorem ListContext.paired_ite {ctx : ListContext} (hsep : ctx.separator = defaultSeparator)
    (b : Prop) [Decidable b] : anyBracket.Paired (if b then ctx.separator else []) := by
  split
  · rw [hsep]
    exact paired_defaultSeparator
  · exact Bracketing.paired_of_ignores (by simp)

namespace Item

theorem paired_items {items : List Item}
    (h : ∀ item ∈ items, ∀ ctx : ListContext, ctx.separator = defaultSeparator →
      anyBracket.Paired (ctx.itemText item))
    (ctx : ListContext) (hsep : ctx.separator = defaultSeparator) :
    anyBracket.Paired (ctx.itemsText items) := by
  induction items generalizing ctx with
  | nil => exact Bracketing.paired_of_ignores (by simp [ListContext.itemsText])
  | cons item items ih =>
      obtain ⟨hitem, hitems⟩ := List.forall_mem_cons.mp h
      have hsep' := (ctx.keeps_walkItem item).1.trans hsep
      exact (hitem ctx hsep).append (ih hitems _ hsep')

/-- The brackets of an item are those around its groups. -/
theorem Legible.paired {item : Item} (h : item.Legible) (ctx : ListContext)
    (hsep : ctx.separator = defaultSeparator) : anyBracket.Paired (ctx.itemText item) := by
  induction h generalizing ctx with
  | element htext =>
      exact (ListContext.paired_ite hsep _).append
        (htext.paired.append (ListContext.paired_ite hsep _))
  | optional _ ih =>
      exact (paired_items ih ctx.enterGroup.2 hsep).enclose rfl rfl rfl rfl

end Item

/-! ## Lists of returned values and of parameters -/

theorem isBlank_of_mem_noBreakSpace : ∀ c ∈ [noBreakSpace], isBlank c = true :=
  List.forall_mem_singleton.mpr (by decide)

theorem paired_noBreakSpace : anyBracket.Paired [noBreakSpace] :=
  Bracketing.paired_of_ignores (List.forall_mem_singleton.mpr (by decide))

namespace ItemList

variable {list : ItemList}

theorem Legible.paired (h : list.Legible) : anyBracket.Paired list.itemsText :=
  Item.paired_items (fun item hitem ctx hsep => (h.items item hitem).paired ctx hsep) _ h.separator

/-- A printed list is read back, also with blanks around it. -/
theorem Legible.readItems_itemsText (h : list.Legible) {w v : List Char}
    (hw : ∀ c ∈ w, isBlank c = true) (hv : ∀ c ∈ v, isBlank c = true) :
    readItems (w ++ (list.itemsText ++ v)) = .ok list.items := by
  have hfront := ListReader.reads_blanks hw {}
  have hready : (ListContext.ofList list).Ready { piece := w.reverse ++ [] } := by
    intro _ c hc
    exact hw c (by simpa using hc)
  obtain ⟨r, hitems, -⟩ := Item.readsBack_items
    (fun item hitem => (h.items item hitem).readsBack) _ _ h.separator hready
  have hall := hfront.trans (hitems.trans (ListReader.reads_blanks hv r))
  simpa [itemsText] using hall.readItems_eq

theorem dropBraces_cons_of_ne {c : Char} (hc : c ≠ '{') (s : List Char) :
    dropBraces (c :: s) = c :: s := by
  unfold dropBraces
  split
  · next h => exact absurd (List.cons.inj h).1 hc
  · rfl

theorem dropBraces_braces (s : List Char) : dropBraces ('{' :: (s ++ ['}'])) = s := by
  simp [dropBraces]

/-- A list of at most one item is printed without outer blanks or braces. -/
theorem Legible.itemsText_of_length_le_one (h : list.Legible) (hlength : list.items.length ≤ 1) :
    trim list.itemsText = list.itemsText ∧ dropBraces list.itemsText = list.itemsText := by
  obtain ⟨items, separator⟩ := list
  match items, hlength with
  | [], _ => exact ⟨rfl, rfl⟩
  | [.optional items], _ =>
      have hclosed : isBlank ']' = false := by decide
      have hopen : isBlank '[' = false := by decide
      simp only [itemsText, ListContext.itemsText, ListContext.itemText, List.append_nil]
      exact ⟨trim_cons_concat hopen hclosed _, dropBraces_cons_of_ne (by decide) _⟩
  | [.element e], _ =>
      cases h.items _ List.mem_cons_self with
      | @element text htext =>
          have hprinted : itemsText ⟨[.element { text := text }], separator⟩ = text := by
            simp [itemsText, ListContext.itemsText, ListContext.itemText, ListContext.textBefore,
              ListContext.textBehind, ListContext.ofList, ListContext.enterElement,
              requiredCount, Item.isElement]
          obtain ⟨c, t, hct⟩ := List.exists_cons_of_ne_nil htext.ne_nil
          have hbrace : c ≠ '{' := by
            rintro rfl
            exact htext.free '{' (by simp [hct]) (by simp)
          rw [hprinted]
          exact ⟨htext.trim_eq, by rw [hct, dropBraces_cons_of_ne hbrace]⟩

/-- Returned values are read back from what stands in front of the equals sign. -/
theorem Legible.readItems_returnsText (h : list.Legible) :
    readItems (dropBraces (trim (list.returnsText ++ [noBreakSpace]))) = .ok list.items := by
  have htrim := trim_pad (w := []) (by simp) isBlank_of_mem_noBreakSpace list.returnsText
  rw [List.nil_append] at htrim
  rw [htrim, returnsText]
  split
  · have hopen : isBlank '{' = false := by decide
    have hclose : isBlank '}' = false := by decide
    rw [List.cons_append, trim_cons_concat hopen hclose, dropBraces_braces]
    exact h.readItems_itemsText isBlank_of_mem_noBreakSpace isBlank_of_mem_noBreakSpace
  · next hlength =>
    obtain ⟨htrim, hdrop⟩ := h.itemsText_of_length_le_one (Nat.le_of_not_lt hlength)
    rw [htrim, hdrop]
    simpa using h.readItems_itemsText (w := []) (v := []) (by simp) (by simp)

theorem Legible.paired_returnsText (h : list.Legible) : anyBracket.Paired list.returnsText := by
  rw [returnsText]
  split
  · exact ((paired_noBreakSpace.append h.paired).append paired_noBreakSpace).enclose rfl rfl rfl rfl
  · exact h.paired

theorem Legible.paired_parametersText (h : list.Legible) :
    anyBracket.Paired list.parametersText :=
  h.paired.enclose rfl rfl rfl rfl

theorem Legible.readParameters_eq (h : list.Legible) :
    readParameters (list.itemsText ++ [')']) = .ok list := by
  have hitems := h.readItems_itemsText (w := []) (v := []) (by simp) (by simp)
  rw [List.nil_append, List.append_nil] at hitems
  have hsep := h.separator
  obtain ⟨items, separator⟩ := list
  rw [readParameters_of_closed (by simp), hitems, ← hsep]
  rfl

end ItemList

/-! ## Signatures -/

namespace Signature

/-- The plain text of a signature without its returned values. -/
def callText (s : Signature) : List Char :=
  s.name ++ (s.parameters.map ItemList.parametersText).getD []

variable {s : Signature}

theorem Legible.paired_callText (h : s.Legible) : anyBracket.Paired s.callText := by
  refine h.name.paired.append ?_
  cases hp : s.parameters with
  | none => exact Bracketing.paired_of_ignores (by simp)
  | some list => exact (h.parameters list hp).paired_parametersText

theorem Legible.trim_callText (h : s.Legible) : trim s.callText = s.callText := by
  cases hp : s.parameters with
  | none => simpa [callText, hp] using h.name.trim_eq
  | some list =>
      obtain ⟨c, t, hct⟩ := List.exists_cons_of_ne_nil h.name.ne_nil
      have hc : isBlank c = false := by
        have htrim := h.name.trim_eq
        rw [hct] at htrim
        exact isBlank_head_of_trim_eq htrim
      have hcall : s.callText = c :: ((t ++ '(' :: list.itemsText) ++ [')']) := by
        simp [callText, hp, hct, ItemList.parametersText]
      rw [hcall]
      exact trim_cons_concat hc (by decide) _

/-- A call is read back, whatever is returned. -/
theorem Legible.readCall_callText (h : s.Legible) (returns : Option ItemList) :
    readCall returns s.callText = .ok { s with returns := returns } := by
  have hname : '(' ∉ s.name := fun hmem => h.name.free '(' hmem (by simp)
  cases hp : s.parameters with
  | none =>
      have hcall : s.callText = s.name := by simp [callText, hp]
      rw [hcall, readCall_of_not_mem hname, h.name.trim_eq, if_neg h.name.ne_nil, ← hp]
  | some list =>
      have hcall : s.callText = s.name ++ '(' :: (list.itemsText ++ [')']) := by
        simp [callText, hp, ItemList.parametersText]
      rw [hcall, readCall_of_paren hname, (h.parameters list hp).readParameters_eq,
        h.name.trim_eq, Except.bind, if_neg h.name.ne_nil, ← hp]

theorem Legible.parse_plainText (h : s.Legible) : Signature.parse s.plainText = .ok s := by
  cases hr : s.returns with
  | none =>
      have htext : s.plainText = s.callText := by simp [plainText, callText, hr]
      rw [htext, parse_of_covered h.paired_callText.1, h.trim_callText, h.readCall_callText, ← hr]
  | some list =>
      have hlist := h.returns list hr
      have htext : s.plainText =
          (list.returnsText ++ [noBreakSpace]) ++ '=' :: ([noBreakSpace] ++ s.callText) := by
        simp [plainText, callText, hr]
      have htrim : trim ([noBreakSpace] ++ s.callText) = s.callText := by
        have hpad := trim_pad (v := []) isBlank_of_mem_noBreakSpace (by simp) s.callText
        rwa [List.append_nil, h.trim_callText] at hpad
      rw [htext, parse_of_paired (hlist.paired_returnsText.append paired_noBreakSpace), htrim,
        hlist.readItems_returnsText]
      have hret : some { items := list.items } = s.returns := by
        rw [hr, ← hlist.separator]
      simp only [Except.bind]
      rw [h.readCall_callText, hret]

end Signature

/-- **Printing a signature and reading it back.** What a reader of markup sees of
a legible signature, its tags left out and its entities read, is read as that
very signature, for all nestings of optional groups. -/
theorem parse_read_render {s : Signature} (h : s.Legible) :
    Signature.parse (readEntities signatureEntities (stripTags s.render)) = .ok s := by
  have hseparator {list : ItemList} (hlist : list.Legible) :
      Shows signatureEntities list.separator list.separator := by
    rw [hlist.separator]
    exact shows_defaultSeparator
  have hshows : Shows signatureEntities s.render s.plainText :=
    shows_render (fun list hlist => hseparator (h.returns list hlist))
      (fun list hlist => hseparator (h.parameters list hlist))
  rw [hshows.read_eq, h.parse_plainText]

/-- Two returned values, one of them in a group beside an empty group, and
parameters in groups at both ends. -/
def nestedSignature : Signature where
  returns := some { items := [.element { text := "b<1>".toList },
    .optional [.optional [], .element { text := "\"se\" & x".toList }]] }
  name := "ols&amp;".toList
  parameters := some { items := [.optional [.element { text := "a".toList }],
    .element { text := "b c".toList },
    .optional [.element { text := "d".toList }, .optional [.element { text := "e'".toList }]]] }

theorem parse_read_render_nested :
    nestedSignature.Legible ∧
      Signature.parse (readEntities signatureEntities (stripTags nestedSignature.render)) =
        .ok nestedSignature := by
  have hlegible : nestedSignature.Legible := by
    refine ⟨by decide, ?_, ?_⟩
    · rintro list ⟨⟩
      refine ⟨List.forall_mem_cons.mpr ⟨.element (by decide),
        List.forall_mem_singleton.mpr (.optional ?_)⟩, rfl⟩
      exact List.forall_mem_cons.mpr ⟨.optional (List.forall_mem_nil _),
        List.forall_mem_singleton.mpr (.element (by decide))⟩
    · rintro list ⟨⟩
      refine ⟨List.forall_mem_cons.mpr ⟨.optional (List.forall_mem_singleton.mpr
        (.element (by decide))), List.forall_mem_cons.mpr ⟨.element (by decide),
        List.forall_mem_singleton.mpr (.optional ?_)⟩⟩, rfl⟩
      exact List.forall_mem_cons.mpr ⟨.element (by decide),
        List.forall_mem_singleton.mpr (.optional (List.forall_mem_singleton.mpr
          (.element (by decide))))⟩
  exact ⟨hlegible, parse_read_render hlegible⟩

end GaussMarkup
