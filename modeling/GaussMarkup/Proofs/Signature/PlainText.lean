import GaussMarkup.Proofs.Html.Reading
import GaussMarkup.Signature.Html

/-!
# The text of a signature

Printed signatures put tags around names, elements and brackets, and write some
spaces as `&nbsp;`. What a reader sees of one is plain text: `itemsText` follows
the walk over a list and leaves the tags out, and `Signature.plainText` is the
text of a whole signature. The two agree on every signature whose separators
show themselves (`shows_render`).
-/

namespace GaussMarkup

/-- The space at which no line breaks. -/
def noBreakSpace : Char := '\u00a0'

/-- The entities that occur in printed signatures. -/
def signatureEntities : List Entity :=
  entities ++ [("&nbsp;".toList, noBreakSpace)]

theorem readsEscapes_signatureEntities : ReadsEscapes signatureEntities := by
  intro c s
  rcases escapeChar_cases c with h | ⟨heq, hamp, -, -⟩
  · have hne : escapeChar c ≠ [] := by
      intro hnil
      simp [hnil, entities] at h
    refine readEntities_entity (e := (escapeChar c, c)) hne ?_
    rw [signatureEntities, List.find?_append, find?_entities h s]
    rfl
  · rw [heq]
    exact readEntities_cons_of_find?_none (by simp [signatureEntities, entities, Ne.symm hamp])

theorem shows_noBreakSpace : Shows signatureEntities "&nbsp;".toList [noBreakSpace] := by
  intro s
  rw [stripTags_append (by decide)]
  exact readEntities_entity (e := ("&nbsp;".toList, noBreakSpace)) (by decide)
    (by simp [signatureEntities, entities])

/-- A character without a meaning in markup shows itself. -/
theorem shows_char {c : Char} (h : escapeChar c = [c]) : Shows signatureEntities [c] [c] := by
  have hshows := shows_escapeHtml readsEscapes_signatureEntities [c]
  rwa [escapeHtml_cons, escapeHtml_nil, List.append_nil, h] at hshows

theorem shows_inSpan_char (cssClass : List Char) {c : Char} (hclass : '>' ∉ cssClass)
    (h : escapeChar c = [c]) : Shows signatureEntities (inSpan cssClass [c]) [c] :=
  (shows_char h).inSpan hclass

theorem shows_defaultSeparator : Shows signatureEntities defaultSeparator defaultSeparator :=
  shows_escapeHtml readsEscapes_signatureEntities defaultSeparator

namespace ListContext

/-- The separator in front of an element. -/
def textBefore (ctx : ListContext) : List Char :=
  if !ctx.first && ctx.requiredLeft == 0 then ctx.separator else []

/-- The separator behind an element. -/
def textBehind (ctx : ListContext) : List Char :=
  if 0 < ctx.requiredLeft then ctx.separator else []

mutual

/-- What a reader sees of an item. -/
def itemText (ctx : ListContext) : Item → List Char
  | .element e => ctx.textBefore ++ (e.text ++ (ctx.enterElement e).2.textBehind)
  | .optional items => '[' :: (itemsText ctx.enterGroup.2 items ++ [']'])

/-- What a reader sees of items, one after the other. -/
def itemsText (ctx : ListContext) : List Item → List Char
  | [] => []
  | item :: items => itemText ctx item ++ itemsText (ctx.walkItem item).2 items

end

/-- Walking changes neither the separator nor whether there are several items. -/
def Keeps (ctx ctx' : ListContext) : Prop :=
  ctx'.separator = ctx.separator ∧ ctx'.several = ctx.several

mutual

theorem keeps_walkItem (ctx : ListContext) : ∀ item : Item, ctx.Keeps (ctx.walkItem item).2
  | .element _ => ⟨rfl, rfl⟩
  | .optional items => keeps_walkItems ctx.enterGroup.2 items

theorem keeps_walkItems (ctx : ListContext) :
    ∀ items : List Item, ctx.Keeps (ctx.walkItems items).2
  | [] => ⟨rfl, rfl⟩
  | item :: items =>
      have hitem := keeps_walkItem ctx item
      have hitems := keeps_walkItems (ctx.walkItem item).2 items
      ⟨hitems.1.trans hitem.1, hitems.2.trans hitem.2⟩

end

/-! ## What the fragments of a list show -/

/-- The separator of a list is printed as it is, and so it has to show itself. -/
def Separates (ctx : ListContext) : Prop :=
  Shows signatureEntities ctx.separator ctx.separator

variable {ctx : ListContext}

theorem Separates.shows_ite (h : ctx.Separates) (b : Prop) [Decidable b] :
    Shows signatureEntities (if b then [ctx.separator] else []).flatten
      (if b then ctx.separator else []) := by
  split
  · simpa [Separates] using h
  · exact shows_nil

/-- Emphasis shows nothing, whether it is there or not. -/
theorem shows_emphasis (plain : Bool) {tag : List Char} (htag : Shows signatureEntities tag []) :
    Shows signatureEntities (if plain then [] else [tag]).flatten [] := by
  cases plain with
  | false => simpa using htag
  | true => exact shows_nil

theorem Separates.shows_enterElement (h : ctx.Separates) (e : Element) :
    Shows signatureEntities (ctx.enterElement e).1.flatten ctx.textBefore := by
  have htag : Shows signatureEntities "<em>".toList [] :=
    shows_tag (show _ = '<' :: ("em".toList ++ ['>']) from rfl) (by decide)
  have hall := (h.shows_ite ((!ctx.first && ctx.requiredLeft == 0) = true)).append
    (shows_emphasis e.plain htag)
  rwa [← List.flatten_append, List.append_nil] at hall

theorem Separates.shows_leaveElement (h : ctx.Separates) (e : Element) :
    Shows signatureEntities (ctx.leaveElement e).flatten ctx.textBehind := by
  have htag : Shows signatureEntities "</em>".toList [] :=
    shows_tag (show _ = '<' :: ("/em".toList ++ ['>']) from rfl) (by decide)
  have hall := (shows_emphasis e.plain htag).append (h.shows_ite (0 < ctx.requiredLeft))
  rwa [← List.flatten_append, List.nil_append] at hall

theorem Separates.shows_element (h : ctx.Separates) (e : Element) :
    Shows signatureEntities (ctx.walkItem (.element e)).1.flatten (ctx.itemText (.element e)) := by
  have htext := shows_escapeHtml readsEscapes_signatureEntities e.text
  have hleave : Separates (ctx.enterElement e).2 := h
  have hall := (h.shows_enterElement e).append (htext.append (hleave.shows_leaveElement e))
  rw [walkItem, List.flatten_append, List.flatten_cons, itemText]
  exact hall

mutual

theorem Separates.shows_walkItem {ctx : ListContext} (h : ctx.Separates) :
    ∀ item : Item, Shows signatureEntities (ctx.walkItem item).1.flatten (ctx.itemText item)
  | .element e => h.shows_element e
  | .optional items => by
      have hopen : Shows signatureEntities (inSpan "optional".toList ['[']) ['['] :=
        shows_inSpan_char _ (by decide) rfl
      have hclose : Shows signatureEntities (inSpan "optional".toList [']']) [']'] :=
        shows_inSpan_char _ (by decide) rfl
      have hgroup : Separates ctx.enterGroup.2 := h
      have hall := (hopen.append (hgroup.shows_walkItems items)).append hclose
      rw [walkItem, List.flatten_append, List.flatten_append, itemText]
      simpa [enterGroup, leaveGroup] using hall

theorem Separates.shows_walkItems {ctx : ListContext} (h : ctx.Separates) :
    ∀ items : List Item,
      Shows signatureEntities (ctx.walkItems items).1.flatten (ctx.itemsText items)
  | [] => shows_nil
  | item :: items => by
      have hkeep : Separates (ctx.walkItem item).2 := by
        rw [Separates, (keeps_walkItem ctx item).1]
        exact h
      rw [walkItems, List.flatten_append, itemsText]
      exact (h.shows_walkItem item).append (hkeep.shows_walkItems items)

end

end ListContext

/-! ## What a signature shows -/

namespace ItemList

/-- What a reader sees of a list of items. -/
def itemsText (list : ItemList) : List Char :=
  (ListContext.ofList list).itemsText list.items

/-- What a reader sees of a list of returned values. -/
def returnsText (list : ItemList) : List Char :=
  if 1 < list.items.length then '{' :: (noBreakSpace :: list.itemsText ++ [noBreakSpace]) ++ ['}']
  else list.itemsText

/-- What a reader sees of a list of parameters. -/
def parametersText (list : ItemList) : List Char :=
  '(' :: (list.itemsText ++ [')'])

end ItemList

/-- What a reader sees of a signature. -/
def Signature.plainText (s : Signature) : List Char :=
  (s.returns.map fun list => list.returnsText ++ [noBreakSpace, '=', noBreakSpace]).getD [] ++
    (s.name ++ (s.parameters.map ItemList.parametersText).getD [])

variable {list : ItemList}

theorem shows_walkParameters (h : Shows signatureEntities list.separator list.separator) :
    Shows signatureEntities (walkParameters list).flatten list.parametersText := by
  have hopen : Shows signatureEntities (inSpan "sig-paren".toList ['(']) ['('] :=
    shows_inSpan_char _ (by decide) rfl
  have hclose : Shows signatureEntities (inSpan "sig-paren".toList [')']) [')'] :=
    shows_inSpan_char _ (by decide) rfl
  have hsep : (ListContext.ofList list).Separates := h
  have hall := (hopen.append (hsep.shows_walkItems list.items)).append hclose
  rw [walkParameters, List.flatten_append, List.flatten_append]
  simpa [ListContext.openParameters, ListContext.closeParameters, ItemList.parametersText,
    ItemList.itemsText] using hall

theorem shows_walkReturns (h : Shows signatureEntities list.separator list.separator) :
    Shows signatureEntities (walkReturns list).flatten
      (list.returnsText ++ [noBreakSpace, '=', noBreakSpace]) := by
  have hequals : Shows signatureEntities "&nbsp;<span class=\"sig-equals\">=</span>&nbsp;".toList
      [noBreakSpace, '=', noBreakSpace] :=
    (shows_noBreakSpace.append (shows_inSpan_char "sig-equals".toList
      (by decide) rfl)).append shows_noBreakSpace
  have hopen : Shows signatureEntities "<span class=\"sig-curly\">\x7b</span>&nbsp;".toList
      ['{', noBreakSpace] :=
    (shows_inSpan_char "sig-curly".toList (by decide) rfl).append shows_noBreakSpace
  have hclose : Shows signatureEntities "&nbsp;<span class=\"sig-curly\">\x7d</span>".toList
      [noBreakSpace, '}'] :=
    shows_noBreakSpace.append (shows_inSpan_char "sig-curly".toList (by decide) rfl)
  have hsep : (ListContext.ofList list).Separates := h
  have hitems := hsep.shows_walkItems list.items
  have hseveral := (ListContext.keeps_walkItems (ListContext.ofList list) list.items).2
  rw [walkReturns, List.flatten_append, List.flatten_append, ListContext.openReturns,
    ListContext.closeReturns, hseveral, List.flatten_append, ItemList.returnsText]
  by_cases hs : 1 < list.items.length
  · have hall := ((hopen.append hitems).append hclose).append hequals
    simpa [ListContext.ofList, hs, ItemList.itemsText] using hall
  · have hall := hitems.append hequals
    simpa [ListContext.ofList, hs, ItemList.itemsText] using hall

theorem shows_nameFragment (name : List Char) :
    Shows signatureEntities (nameFragment name) name := by
  have hopen : Shows signatureEntities "<code class=\"sig-name descname\">".toList [] :=
    shows_tag (show _ = '<' :: ("code class=\"sig-name descname\"".toList ++ ['>']) from rfl)
      (by decide)
  have hclose : Shows signatureEntities "</code>".toList [] :=
    shows_tag (show _ = '<' :: ("/code".toList ++ ['>']) from rfl) (by decide)
  have hall := (hopen.append (shows_escapeHtml readsEscapes_signatureEntities name)).append hclose
  rwa [List.nil_append, List.append_nil] at hall

/-- A reader of a printed signature sees its plain text. -/
theorem shows_render {s : Signature}
    (hreturns : ∀ list ∈ s.returns, Shows signatureEntities list.separator list.separator)
    (hparameters : ∀ list ∈ s.parameters, Shows signatureEntities list.separator list.separator) :
    Shows signatureEntities s.render s.plainText := by
  obtain ⟨returns, name, parameters⟩ := s
  have hname := shows_nameFragment name
  have hleft : Shows signatureEntities ((returns.map walkReturns).getD []).flatten
      ((returns.map fun list =>
        list.returnsText ++ [noBreakSpace, '=', noBreakSpace]).getD []) := by
    cases returns with
    | none => exact shows_nil
    | some list => exact shows_walkReturns (hreturns list rfl)
  have hright : Shows signatureEntities ((parameters.map walkParameters).getD []).flatten
      ((parameters.map ItemList.parametersText).getD []) := by
    cases parameters with
    | none => exact shows_nil
    | some list => exact shows_walkParameters (hparameters list rfl)
  have hall := hleft.append (hname.append hright)
  simpa [Signature.render, Signature.fragments, Signature.plainText] using hall

end GaussMarkup
