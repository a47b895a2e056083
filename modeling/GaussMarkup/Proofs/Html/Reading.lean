import GaussMarkup.Html.Escape
import GaussMarkup.Proofs.Text.Prefixes

/-!
# Reading markup

What a reader sees of markup: the tags are left out, and then entities are read
as the characters for which they stand, in one pass from left to right. Which
entities there are is a table; `entities` holds the ones that `escapeHtml`
writes.

`Shows` puts the two passes into a form that composes: markup shows a text if,
whatever markup follows it, the reader sees the text and then what follows. An
escaped text shows the text, a tag shows nothing, and markup that is put
together shows the texts of its parts.
-/

namespace GaussMarkup

/-! ## Leaving out tags -/

/-- Markup without its tags: each stretch from a `<` to the next `>` is left
out. A `<` that no `>` follows stands for itself. -/
def stripTags : List Char → List Char
  | [] => []
  | c :: s =>
    if c = '<' ∧ '>' ∈ s then stripTags (s.dropWhile (· != '>')).tail else c :: stripTags s
termination_by s => s.length
decreasing_by
  · have hdrop := (List.dropWhile_sublist (l := s) (· != '>')).length_le
    simp only [List.length_tail, List.length_cons]
    omega
  · exact Nat.lt_succ_self _

theorem stripTags_cons_of_ne {c : Char} (hc : c ≠ '<') (s : List Char) :
    stripTags (c :: s) = c :: stripTags s := by
  rw [stripTags, if_neg fun h => hc h.1]

/-- Text without a `<` stays as it is. -/
theorem stripTags_append {t : List Char} (ht : '<' ∉ t) (s : List Char) :
    stripTags (t ++ s) = t ++ stripTags s := by
  induction t with
  | nil => rfl
  | cons c t ih =>
      rw [List.mem_cons, not_or] at ht
      rw [List.cons_append, stripTags_cons_of_ne (Ne.symm ht.1), ih ht.2, List.cons_append]

/-- A whole tag is left out. -/
theorem stripTags_tag {body : List Char} (hbody : '>' ∉ body) (s : List Char) :
    stripTags ('<' :: (body ++ '>' :: s)) = stripTags s := by
  rw [stripTags, if_pos ⟨rfl, by simp⟩, (takeWhile_ne_of_not_mem hbody s).2]
  rfl

/-! ## Reading entities -/

/-- An entity with the character for which it stands. -/
abbrev Entity := List Char × Char

/-- The entities of the characters to which markup gives a meaning. -/
def entities : List Entity :=
  [("&amp;".toList, '&'), ("&lt;".toList, '<'), ("&gt;".toList, '>'), ("&quot;".toList, '"'),
    ("&#39;".toList, '\'')]

/-- Markup with each entity of a table read as its character and all else taken
as it stands, from left to right. -/
def readEntities (table : List Entity) : List Char → List Char
  | [] => []
  | c :: s =>
    match table.find? fun e => e.1.isPrefixOf (c :: s) with
    | some e => e.2 :: readEntities table (s.drop (e.1.length - 1))
    | none => c :: readEntities table s
termination_by s => s.length
decreasing_by
  · simp only [List.length_drop, List.length_cons]
    omega
  · exact Nat.lt_succ_self _

theorem readEntities_entity {table : List Entity} {e : Entity} {s : List Char} (hne : e.1 ≠ [])
    (hfind : table.find? (fun d => d.1.isPrefixOf (e.1 ++ s)) = some e) :
    readEntities table (e.1 ++ s) = e.2 :: readEntities table s := by
  obtain ⟨name, ch⟩ := e
  obtain ⟨c, name, rfl⟩ := List.exists_cons_of_ne_nil hne
  rw [List.cons_append] at hfind ⊢
  rw [readEntities, hfind]
  simp

theorem readEntities_cons_of_find?_none {table : List Entity} {c : Char} {s : List Char}
    (hfind : table.find? (fun d => d.1.isPrefixOf (c :: s)) = none) :
    readEntities table (c :: s) = c :: readEntities table s := by
  rw [readEntities, hfind]

/-- A reader of these entities sees through the escapes of text. -/
def ReadsEscapes (table : List Entity) : Prop :=
  ∀ c s, readEntities table (escapeChar c ++ s) = c :: readEntities table s

/-- The five characters that are written as entities. -/
theorem escapeChar_cases (c : Char) :
    (escapeChar c, c) ∈ entities ∨ (escapeChar c = [c] ∧ c ≠ '&' ∧ c ≠ '<' ∧ c ≠ '>') := by
  unfold escapeChar entities
  split
  · next h => simp [h]
  · split
    · next h => simp [h]
    · split
      · next h => simp [h]
      · split
        · next h => simp [h]
        · split
          · next h => simp [h]
          · next hamp hlt hgt _ _ => exact Or.inr ⟨rfl, hamp, hlt, hgt⟩

/-- No entity of the table begins another one. -/
theorem find?_entities {e : Entity} (h : e ∈ entities) (s : List Char) :
    entities.find? (fun d => d.1.isPrefixOf (e.1 ++ s)) = some e := by
  simp only [entities, List.mem_cons, List.not_mem_nil, or_false] at h
  rcases h with rfl | rfl | rfl | rfl | rfl <;> simp [entities]

theorem readsEscapes_entities : ReadsEscapes entities := by
  intro c s
  rcases escapeChar_cases c with h | ⟨heq, hamp, -, -⟩
  · have hne : escapeChar c ≠ [] := by
      intro hnil
      simp [hnil, entities] at h
    exact readEntities_entity hne (find?_entities h s)
  · rw [heq]
    exact readEntities_cons_of_find?_none (by simp [entities, Ne.symm hamp])

/-! ## What markup shows -/

theorem not_mem_escapeChar (c : Char) : '<' ∉ escapeChar c ∧ '>' ∉ escapeChar c := by
  rcases escapeChar_cases c with h | ⟨heq, -, hlt, hgt⟩
  · simp only [entities, List.mem_cons, List.not_mem_nil, or_false, Prod.mk.injEq] at h
    rcases h with ⟨heq, -⟩ | ⟨heq, -⟩ | ⟨heq, -⟩ | ⟨heq, -⟩ | ⟨heq, -⟩ <;> simp [heq]
  · simp [heq, Ne.symm hlt, Ne.symm hgt]

/-- An escaped text can neither open nor close a tag. -/
theorem not_mem_escapeHtml (t : List Char) : '<' ∉ escapeHtml t ∧ '>' ∉ escapeHtml t := by
  simp only [escapeHtml, List.mem_flatMap, not_exists, not_and]
  exact ⟨fun c _ => (not_mem_escapeChar c).1, fun c _ => (not_mem_escapeChar c).2⟩

theorem readEntities_escapeHtml {table : List Entity} (htable : ReadsEscapes table)
    (t s : List Char) :
    readEntities table (escapeHtml t ++ s) = t ++ readEntities table s := by
  induction t with
  | nil => rfl
  | cons c t ih =>
      rw [escapeHtml_cons, List.append_assoc, htable, ih, List.cons_append]

theorem read_escapeHtml (t : List Char) : readEntities entities (escapeHtml t) = t := by
  have hend := readEntities_escapeHtml readsEscapes_entities t []
  simpa [readEntities] using hend

/-- Different texts are written differently. -/
theorem escapeHtml_injective : Function.Injective escapeHtml := by
  intro s t h
  rw [← read_escapeHtml s, h, read_escapeHtml]

/-- Nor can it end the value of an attribute. -/
theorem quote_not_mem_escapeHtml (t : List Char) : '"' ∉ escapeHtml t := by
  simp only [escapeHtml, List.mem_flatMap, not_exists, not_and]
  intro c _
  unfold escapeChar
  split_ifs with _ _ _ hquote
  · decide
  · decide
  · decide
  · decide
  · decide
  · simpa using Ne.symm hquote

/-- A reader of markup sees a text, whatever markup follows. -/
def Shows (table : List Entity) (markup text : List Char) : Prop :=
  ∀ s, readEntities table (stripTags (markup ++ s)) = text ++ readEntities table (stripTags s)

variable {table : List Entity} {markup markup' text text' : List Char}

theorem Shows.read_eq (h : Shows table markup text) :
    readEntities table (stripTags markup) = text := by
  have hend := h []
  simpa [stripTags, readEntities] using hend

theorem shows_nil : Shows table [] [] := by
  intro s
  rfl

theorem Shows.append (h : Shows table markup text) (h' : Shows table markup' text') :
    Shows table (markup ++ markup') (text ++ text') := by
  intro s
  rw [List.append_assoc, h, h', List.append_assoc]

theorem shows_escapeHtml (htable : ReadsEscapes table) (t : List Char) :
    Shows table (escapeHtml t) t := by
  intro s
  rw [stripTags_append (not_mem_escapeHtml t).1, readEntities_escapeHtml htable]

/-- A tag shows nothing, whatever stands between its angle brackets. -/
theorem shows_tag {body : List Char} (htag : markup = '<' :: (body ++ ['>']))
    (hbody : '>' ∉ body) : Shows table markup [] := by
  intro s
  rw [htag, List.cons_append, List.append_assoc, List.singleton_append, stripTags_tag hbody]
  rfl

/-- Markup made piece by piece shows the texts of its pieces. -/
theorem shows_flatMap {α : Type} {render seen : α → List Char} {xs : List α}
    (h : ∀ x ∈ xs, Shows table (render x) (seen x)) :
    Shows table (xs.flatMap render) (xs.flatMap seen) := by
  induction xs with
  | nil => exact shows_nil
  | cons x xs ih =>
      rw [List.forall_mem_cons] at h
      exact h.1.append (ih h.2)

/-! ## Elements -/

theorem shows_spanTag {cssClass : List Char} (h : '>' ∉ cssClass) :
    Shows table (spanTag cssClass) [] := by
  have htag : spanTag cssClass =
      '<' :: (("span class=\"".toList ++ cssClass ++ ['"']) ++ ['>']) := by
    rw [List.append_assoc _ ['"'] ['>'], ← List.cons_append]
    rfl
  exact shows_tag htag (by simp [h])

theorem shows_spanEnd : Shows table "</span>".toList [] :=
  shows_tag (show _ = '<' :: ("/span".toList ++ ['>']) from rfl) (by simp)

theorem Shows.inSpan {cssClass : List Char} (h : '>' ∉ cssClass) (hm : Shows table markup text) :
    Shows table (inSpan cssClass markup) text := by
  have hspan := ((shows_spanTag h).append hm).append shows_spanEnd
  rwa [List.append_nil, List.nil_append] at hspan

end GaussMarkup
