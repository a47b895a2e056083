import GaussMarkup.Proofs.Html.Reading
import Mathlib.Data.List.Basic

/-!
# Reading markup as elements

Markup of texts and spans as a reader sees it who minds the tags: it is cut into tags
and characters, with entities read, and then each span goes from its opening tag to the
closing tag that belongs to it. What is not properly nested, or has any other tag, is
refused.

`ReadsAs` is to elements what `Shows` is to text: markup reads as some elements if,
wherever it stands, these are added to what was read in front of it, and reading goes on
behind it at the same depth. So an element around it, or markup in front or behind,
changes nothing.
-/

namespace GaussMarkup

/-! ## Tags and characters -/

/-- What a reader meets in markup. -/
inductive MarkupPiece
  | tag (body : List Char)
  | char (c : Char)
  deriving DecidableEq, Repr

/-- Markup cut into pieces: each stretch from a `<` to the next `>` is a tag, and an
entity is the character for which it stands. -/
def cutMarkup : List Char → List MarkupPiece
  | [] => []
  | c :: s =>
    if c = '<' ∧ '>' ∈ s then
      .tag (s.takeWhile (· != '>')) :: cutMarkup (s.dropWhile (· != '>')).tail
    else
      match entities.find? fun e => e.1.isPrefixOf (c :: s) with
      | some e => .char e.2 :: cutMarkup (s.drop (e.1.length - 1))
      | none => .char c :: cutMarkup s
termination_by s => s.length
decreasing_by
  · have hdrop := (List.dropWhile_sublist (l := s) (· != '>')).length_le
    simp only [List.length_tail, List.length_cons]
    omega
  · simp only [List.length_drop, List.length_cons]
    omega
  · exact Nat.lt_succ_self _

theorem cutMarkup_tag {body : List Char} (hbody : '>' ∉ body) (s : List Char) :
    cutMarkup ('<' :: (body ++ '>' :: s)) = .tag body :: cutMarkup s := by
  obtain ⟨htake, hdrop⟩ := takeWhile_ne_of_not_mem hbody s
  rw [cutMarkup, if_pos ⟨rfl, by simp⟩, htake, hdrop]
  rfl

theorem cutMarkup_escapeChar (c : Char) (s : List Char) :
    cutMarkup (escapeChar c ++ s) = .char c :: cutMarkup s := by
  rcases escapeChar_cases c with h | ⟨heq, hamp, hlt, -⟩
  · obtain ⟨name, hname⟩ : ∃ name, escapeChar c = '&' :: name := by
      simp only [entities, List.mem_cons, List.not_mem_nil, or_false, Prod.mk.injEq] at h
      rcases h with ⟨h, -⟩ | ⟨h, -⟩ | ⟨h, -⟩ | ⟨h, -⟩ | ⟨h, -⟩ <;> exact ⟨_, h⟩
    have hfind := find?_entities h s
    simp only [hname, List.cons_append] at hfind ⊢
    rw [cutMarkup, if_neg (by simp), hfind]
    simp
  · have hfind : entities.find? (fun e => e.1.isPrefixOf (c :: s)) = none := by
      simp [entities, Ne.symm hamp]
    rw [heq, List.singleton_append, cutMarkup, if_neg fun h => hlt h.1, hfind]

/-! ## Tags of spans -/

/-- A tag of a span. -/
inductive SpanTag
  | opening (cssClass : Option (List Char))
  | closing
  deriving DecidableEq, Repr

/-- The value of an attribute in front of its closing quote, if nothing follows that. -/
def attributeValue? (s : List Char) : Option (List Char) :=
  if s.dropWhile (· != '"') = ['"'] then some (readEntities entities (s.takeWhile (· != '"')))
  else none

/-- The tag of a span that stands between two angle brackets. -/
def readTag? (body : List Char) : Option SpanTag :=
  if body = "span".toList then some (.opening none)
  else if body = "/span".toList then some .closing
  else
    ((body.dropPrefix? "span class=\"".toList).bind attributeValue?).map fun value =>
      .opening (some value)

theorem attributeValue?_escapeHtml (value : List Char) :
    attributeValue? (escapeHtml value ++ ['"']) = some value := by
  obtain ⟨htake, hdrop⟩ := takeWhile_ne_of_not_mem (quote_not_mem_escapeHtml value) []
  rw [attributeValue?, if_pos hdrop, htake, read_escapeHtml]

theorem readTag?_class (value : List Char) :
    readTag? ("span class=\"".toList ++ (escapeHtml value ++ ['"'])) =
      some (.opening (some value)) := by
  have hopen : "span class=\"".toList ++ (escapeHtml value ++ ['"']) ≠ "span".toList := by simp
  have hclose : "span class=\"".toList ++ (escapeHtml value ++ ['"']) ≠ "/span".toList := by simp
  have hprefix : ("span class=\"".toList ++ (escapeHtml value ++ ['"'])).dropPrefix?
      "span class=\"".toList = some (escapeHtml value ++ ['"']) :=
    List.dropPrefix?_eq_some_iff.mpr ⟨_, rfl, BEq.rfl⟩
  rw [readTag?, if_neg hopen, if_neg hclose, hprefix, Option.bind_some,
    attributeValue?_escapeHtml, Option.map_some]

/-! ## Elements -/

/-- A character, or a span around further elements. -/
inductive MarkupElement
  | char (c : Char)
  | span (cssClass : Option (List Char)) (children : List MarkupElement)
  deriving Repr

/-- Reads pieces as elements. The spans that are open stand innermost first in `outer`,
each as its class and the elements in front of it; `done` is what was read in the
innermost of them. -/
def nestPieces (outer : List (Option (List Char) × List MarkupElement)) (done : List MarkupElement) :
    List MarkupPiece → Option (List MarkupElement)
  | [] => if outer = [] then some done else none
  | .char c :: pieces => nestPieces outer (done ++ [.char c]) pieces
  | .tag body :: pieces =>
    match readTag? body, outer with
    | some (.opening cssClass), outer => nestPieces ((cssClass, done) :: outer) [] pieces
    | some .closing, (cssClass, before) :: outer =>
      nestPieces outer (before ++ [.span cssClass done]) pieces
    | _, _ => none

/-- The elements that markup consists of, if all of its tags belong to properly nested
spans. -/
def readElements (markup : List Char) : Option (List MarkupElement) :=
  nestPieces [] [] (cutMarkup markup)

/-! ## What markup reads as -/

/-- Reading markup adds elements where it stands, and changes nothing else. -/
def ReadsAs (markup : List Char) (elements : List MarkupElement) : Prop :=
  ∀ outer done rest, nestPieces outer done (cutMarkup (markup ++ rest)) =
    nestPieces outer (done ++ elements) (cutMarkup rest)

variable {markup markup' : List Char} {elements elements' : List MarkupElement}

theorem ReadsAs.readElements_eq (h : ReadsAs markup elements) :
    readElements markup = some elements := by
  have hend := h [] [] []
  simpa [readElements, cutMarkup, nestPieces] using hend

theorem readsAs_nil : ReadsAs [] [] := by
  intro outer done rest
  rw [List.nil_append, List.append_nil]

theorem ReadsAs.append (h : ReadsAs markup elements) (h' : ReadsAs markup' elements') :
    ReadsAs (markup ++ markup') (elements ++ elements') := by
  intro outer done rest
  rw [List.append_assoc, h, h', List.append_assoc]

theorem readsAs_escapeHtml (t : List Char) : ReadsAs (escapeHtml t) (t.map .char) := by
  induction t with
  | nil => exact readsAs_nil
  | cons c t ih =>
      have hchar : ReadsAs (escapeChar c) [.char c] := by
        intro outer done rest
        rw [cutMarkup_escapeChar, nestPieces]
      exact hchar.append ih

/-- Markup between the tags of a span reads as one element. -/
theorem ReadsAs.enclose {body : List Char} {cssClass : Option (List Char)} (hbody : '>' ∉ body)
    (htag : readTag? body = some (.opening cssClass)) (h : ReadsAs markup elements) :
    ReadsAs ('<' :: (body ++ ['>']) ++ markup ++ "</span>".toList) [.span cssClass elements] := by
  intro outer done rest
  have hopen : '<' :: (body ++ ['>']) ++ markup ++ "</span>".toList ++ rest =
      '<' :: (body ++ '>' :: (markup ++ ("</span>".toList ++ rest))) := by
    simp only [List.append_assoc, List.cons_append, List.nil_append]
  have hclose : "</span>".toList ++ rest = '<' :: ("/span".toList ++ '>' :: rest) := rfl
  have hend : readTag? "/span".toList = some .closing := rfl
  -- between the tags the span is the innermost one, and nothing was read in it yet
  rw [hopen, cutMarkup_tag hbody]
  simp only [nestPieces, htag]
  rw [h, hclose, cutMarkup_tag (by simp)]
  simp only [nestPieces, hend, List.nil_append]

end GaussMarkup
