import GaussMarkup.Proofs.Html.Elements
import GaussMarkup.Role.Inline

/-!
# Inline nodes as markup

The markup of an inline node reads back as the node: each span is an element with its
classes and its children, and the texts are the characters in between. Without the tags
it is the text of the node. Both hold for every text and every name of a class, as
neither can open, close or lengthen a tag.
-/

namespace GaussMarkup

/-- What the class of a span says, if it has one. -/
def classAttribute? (classes : List (List Char)) : Option (List Char) :=
  if classes = [] then none else some (List.intercalate [' '] classes)

theorem ReadsAs.openingTag {markup : List Char} {elements : List MarkupElement}
    (h : ReadsAs markup elements) (classes : List (List Char)) :
    ReadsAs (openingTag classes ++ markup ++ "</span>".toList)
      [.span (classAttribute? classes) elements] := by
  unfold GaussMarkup.openingTag classAttribute?
  by_cases hclasses : classes = []
  · rw [if_pos hclasses, if_pos hclasses]
    have hbody : '>' ∉ "span".toList := by decide
    exact h.enclose hbody rfl
  · rw [if_neg hclasses, if_neg hclasses]
    have hbody : '>' ∉ "span class=\"".toList ++
        (escapeHtml (List.intercalate [' '] classes) ++ ['"']) := by
      simp [(not_mem_escapeHtml _).2]
    have hspan := h.enclose hbody (readTag?_class _)
    have htag : spanTag (escapeHtml (List.intercalate [' '] classes)) =
        '<' :: ("span class=\"".toList ++
          (escapeHtml (List.intercalate [' '] classes) ++ ['"']) ++ ['>']) := by
      rw [List.append_assoc _ _ ['>'], List.append_assoc _ ['"'] ['>'], ← List.cons_append]
      rfl
    rwa [htag]

theorem shows_openingTag {table : List Entity} (classes : List (List Char)) :
    Shows table (openingTag classes) [] := by
  unfold openingTag
  by_cases hclasses : classes = []
  · rw [if_pos hclasses]
    exact shows_tag (show _ = '<' :: ("span".toList ++ ['>']) from rfl) (by decide)
  · rw [if_neg hclasses]
    exact shows_spanTag (not_mem_escapeHtml _).2

namespace Inline

mutual

/-- The elements that a node stands for. -/
def elements : Inline → List MarkupElement
  | .text s => s.map .char
  | .span _ classes children => [.span (classAttribute? classes) (allElements children)]

/-- The elements that nodes stand for, one after the other. -/
def allElements : List Inline → List MarkupElement
  | [] => []
  | node :: nodes => elements node ++ allElements nodes

end

mutual

theorem readsAs_render : ∀ node : Inline, ReadsAs (render node) (elements node)
  | .text s => readsAs_escapeHtml s
  | .span _ classes children => (readsAs_renderAll children).openingTag classes

theorem readsAs_renderAll : ∀ nodes : List Inline, ReadsAs (renderAll nodes) (allElements nodes)
  | [] => readsAs_nil
  | node :: nodes => (readsAs_render node).append (readsAs_renderAll nodes)

end

variable {table : List Entity}

mutual

theorem shows_render (htable : ReadsEscapes table) :
    ∀ node : Inline, Shows table (render node) (plainText node)
  | .text s => shows_escapeHtml htable s
  | .span _ classes children => by
      have hspan := ((shows_openingTag classes).append (shows_renderAll htable children)).append
        shows_spanEnd
      rwa [List.append_nil, List.nil_append] at hspan

theorem shows_renderAll (htable : ReadsEscapes table) :
    ∀ nodes : List Inline, Shows table (renderAll nodes) (plainTexts nodes)
  | [] => shows_nil
  | node :: nodes => (shows_render htable node).append (shows_renderAll htable nodes)

end

end Inline

/-- **The markup of an inline node is the node.** Whatever its texts and the names of
its classes are: all tags of the markup belong to properly nested spans, which read back
as the tree, with the classes of each span and the characters of each text where they
stand in it; and with the tags left out and the entities read, what remains is the text
of the node and nothing else. -/
theorem inline_markup_reads_back (node : Inline) :
    readElements node.render = some node.elements ∧
      readEntities entities (stripTags node.render) = node.plainText :=
  ⟨node.readsAs_render.readElements_eq, (node.shows_render readsEscapes_entities).read_eq⟩

end GaussMarkup
