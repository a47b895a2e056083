import GaussMarkup.Format.Registry
import GaussMarkup.Language.Registry
import GaussMarkup.Proofs.Html.Reading
import GaussMarkup.Proofs.Lexer.Run

/-!
# Highlighting keeps the text

Highlighted markup shows exactly the text that was highlighted, with the line
feed behind the block. Three things come together: lexemes are the whole text,
joining neighbours to runs keeps it, and neither a text nor a class can open or
close a tag.
-/

namespace GaussMarkup

theorem textOf_mergeRuns (ls : List Lexeme) : textOf (mergeRuns ls) = textOf ls := by
  induction ls with
  | nil => rfl
  | cons l ls ih =>
      rw [mergeRuns, textOf_cons, ← ih]
      cases mergeRuns ls with
      | nil => rfl
      | cons run runs =>
          by_cases h : l.kind = run.kind
          · simp [h]
          · simp [h]

theorem gt_not_mem_cssClass (kind : Kind) : '>' ∉ kind.cssClass.toList := by
  cases kind <;> simp [Kind.cssClass]

namespace HtmlStyle

variable {table : List Entity}

/-- A run shows its text, in a span or bare. -/
theorem shows_renderRun (htable : ReadsEscapes table) (style : HtmlStyle) (run : Lexeme) :
    Shows table (style.renderRun run) run.text := by
  have htext := shows_escapeHtml htable run.text
  unfold renderRun
  by_cases h : run.kind.cssClass.toList = []
  · simpa only [h, if_true] using htext
  · simp only [h, if_false]
    refine htext.inSpan ?_
    rw [List.mem_append, not_or]
    exact ⟨(not_mem_escapeHtml style.classStem).2, gt_not_mem_cssClass run.kind⟩

/-- The tags in front of the runs. -/
theorem shows_head (style : HtmlStyle) :
    Shows table ("<div class=\"".toList ++ escapeHtml style.blockClass ++
      "\"><pre><span></span>".toList) [] := by
  have hdiv : Shows table
      ('<' :: ("div class=\"".toList ++ escapeHtml style.blockClass ++ ['"'] ++ ['>'])) [] :=
    shows_tag rfl (by simp [(not_mem_escapeHtml style.blockClass).2])
  have hpre : Shows table "<pre>".toList [] :=
    shows_tag (show _ = '<' :: ("pre".toList ++ ['>']) from rfl) (by simp)
  have hspan : Shows table "<span>".toList [] :=
    shows_tag (show _ = '<' :: ("span".toList ++ ['>']) from rfl) (by simp)
  have hall := ((hdiv.append hpre).append hspan).append shows_spanEnd
  have hopen : "<div class=\"".toList = '<' :: "div class=\"".toList := rfl
  have htags : "\"><pre><span></span>".toList =
      ['"'] ++ ['>'] ++ "<pre>".toList ++ "<span>".toList ++ "</span>".toList := rfl
  rw [hopen, htags]
  simpa only [List.append_assoc, List.cons_append, List.nil_append] using hall

/-- The tags behind the runs, and the line feed at the end. -/
theorem shows_foot (htable : ReadsEscapes table) :
    Shows table "</pre></div>\n".toList ['\n'] := by
  have hpre : Shows table "</pre>".toList [] :=
    shows_tag (show _ = '<' :: ("/pre".toList ++ ['>']) from rfl) (by simp)
  have hdiv : Shows table "</div>".toList [] :=
    shows_tag (show _ = '<' :: ("/div".toList ++ ['>']) from rfl) (by simp)
  have hline : Shows table (escapeHtml ['\n']) ['\n'] := shows_escapeHtml htable ['\n']
  have htags : "</pre></div>\n".toList =
      "</pre>".toList ++ "</div>".toList ++ escapeHtml ['\n'] := rfl
  rw [htags]
  exact (hpre.append hdiv).append hline

theorem shows_render (htable : ReadsEscapes table) (style : HtmlStyle) (ls : List Lexeme) :
    Shows table (style.render ls) (textOf ls ++ ['\n']) := by
  have hruns : Shows table ((mergeRuns ls).flatMap style.renderRun) (textOf (mergeRuns ls)) :=
    shows_flatMap fun run _ => shows_renderRun htable style run
  rw [textOf_mergeRuns] at hruns
  exact (style.shows_head.append hruns).append (shows_foot htable)

/-- A reader of the markup that a language's tokens are turned into sees the
prepared text and a line feed. -/
def KeepsText (style : HtmlStyle) (language : Language) (source : List Char) : Prop :=
  ∃ html, (FormatterRegistry.withHtml style).format "html".toList (language.tokens source) =
      .ok html ∧
    readEntities entities (stripTags html) = language.prepare source ++ ['\n']

/-- It is enough that the lexemes of a language are the text that they were
made from. -/
theorem keepsText_of_textOf {style : HtmlStyle} {language : Language} {source : List Char}
    (h : textOf (language.lexemes (language.prepare source)) = language.prepare source) :
    style.KeepsText language source := by
  refine ⟨style.render (language.lexemes (language.prepare source)), ?_, ?_⟩
  · rw [← map_lexeme_locate 0 (language.lexemes (language.prepare source))]
    rfl
  · rw [(shows_render readsEscapes_entities style _).read_eq, h]

end HtmlStyle

/-- **Highlighting loses and adds no text.** Whatever the source, the way it is
prepared and the classes that the markup uses, and whether it is lexed as GAUSS
or as plain text: with its tags left out and its entities read, the markup is
the prepared source and one line feed. -/
theorem highlighting_keeps_text (options : SourceOptions) (style : HtmlStyle)
    (source : List Char) :
    style.KeepsText (.gauss options) source ∧ style.KeepsText .plainText source :=
  ⟨HtmlStyle.keepsText_of_textOf (textOf_lexemes _),
    HtmlStyle.keepsText_of_textOf (textOf_lexemeOf ..)⟩

end GaussMarkup
