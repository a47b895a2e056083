import GaussMarkup.Format.Registry
import GaussMarkup.Proofs.Text.Escapes
import GaussMarkup.Proofs.Text.Lines

/-!
# The dumps tell the tokens

Nothing that a dump is made from can be lost in it: every part of a line or an object
is self-delimiting, and so is what is put together from such parts. A kind ends at the
tab behind its title or at its closing quote, a text at its closing quote, and a number
at the first character that is no digit. In the dump of lines the quotes leave no line
feed as it is, so the lines are those of the tokens.
-/

namespace GaussMarkup

/-! ## Kinds by their titles -/

theorem ofTitle?_title (kind : Kind) : Kind.ofTitle? kind.title = some kind := by
  cases kind <;> rfl

theorem title_injective : Function.Injective fun kind : Kind => kind.title.toList := by
  intro k l h
  have htitle := congrArg Kind.ofTitle? (String.toList_injective h)
  rw [ofTitle?_title, ofTitle?_title] at htitle
  exact Option.some.inj htitle

theorem not_mem_title (kind : Kind) : '\t' ∉ kind.title.toList ∧ '\n' ∉ kind.title.toList := by
  cases kind <;> simp [Kind.title]

/-! ## One line per token -/

theorem rawLine_eq (l : Lexeme) :
    rawLine l = "Token.".toList ++ (l.kind.title.toList ++ ['\t'] ++ quote l.text) ++ ['\n'] := by
  delta rawLine
  simp only [List.append_assoc, List.cons_append, List.nil_append]

theorem selfDelimiting_rawLine : SelfDelimiting rawLine := by
  have htitle := selfDelimiting_of_stop (fun kind => (not_mem_title kind).1) title_injective
  rintro ⟨kind, text⟩ ⟨kind', text'⟩ s t heq
  simp only [rawLine_eq, List.append_assoc, List.append_cancel_left_eq] at heq
  simp only [← List.append_assoc kind.title.toList, ← List.append_assoc kind'.title.toList] at heq
  obtain ⟨rfl, hquote⟩ := htitle heq
  obtain ⟨rfl, hend⟩ := selfDelimiting_quote hquote
  exact ⟨rfl, List.tail_eq_of_cons_eq hend⟩

theorem not_mem_quoteChar (c : Char) : '\n' ∉ quoteChar c := by
  by_cases hc : c = '\n'
  · rw [hc]
    decide
  · rcases escapesWith_quoteChar c with ⟨mark, hmark, hcode⟩ | ⟨-, hcode⟩ | ⟨hcode, -⟩
    · have hfeed : '\n' ∉ quoteMarks.map Prod.snd := by decide
      have hne : '\n' ≠ mark := fun h => hfeed (List.mem_map.mpr ⟨_, hmark, h.symm⟩)
      simp [hcode, hne]
    · have hdigits : '\n' ∉ hexDigits c.toNat := not_mem_toDigits (by decide) (by decide) _
      simp [hcode, hdigits]
    · simp [hcode, Ne.symm hc]

/-- The only line feed of a line ends it. -/
theorem exists_rawLine_eq (l : Lexeme) : ∃ body, '\n' ∉ body ∧ rawLine l = body ++ ['\n'] := by
  have hquote : '\n' ∉ quote l.text := by
    simp [quote, not_mem_quoteChar]
  exact ⟨_, by simp [(not_mem_title l.kind).2, hquote], rawLine_eq l⟩

theorem lines_rawDump (ls : List Lexeme) : lines (rawDump ls) = ls.map rawLine := by
  induction ls with
  | nil => rfl
  | cons l ls ih =>
      obtain ⟨body, hbody, hline⟩ := exists_rawLine_eq l
      have hdump : rawDump (l :: ls) = body ++ '\n' :: rawDump ls := by
        simp [rawDump, hline]
      rw [hdump, lines_line hbody, ih, List.map_cons, hline]

theorem count_rawDump (ls : List Lexeme) : (rawDump ls).count '\n' = ls.length := by
  induction ls with
  | nil => rfl
  | cons l ls ih =>
      obtain ⟨body, hbody, hline⟩ := exists_rawLine_eq l
      rw [rawDump, List.flatMap_cons, List.count_append, ← rawDump, ih, hline,
        List.count_append, List.count_eq_zero_of_not_mem hbody, List.length_cons]
      simp [Nat.add_comm]

/-! ## An array of objects -/

/-- The characters with a short escape in JSON, each with its mark. -/
def jsonMarks : List (Char × Char) :=
  [('"', '"'), ('\\', '\\'), ('\x08', 'b'), ('\x0c', 'f'), ('\n', 'n'), ('\r', 'r'), ('\t', 't')]

/-- A number in four digits, if it has no more than two. -/
def jsonPoint (n : Nat) : List Char :=
  '0' :: '0' :: (List.replicate (2 - (hexDigits n).length) '0' ++ hexDigits n)

theorem escapesWith_jsonChar :
    EscapesWith jsonMarks (fun c => c.toNat < 0x20) (fun c => jsonPoint c.toNat) jsonChar := by
  intro c
  have htable : ∀ e ∈ jsonMarks, jsonChar e.1 = ['\\', e.2] := by simp [jsonMarks, jsonChar]
  by_cases hmark : c ∈ jsonMarks.map Prod.fst
  · obtain ⟨⟨c, mark⟩, he, rfl⟩ := List.mem_map.mp hmark
    exact .inl ⟨mark, he, htable _ he⟩
  · simp only [jsonMarks, List.map_cons, List.map_nil, List.mem_cons, List.not_mem_nil,
      or_false, not_or] at hmark
    obtain ⟨hq, hs, hb, hf, hn, hr, ht⟩ := hmark
    simp only [jsonChar, hq, hs, hb, hf, hn, hr, ht, if_false]
    by_cases hcode : c.toNat < 0x20
    · exact .inr (.inl ⟨hcode, by rw [if_pos hcode]; rfl⟩)
    · exact .inr (.inr ⟨by rw [if_neg hcode], hs, hq⟩)

theorem length_jsonPoint : ∀ n < 0x20, (jsonPoint n).length = 4 := by
  decide

/-- The number that digits in base 16 stand for. -/
def hexValue (s : List Char) : Nat :=
  s.foldl (fun n c => 16 * n + if c.isDigit then c.toNat - '0'.toNat else c.toNat - 'a'.toNat + 10)
    0

theorem hexValue_jsonPoint : ∀ n < 0x20, hexValue (jsonPoint n) = n := by
  decide

theorem selfDelimiting_jsonPoint :
    SelfDelimiting fun c : {c : Char // c.toNat < 0x20} => jsonPoint c.val.toNat := by
  refine selfDelimiting_of_length (fun c => length_jsonPoint _ c.property) ?_
  intro c d h
  have hvalue := congrArg hexValue h
  simp only [hexValue_jsonPoint _ c.property, hexValue_jsonPoint _ d.property] at hvalue
  exact Subtype.ext (toNat_injective hvalue)

theorem selfDelimiting_jsonString : SelfDelimiting jsonString :=
  escapesWith_jsonChar.selfDelimiting_quoted <|
    escapesWith_jsonChar.selfDelimiting (by decide) (by decide) selfDelimiting_jsonPoint

theorem selfDelimiting_jsonObject : SelfDelimiting jsonObject := by
  have hkind := selfDelimiting_jsonString.comp title_injective
  have hnumber : ∀ {stop : Char}, (∀ d < 10, stop ≠ Nat.digitChar d) →
      SelfDelimiting fun n => jsonNat n ++ [stop] := fun hstop =>
    selfDelimiting_of_stop (not_mem_toDigits (by decide) hstop)
      (toDigits_injective (by decide) (by decide))
  have hcomma : ",\n      \"end\": ".toList = [','] ++ "\n      \"end\": ".toList := rfl
  have hfeed : "\n    \x7d\n  \x7d".toList = ['\n'] ++ "    \x7d\n  \x7d".toList := rfl
  rintro ⟨kind, text, start, stop⟩ ⟨kind', text', start', stop'⟩ s t heq
  -- the values are read from the front, each up to the character that stands behind it
  delta jsonObject at heq
  simp only [hcomma, hfeed, List.append_assoc, List.append_cancel_left_eq] at heq
  obtain ⟨rfl, htext⟩ := hkind heq
  obtain ⟨rfl, hspan⟩ := selfDelimiting_jsonString (List.append_cancel_left htext)
  have hstart := List.append_cancel_left hspan
  rw [← List.append_assoc, ← List.append_assoc (jsonNat start')] at hstart
  obtain ⟨rfl, hbehind⟩ := hnumber (by decide) hstart
  have hstop := List.append_cancel_left hbehind
  rw [← List.append_assoc, ← List.append_assoc (jsonNat stop')] at hstop
  obtain ⟨rfl, hend⟩ := hnumber (by decide) hstop
  exact ⟨rfl, List.append_cancel_left hend⟩

theorem jsonDump_cons (e : JsonEntry) (es : List JsonEntry) :
    jsonDump (e :: es) = '[' :: '\n' ::
      (List.intercalate ",\n".toList ((e :: es).map jsonObject) ++ "\n]".toList) := by
  rw [jsonDump, if_neg (List.cons_ne_nil e es)]
  rfl

theorem jsonDump_injective : Function.Injective jsonDump := by
  have hempty : ∀ e es, jsonDump (e :: es) ≠ "[]".toList := by
    intro e es h
    rw [jsonDump_cons] at h
    simp at h
  intro es fs h
  cases es with
  | nil =>
      cases fs with
      | nil => rfl
      | cons f fs => exact absurd h.symm (hempty f fs)
  | cons e es =>
      cases fs with
      | nil => exact absurd h (hempty e es)
      | cons f fs =>
          rw [jsonDump_cons, jsonDump_cons, List.cons.injEq, List.cons.injEq] at h
          exact selfDelimiting_jsonObject.intercalate_inj (by decide) h.2.2

/-! ## Tokens in the dumps -/

/-- What an injective reading of the images tells, the images tell. -/
theorem map_comp_inj {α β γ : Type} {f : α → β} {g : β → γ} (hg : Function.Injective g)
    {xs ys : List α} : xs.map (g ∘ f) = ys.map (g ∘ f) ↔ xs.map f = ys.map f := by
  rw [← List.map_map, ← List.map_map, (List.map_injective_iff.mpr hg).eq_iff]

namespace Formatter

variable (ts us : List Token)

theorem raw_format_eq_iff :
    raw.format ts = raw.format us ↔
      ts.map (fun t => (t.kind, t.text)) = us.map fun t => (t.kind, t.text) := by
  have hline : ∀ l : Lexeme, rawLine l ≠ [] := by
    intro l hnil
    obtain ⟨body, -, heq⟩ := exists_rawLine_eq l
    simp [hnil] at heq
  have hpair : Function.Injective fun l : Lexeme => (l.kind, l.text) := by
    rintro ⟨kind, text⟩ ⟨kind', text'⟩ h
    obtain ⟨rfl, rfl⟩ := Prod.mk.inj h
    rfl
  show rawDump (ts.map Token.lexeme) = rawDump (us.map Token.lexeme) ↔ _
  exact (selfDelimiting_rawLine.flatMap_injective hline).eq_iff.trans (map_comp_inj hpair).symm

theorem json_format_eq_iff :
    json.format ts = json.format us ↔
      ts.map (fun t => (t.kind, t.text, t.start, t.stop)) =
        us.map fun t => (t.kind, t.text, t.start, t.stop) := by
  have htuple : Function.Injective fun e : JsonEntry => (e.kind, e.text, e.start, e.stop) := by
    rintro ⟨kind, text, start, stop⟩ ⟨kind', text', start', stop'⟩ h
    simp only [Prod.mk.injEq] at h
    obtain ⟨rfl, rfl, rfl, rfl⟩ := h
    rfl
  show jsonDump (ts.map Token.jsonEntry) = jsonDump (us.map Token.jsonEntry) ↔ _
  exact jsonDump_injective.eq_iff.trans (map_comp_inj htuple).symm

theorem lines_raw_format : lines (raw.format ts) = ts.map fun t => rawLine t.lexeme := by
  show lines (rawDump (ts.map Token.lexeme)) = _
  rw [lines_rawDump, List.map_map]
  rfl

theorem count_raw_format : (raw.format ts).count '\n' = ts.length := by
  show (rawDump (ts.map Token.lexeme)).count '\n' = _
  rw [count_rawDump, List.length_map]

end Formatter

/-- **The dumps lose nothing.** Two lists of tokens have the same lines if and only if
their kinds and texts are the same, and they have the same array if and only if the
places are the same as well; the array also tells places that do not fit the texts.
Whatever characters the texts hold, each token has one line, and the line feed that ends
the line is its only one. -/
theorem dumps_tell_tokens :
    (∀ ts us : List Token, Formatter.raw.format ts = Formatter.raw.format us ↔
        ts.map (fun t => (t.kind, t.text)) = us.map fun t => (t.kind, t.text)) ∧
      (∀ ts us : List Token, Formatter.json.format ts = Formatter.json.format us ↔
        ts.map (fun t => (t.kind, t.text, t.start, t.stop)) =
          us.map fun t => (t.kind, t.text, t.start, t.stop)) ∧
      (∀ es fs : List JsonEntry, jsonDump es = jsonDump fs ↔ es = fs) ∧
      (∀ t : Token, ∃ body, '\n' ∉ body ∧ rawLine t.lexeme = body ++ ['\n']) ∧
      ∀ ts : List Token,
        lines (Formatter.raw.format ts) = (ts.map fun t => rawLine t.lexeme) ∧
          (Formatter.raw.format ts).count '\n' = ts.length :=
  ⟨Formatter.raw_format_eq_iff, Formatter.json_format_eq_iff,
    fun _ _ => jsonDump_injective.eq_iff, fun t => exists_rawLine_eq t.lexeme,
    fun ts => ⟨Formatter.lines_raw_format ts, Formatter.count_raw_format ts⟩⟩

end GaussMarkup
