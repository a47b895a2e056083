import GaussMarkup.Proofs.Text.Trim
import GaussMarkup.Source.Prepare

/-!
# Prepared texts

Preparing a text a second time changes nothing. What makes this so is that no later
stage brings back what an earlier one took away: expanding tabs puts no unwanted
character at an end of the text (`Trimmed.expandTabs`), and the line feed that closes
the last line is just what the next trimming takes off again (`Shaped.body_close`).
How the line ends of a text were written does not show in the result
(`unifyLineEnds_of_respelled`).
-/

namespace GaussMarkup

variable {c : Char} {s t : List Char}

/-! ## Line ends -/

theorem unifyLineEnds_cons (h : c ≠ '\r') : unifyLineEnds (c :: s) = c :: unifyLineEnds s := by
  rw [unifyLineEnds, if_neg h]
  rintro _ rfl
  exact absurd rfl h

theorem unifyLineEnds_both : unifyLineEnds ('\r' :: '\n' :: s) = '\n' :: unifyLineEnds s := by
  rw [unifyLineEnds]

theorem unifyLineEnds_alone (h : s.head? ≠ some '\n') :
    unifyLineEnds ('\r' :: s) = '\n' :: unifyLineEnds s := by
  rw [unifyLineEnds, if_pos rfl]
  rintro s - rfl
  exact h rfl

theorem not_mem_unifyLineEnds (s : List Char) : '\r' ∉ unifyLineEnds s := by
  fun_induction unifyLineEnds s with
  | case1 s ih => simpa using ih
  | case2 c s _ ih =>
      rw [List.mem_cons, not_or]
      refine ⟨?_, ih⟩
      split
      · decide
      · next h => exact Ne.symm h
  | case3 => simp

theorem unifyLineEnds_of_not_mem (h : '\r' ∉ s) : unifyLineEnds s = s := by
  induction s with
  | nil => rfl
  | cons c s ih =>
      rw [List.mem_cons, not_or] at h
      rw [unifyLineEnds_cons (Ne.symm h.1), ih h.2]

/-- The second text is the first with some of its line feeds written as a carriage
return and a line feed, or as a carriage return alone. The latter is not written in
front of a line feed that stays. -/
inductive Respelled : List Char → List Char → Prop
  | nil : Respelled [] []
  | char {c : Char} {s t : List Char} : c ≠ '\n' → Respelled s t → Respelled (c :: s) (c :: t)
  | kept {s t : List Char} : Respelled s t → Respelled ('\n' :: s) ('\n' :: t)
  | both {s t : List Char} : Respelled s t → Respelled ('\n' :: s) ('\r' :: '\n' :: t)
  | alone {s t : List Char} :
      t.head? ≠ some '\n' → Respelled s t → Respelled ('\n' :: s) ('\r' :: t)

theorem unifyLineEnds_of_respelled (h : Respelled s t) (hs : '\r' ∉ s) : unifyLineEnds t = s := by
  induction h with
  | nil => rfl
  | char _ _ ih =>
      rw [List.mem_cons, not_or] at hs
      rw [unifyLineEnds_cons (Ne.symm hs.1), ih hs.2]
  | kept _ ih => rw [unifyLineEnds_cons (by decide), ih (List.not_mem_of_not_mem_cons hs)]
  | both _ ih => rw [unifyLineEnds_both, ih (List.not_mem_of_not_mem_cons hs)]
  | alone hhead _ ih => rw [unifyLineEnds_alone hhead, ih (List.not_mem_of_not_mem_cons hs)]

/-! ## Tabs -/

/-- What stands where a character stood before tabs were expanded. -/
def spaceForTab (c : Char) : Char :=
  if c = '\t' then ' ' else c

/-- A tab becomes some spaces, at least one, and any other character stays. -/
theorem exists_expandTabsFrom_cons {size : Nat} (hsize : 0 < size) (column : Nat) (c : Char)
    (s : List Char) : ∃ n next, expandTabsFrom size column (c :: s) =
      List.replicate (n + 1) (spaceForTab c) ++ expandTabsFrom size next s := by
  by_cases htab : c = '\t'
  · have hwidth : 0 < size - column % size := Nat.sub_pos_of_lt (Nat.mod_lt column hsize)
    obtain ⟨n, hn⟩ := Nat.exists_eq_add_of_le' hwidth
    refine ⟨n, column + (size - column % size), ?_⟩
    rw [expandTabsFrom, if_pos htab, spaceForTab, if_pos htab, hn]
  · by_cases hfeed : c = '\n'
    · exact ⟨0, 0, by rw [expandTabsFrom, if_neg htab, if_pos hfeed, spaceForTab, if_neg htab]; rfl⟩
    · refine ⟨0, column + 1, ?_⟩
      rw [expandTabsFrom, if_neg htab, if_neg hfeed, spaceForTab, if_neg htab]
      rfl

section Tabs

variable {size : Nat} (hsize : 0 < size)
include hsize

theorem mem_expandTabsFrom {column : Nat} (h : c ∈ expandTabsFrom size column s) :
    c ≠ '\t' ∧ (c = ' ' ∨ c ∈ s) := by
  induction s generalizing column with
  | nil => cases h
  | cons d s ih =>
      obtain ⟨n, next, heq⟩ := exists_expandTabsFrom_cons hsize column d s
      rw [heq, List.mem_append] at h
      rcases h with h | h
      · obtain rfl := List.eq_of_mem_replicate h
        by_cases htab : d = '\t'
        · rw [spaceForTab, if_pos htab]
          exact ⟨by decide, Or.inl rfl⟩
        · rw [spaceForTab, if_neg htab]
          exact ⟨htab, Or.inr List.mem_cons_self⟩
      · obtain ⟨htab, hc⟩ := ih h
        exact ⟨htab, hc.imp_right (List.mem_cons_of_mem d)⟩

theorem head?_expandTabs (s : List Char) :
    (expandTabs size s).head? = s.head?.map spaceForTab := by
  cases s with
  | nil => rfl
  | cons c s =>
      obtain ⟨n, next, heq⟩ := exists_expandTabsFrom_cons hsize 0 c s
      rw [expandTabs, heq, List.replicate_succ]
      rfl

theorem getLast?_expandTabsFrom (column : Nat) (s : List Char) :
    (expandTabsFrom size column s).getLast? = s.getLast?.map spaceForTab := by
  induction s generalizing column with
  | nil => rfl
  | cons c s ih =>
      obtain ⟨n, next, heq⟩ := exists_expandTabsFrom_cons hsize column c s
      rw [heq, List.getLast?_append, ih, List.getLast?_replicate, List.getLast?_cons]
      cases s.getLast? <;> simp

end Tabs

theorem expandTabsFrom_of_not_mem (h : '\t' ∉ s) (size column : Nat) :
    expandTabsFrom size column s = s := by
  induction s generalizing column with
  | nil => rfl
  | cons c s ih =>
      rw [List.mem_cons, not_or] at h
      rw [expandTabsFrom, if_neg (Ne.symm h.1)]
      split <;> rw [ih h.2]

/-- Expanding tabs keeps a text trimmed, as a space is unwanted only where a tab is. -/
theorem Trimmed.expandTabs {p : Char → Bool} (hp : p ' ' = true → p '\t' = true) {size : Nat}
    (hsize : 0 < size) (h : Trimmed p s) : Trimmed p (expandTabs size s) := by
  have hstays : ∀ c, p c = false → p (spaceForTab c) = false := by
    intro c hc
    by_cases htab : c = '\t'
    · subst htab
      exact Bool.eq_false_iff.mpr fun hspace => Bool.eq_false_iff.mp hc (hp hspace)
    · rwa [spaceForTab, if_neg htab]
  constructor
  · intro c hc
    rw [head?_expandTabs hsize] at hc
    obtain ⟨d, hd, rfl⟩ := Option.map_eq_some_iff.mp hc
    exact hstays d (h.head d hd)
  · intro c hc
    rw [GaussMarkup.expandTabs, getLast?_expandTabsFrom hsize] at hc
    obtain ⟨d, hd, rfl⟩ := Option.map_eq_some_iff.mp hc
    exact hstays d (h.last d hd)

/-! ## The end of the last line -/

theorem getLast?_closeLastLine (s : List Char) : (closeLastLine s).getLast? = some '\n' := by
  unfold closeLastLine
  split
  · assumption
  · exact List.getLast?_concat

theorem closeLastLine_idem (s : List Char) : closeLastLine (closeLastLine s) = closeLastLine s := by
  rw [closeLastLine, if_pos (getLast?_closeLastLine s)]

theorem mem_closeLastLine (h : c ∈ closeLastLine s) : c ∈ s ∨ c = '\n' := by
  unfold closeLastLine at h
  split at h
  · exact Or.inl h
  · simpa using h

/-! ## The stages together -/

namespace SourceOptions

variable {o : SourceOptions}

/-- What the options take off the ends of a text. -/
def unwanted (o : SourceOptions) : Char → Bool :=
  if o.stripAll then isBlank else if o.stripNewlines then (· == '\n') else fun _ => false

theorem strip_eq (o : SourceOptions) (s : List Char) : o.strip s = trimWhere o.unwanted s := by
  unfold strip unwanted
  split
  · rfl
  · split
    · rfl
    · exact (trimWhere_of_trimmed ⟨fun _ _ => rfl, fun _ _ => rfl⟩).symm

/-- A space is unwanted only where a tab is. -/
theorem unwanted_tab (h : o.unwanted ' ' = true) : o.unwanted '\t' = true := by
  unfold unwanted at h ⊢
  split
  · decide
  · split
    · next hall hlines => simp [hall, hlines] at h
    · next hall hlines => simp [hall, hlines] at h

/-- Line feeds are unwanted unless nothing is. -/
theorem unwanted_lineFeed (o : SourceOptions) :
    o.unwanted '\n' = true ∨ o.unwanted = fun _ => false := by
  unfold unwanted
  split
  · exact Or.inl (by decide)
  · split
    · exact Or.inl (by decide)
    · exact Or.inr rfl

/-- A text as the options want it, but for the end of its last line. -/
def body (o : SourceOptions) (s : List Char) : List Char :=
  if 0 < o.tabSize then expandTabs o.tabSize (o.strip (unifyLineEnds s))
  else o.strip (unifyLineEnds s)

theorem prepare_eq (h : o ≠ {}) (s : List Char) :
    o.prepare s = if o.ensureNewline then closeLastLine (o.body s) else o.body s := by
  have hidentity : ¬o.isIdentity = true := by simpa [isIdentity] using h
  rw [prepare, if_neg hidentity]
  rfl

/-- What all stages but the last leave behind: line ends are line feeds, tabs are
expanded, and the ends are trimmed. -/
structure Shaped (o : SourceOptions) (s : List Char) : Prop where
  lineEnds : '\r' ∉ s
  tabs : 0 < o.tabSize → '\t' ∉ s
  trimmed : Trimmed o.unwanted s

theorem shaped_body (o : SourceOptions) (s : List Char) : o.Shaped (o.body s) := by
  have htrimmed : Trimmed o.unwanted (o.strip (unifyLineEnds s)) := by
    rw [strip_eq]
    exact trimmed_trimWhere ..
  have hreturn : '\r' ∉ o.strip (unifyLineEnds s) := by
    rw [strip_eq]
    exact fun h => not_mem_unifyLineEnds s (mem_of_mem_trimWhere h)
  unfold body
  split
  · next hsize =>
    refine ⟨fun h => ?_, fun _ h => ?_, htrimmed.expandTabs unwanted_tab hsize⟩
    · rcases (mem_expandTabsFrom hsize h).2 with hspace | hmem
      · cases hspace
      · exact hreturn hmem
    · exact (mem_expandTabsFrom hsize h).1 rfl
  · next hsize => exact ⟨hreturn, fun h => absurd h hsize, htrimmed⟩

/-- A text without carriage returns and tabs is trimmed only. -/
theorem body_of_not_mem (hreturn : '\r' ∉ s) (htabs : 0 < o.tabSize → '\t' ∉ s) :
    o.body s = o.strip s := by
  rw [body, unifyLineEnds_of_not_mem hreturn]
  split
  · next hsize =>
    refine expandTabsFrom_of_not_mem (fun hmem => htabs hsize ?_) _ _
    rw [strip_eq] at hmem
    exact mem_of_mem_trimWhere hmem
  · rfl

theorem Shaped.body_eq (h : o.Shaped s) : o.body s = s := by
  rw [body_of_not_mem h.lineEnds h.tabs, strip_eq, trimWhere_of_trimmed h.trimmed]

/-- Where the last line was closed, trimming takes off what closed it or nothing. -/
theorem Shaped.body_close (h : o.Shaped s) :
    o.body (closeLastLine s) = s ∨ o.body (closeLastLine s) = closeLastLine s := by
  have hreturn : '\r' ∉ closeLastLine s := fun hmem =>
    (mem_closeLastLine hmem).elim h.lineEnds (by decide)
  have htabs : 0 < o.tabSize → '\t' ∉ closeLastLine s := fun hsize hmem =>
    (mem_closeLastLine hmem).elim (h.tabs hsize) (by decide)
  rw [body_of_not_mem hreturn htabs, strip_eq]
  rcases o.unwanted_lineFeed with hfeed | hnone
  · refine Or.inl ?_
    unfold closeLastLine
    split
    · exact trimWhere_of_trimmed h.trimmed
    · exact (trimWhere_pad (w := []) (by simp) (by simpa using hfeed) s).trans
        (trimWhere_of_trimmed h.trimmed)
  · refine Or.inr (trimWhere_of_trimmed ?_)
    rw [hnone]
    exact ⟨fun _ _ => rfl, fun _ _ => rfl⟩

theorem prepare_prepare (o : SourceOptions) (s : List Char) :
    o.prepare (o.prepare s) = o.prepare s := by
  by_cases ho : o = {}
  · subst ho
    rfl
  have hshaped := o.shaped_body s
  rw [prepare_eq ho, prepare_eq ho s]
  cases o.ensureNewline with
  | false => exact hshaped.body_eq
  | true =>
      rw [if_pos rfl, if_pos rfl]
      rcases hshaped.body_close with hbody | hbody
      · rw [hbody]
      · rw [hbody, closeLastLine_idem]

/-- A prepared text is in normal form: how its line ends were written, where a tab
stood and whether its last line was closed does not show any more. -/
theorem normal_prepare (ho : o ≠ {}) (s : List Char) :
    '\r' ∉ o.prepare s ∧ (0 < o.tabSize → '\t' ∉ o.prepare s) ∧
      (o.ensureNewline = true → (o.prepare s).getLast? = some '\n') := by
  have hshaped := o.shaped_body s
  rw [prepare_eq ho]
  cases o.ensureNewline with
  | false => exact ⟨hshaped.lineEnds, hshaped.tabs, fun h => by cases h⟩
  | true =>
      refine ⟨fun h => ?_, fun hsize h => ?_, fun _ => getLast?_closeLastLine _⟩
      · exact (mem_closeLastLine h).elim hshaped.lineEnds (by decide)
      · exact (mem_closeLastLine h).elim (hshaped.tabs hsize) (by decide)

theorem prepare_respelled (ho : o ≠ {}) (h : Respelled s t) (hs : '\r' ∉ s) :
    o.prepare t = o.prepare s := by
  rw [prepare_eq ho, prepare_eq ho, body, body, unifyLineEnds_of_respelled h hs,
    unifyLineEnds_of_not_mem hs]

end SourceOptions

/-- **Prepared texts are in normal form.** Preparing a text twice is preparing it once.
If some option is set, the result holds no carriage return, it holds no tab if tabs
have a width, and it ends in a line feed if the last line is to be closed. And then it
is the same for every way to write the line ends of a text. -/
theorem prepared_in_normal_form (o : SourceOptions) :
    (∀ s, o.prepare (o.prepare s) = o.prepare s) ∧
      (o ≠ {} →
        (∀ s, '\r' ∉ o.prepare s ∧ (0 < o.tabSize → '\t' ∉ o.prepare s) ∧
          (o.ensureNewline = true → (o.prepare s).getLast? = some '\n')) ∧
        ∀ s t, '\r' ∉ s → Respelled s t → o.prepare t = o.prepare s) :=
  ⟨o.prepare_prepare, fun ho =>
    ⟨o.normal_prepare ho, fun _ _ hs h => o.prepare_respelled ho h hs⟩⟩

/-- Two line feeds in a row, the first written as a carriage return and the second as
both, and a tab behind them. -/
theorem prepared_in_normal_form_returns :
    ({ stripNewlines := true, ensureNewline := true, tabSize := 4 } : SourceOptions) ≠ {} ∧
      '\r' ∉ "a\n\n\tb\n".toList ∧
      Respelled "a\n\n\tb\n".toList "a\r\r\n\tb\r".toList ∧
      ({ stripNewlines := true, ensureNewline := true, tabSize := 4 } : SourceOptions).prepare
        "a\r\r\n\tb\r".toList = "a\n\n    b\n".toList := by
  have ho : ({ stripNewlines := true, ensureNewline := true, tabSize := 4 } : SourceOptions) ≠ {} :=
    by decide
  have hs : '\r' ∉ "a\n\n\tb\n".toList := by decide
  have hspelled : Respelled "a\n\n\tb\n".toList "a\r\r\n\tb\r".toList :=
    .char (by decide) <| .alone (by decide) <| .both <| .char (by decide) <| .char (by decide) <|
      .alone (by decide) .nil
  refine ⟨ho, hs, hspelled, ?_⟩
  rw [((prepared_in_normal_form _).2 ho).2 _ _ hs hspelled]
  decide

end GaussMarkup
