import GaussMarkup.Format.Registry
import GaussMarkup.Proofs.Html.Reading
import GaussMarkup.Proofs.Text.SelfDelimiting
import Mathlib.Data.List.Chain

/-!
# Highlighted markup tells the runs

Highlighted markup is made from the maximal runs of one kind, so it is the same for two
lists of tokens with the same runs; how a run is split does not show. It is also
different for different runs. A span says where it ends, and which kind it has, as no
two kinds share a class. Bare text does not say where it ends, but what follows it
always begins with a `<`, which escaped text never holds: another run of plain text
would have been joined to it. A run without text would leave no trace if it is bare, so
the tokens must have some.
-/

namespace GaussMarkup

/-! ## Maximal runs -/

/-- The maximal runs of one kind that a list of lexemes consists of: each takes all
lexemes up to the first one of another kind, and has their text. -/
inductive MaximalRuns : List Lexeme → List Lexeme → Prop
  | nil : MaximalRuns [] []
  | run {group rest runs : List Lexeme} {run : Lexeme} (hne : group ≠ [])
      (hkind : ∀ l ∈ group, l.kind = run.kind) (htext : textOf group = run.text)
      (hrest : ∀ l ∈ rest.head?, l.kind ≠ run.kind) (h : MaximalRuns rest runs) :
      MaximalRuns (group ++ rest) (run :: runs)

theorem mergeRuns_cons_of_ne {l : Lexeme} {ls : List Lexeme}
    (h : ∀ run ∈ (mergeRuns ls).head?, l.kind ≠ run.kind) :
    mergeRuns (l :: ls) = l :: mergeRuns ls := by
  rw [mergeRuns]
  cases hruns : mergeRuns ls with
  | nil => rfl
  | cons run runs =>
      rw [hruns] at h
      exact if_neg (h run rfl)

theorem mergeRuns_cons_of_eq {l run : Lexeme} {ls runs : List Lexeme}
    (hruns : mergeRuns ls = run :: runs) (h : l.kind = run.kind) :
    mergeRuns (l :: ls) = ⟨run.kind, l.text ++ run.text⟩ :: runs := by
  rw [mergeRuns, hruns, ← h]
  exact if_pos h

/-- A stretch of one kind in front of another kind is one run. -/
theorem mergeRuns_append {kind : Kind} {group rest : List Lexeme} (hne : group ≠ [])
    (hkind : ∀ l ∈ group, l.kind = kind) (hrest : ∀ run ∈ (mergeRuns rest).head?, run.kind ≠ kind) :
    mergeRuns (group ++ rest) = ⟨kind, textOf group⟩ :: mergeRuns rest := by
  induction group with
  | nil => exact absurd rfl hne
  | cons l group ih =>
      obtain ⟨rfl, hgroup⟩ := List.forall_mem_cons.mp hkind
      cases group with
      | nil =>
          rw [List.singleton_append, mergeRuns_cons_of_ne fun run hrun => (hrest run hrun).symm,
            textOf_cons, textOf_nil, List.append_nil]
      | cons m group =>
          have hruns := ih (List.cons_ne_nil m group) hgroup
          exact mergeRuns_cons_of_eq hruns rfl

namespace MaximalRuns

variable {ls runs : List Lexeme}

theorem head?_kind (h : MaximalRuns ls runs) :
    runs.head?.map (·.kind) = ls.head?.map (·.kind) := by
  cases h with
  | nil => rfl
  | run hne hkind =>
      obtain ⟨l, group, rfl⟩ := List.exists_cons_of_ne_nil hne
      simp [hkind l List.mem_cons_self]

/-- Neighbouring runs have different kinds. -/
theorem isChain (h : MaximalRuns ls runs) : runs.IsChain fun r r' => r.kind ≠ r'.kind := by
  induction h with
  | nil => exact .nil
  | @run group rest runs run hne hkind htext hrest h ih =>
      refine List.isChain_cons.mpr ⟨fun next hnext => ?_, ih⟩
      have hhead := h.head?_kind
      rw [Option.mem_def.mp hnext] at hhead
      obtain ⟨l, hl, hnextKind⟩ := Option.map_eq_some_iff.mp hhead.symm
      exact fun heq => hrest l hl (hnextKind.trans heq.symm)

/-- Runs of lexemes that have text have text. -/
theorem text_ne_nil (h : MaximalRuns ls runs) (hls : ∀ l ∈ ls, l.text ≠ []) :
    ∀ run ∈ runs, run.text ≠ [] := by
  induction h with
  | nil => exact hls
  | @run group rest runs run hne hkind htext hrest h ih =>
      rw [List.forall_mem_append] at hls
      refine List.forall_mem_cons.mpr ⟨?_, ih hls.2⟩
      obtain ⟨l, group, rfl⟩ := List.exists_cons_of_ne_nil hne
      have hl := hls.1 l List.mem_cons_self
      simp [← htext, hl]

/-- There are no other runs than those that joining neighbours makes. -/
theorem eq_mergeRuns (h : MaximalRuns ls runs) : runs = mergeRuns ls := by
  induction h with
  | nil => rfl
  | @run group rest runs run hne hkind htext hrest h ih =>
      have hhead : ∀ next ∈ (mergeRuns rest).head?, next.kind ≠ run.kind := by
        rw [← ih]
        exact fun next hnext heq => (List.isChain_cons.mp (h.run hne hkind htext hrest).isChain).1
          next hnext heq.symm
      rw [mergeRuns_append hne hkind hhead, ← ih, htext]

theorem of_mergeRuns (ls : List Lexeme) : MaximalRuns ls (mergeRuns ls) := by
  induction ls with
  | nil => exact .nil
  | cons l ls ih =>
      have htext : textOf [l] = l.text := List.append_nil l.text
      cases hruns : mergeRuns ls with
      | nil =>
          rw [hruns] at ih
          cases ih
          exact .run (List.cons_ne_nil l []) (by simp) htext (by simp) .nil
      | cons run runs =>
          rw [hruns] at ih
          have hhead := ih.head?_kind
          -- the lexeme belongs to the first run, or is one of its own in front of it
          by_cases hl : l.kind = run.kind
          · rw [mergeRuns_cons_of_eq hruns hl]
            cases ih with
            | @run group rest _ _ hne hkind hrun hrest h =>
                refine .run (List.cons_ne_nil l group) ?_ ?_ hrest h
                · exact List.forall_mem_cons.mpr ⟨hl, hkind⟩
                · rw [textOf_cons, hrun]
          · rw [mergeRuns_cons_of_ne (by simpa [hruns] using hl), hruns]
            refine .run (List.cons_ne_nil l []) (by simp) htext ?_ ih
            intro m hm heq
            rw [Option.mem_def.mp hm] at hhead
            exact hl (heq.symm.trans (Option.some.inj hhead).symm)

end MaximalRuns

/-! ## Runs in markup -/

theorem cssClass_injective : Function.Injective fun kind : Kind => kind.cssClass.toList := by
  have hfind : ∀ kind : Kind, Kind.all.find? (·.cssClass == kind.cssClass) = some kind := by
    intro kind
    cases kind <;> rfl
  intro k l h
  have hclass := hfind k
  rw [String.toList_injective h, hfind] at hclass
  exact (Option.some.inj hclass).symm

theorem quote_not_mem_cssClass (kind : Kind) : '"' ∉ kind.cssClass.toList := by
  cases kind <;> simp [Kind.cssClass]

theorem cssClass_eq_nil_iff (kind : Kind) : kind.cssClass.toList = [] ↔ kind = .text := by
  cases kind <;> simp [Kind.cssClass]

theorem selfDelimiting_escapeHtml : SelfDelimiting fun s => escapeHtml s ++ ['<'] :=
  selfDelimiting_of_stop (fun s => (not_mem_escapeHtml s).1) escapeHtml_injective

theorem inSpan_append (cssClass content s : List Char) :
    inSpan cssClass content ++ s =
      "<span class=\"".toList ++ (cssClass ++ ['"'] ++ '>' :: (content ++ ['<'] ++
        ("/span>".toList ++ s))) := by
  have hopen : "\">".toList = ['"', '>'] := rfl
  have hclose : "</span>".toList = ['<'] ++ "/span>".toList := rfl
  delta inSpan spanTag
  simp only [hopen, hclose, List.append_assoc, List.cons_append, List.nil_append]

namespace HtmlStyle

variable (style : HtmlStyle)

/-- A span tells its kind by its class, and ends behind its text. -/
theorem selfDelimiting_span :
    SelfDelimiting fun run : Lexeme =>
      inSpan (escapeHtml style.classStem ++ run.kind.cssClass.toList) (escapeHtml run.text) := by
  have hclass := selfDelimiting_of_stop quote_not_mem_cssClass cssClass_injective
  rintro ⟨kind, text⟩ ⟨kind', text'⟩ s t heq
  simp only [inSpan_append, List.append_assoc, List.append_cancel_left_eq] at heq
  rw [← List.append_assoc, ← List.append_assoc kind'.cssClass.toList] at heq
  obtain ⟨rfl, hcontent⟩ := hclass heq
  have htext := List.tail_eq_of_cons_eq hcontent
  rw [← List.append_assoc, ← List.append_assoc (escapeHtml text')] at htext
  obtain ⟨rfl, hend⟩ := selfDelimiting_escapeHtml htext
  exact ⟨rfl, List.append_cancel_left hend⟩

theorem renderRun_of_text {run : Lexeme} (h : run.kind = .text) :
    style.renderRun run = escapeHtml run.text :=
  if_pos ((cssClass_eq_nil_iff run.kind).mpr h)

theorem renderRun_of_ne {run : Lexeme} (h : run.kind ≠ .text) :
    style.renderRun run =
      inSpan (escapeHtml style.classStem ++ run.kind.cssClass.toList) (escapeHtml run.text) :=
  if_neg fun hclass => h ((cssClass_eq_nil_iff run.kind).mp hclass)

theorem exists_renderRun_of_text {run : Lexeme} (h : run.kind = .text) (hne : run.text ≠ []) :
    ∃ c u, style.renderRun run = c :: u ∧ c ≠ '<' := by
  have hcontent : escapeHtml run.text ≠ [] := fun hnil => hne (escapeHtml_injective hnil)
  obtain ⟨c, u, hcu⟩ := List.exists_cons_of_ne_nil hcontent
  refine ⟨c, u, (style.renderRun_of_text h).trans hcu, ?_⟩
  rintro rfl
  exact (not_mem_escapeHtml run.text).1 (hcu ▸ List.mem_cons_self)

theorem exists_renderRun_of_ne {run : Lexeme} (h : run.kind ≠ .text) :
    ∃ u, style.renderRun run = '<' :: 's' :: u := by
  rw [style.renderRun_of_ne h, ← List.append_nil (inSpan _ _), inSpan_append]
  exact ⟨_, rfl⟩

theorem renderRun_append_ne {run run' : Lexeme} (hkind : run.kind = .text) (hne : run.text ≠ [])
    (hkind' : run'.kind ≠ .text) (s t : List Char) :
    style.renderRun run ++ s ≠ style.renderRun run' ++ t := by
  obtain ⟨c, u, hrun, hc⟩ := style.exists_renderRun_of_text hkind hne
  obtain ⟨u', hrun'⟩ := style.exists_renderRun_of_ne hkind'
  rw [hrun, hrun']
  exact fun heq => hc (List.head_eq_of_cons_eq heq)

/-- A run can be told from the markup behind it, as far as a bare one has a tag behind
it. -/
theorem renderRun_append_inj {run run' : Lexeme} {s t : List Char} (hne : run.text ≠ [])
    (hne' : run'.text ≠ []) (hs : run.kind = .text → ∃ u, s = '<' :: u)
    (ht : run'.kind = .text → ∃ u, t = '<' :: u)
    (heq : style.renderRun run ++ s = style.renderRun run' ++ t) : run = run' ∧ s = t := by
  by_cases hkind : run.kind = .text
  · by_cases hkind' : run'.kind = .text
    · obtain ⟨s, rfl⟩ := hs hkind
      obtain ⟨t, rfl⟩ := ht hkind'
      rw [style.renderRun_of_text hkind, style.renderRun_of_text hkind'] at heq
      -- both are bare, so each ends at the first `<`
      obtain ⟨htext, rfl⟩ := append_cons_inj (not_mem_escapeHtml _).1 (not_mem_escapeHtml _).1 heq
      have hruns : run = ⟨run'.kind, run'.text⟩ := by
        rw [← escapeHtml_injective htext, hkind', ← hkind]
      exact ⟨hruns, rfl⟩
    · exact absurd heq (style.renderRun_append_ne hkind hne hkind' s t)
  · by_cases hkind' : run'.kind = .text
    · exact absurd heq.symm (style.renderRun_append_ne hkind' hne' hkind t s)
    · rw [style.renderRun_of_ne hkind, style.renderRun_of_ne hkind'] at heq
      exact style.selfDelimiting_span heq

/-- The end of the block begins with a tag that begins no run. -/
theorem renderRun_append_ne_foot {run : Lexeme} (hne : run.text ≠ []) (s : List Char) :
    style.renderRun run ++ s ≠ "</pre></div>\n".toList := by
  have hfoot : "</pre></div>\n".toList = '<' :: '/' :: "pre></div>\n".toList := rfl
  intro heq
  rw [hfoot] at heq
  by_cases hkind : run.kind = .text
  · obtain ⟨c, u, hrun, hc⟩ := style.exists_renderRun_of_text hkind hne
    rw [hrun] at heq
    exact hc (List.head_eq_of_cons_eq heq)
  · obtain ⟨u, hrun⟩ := style.exists_renderRun_of_ne hkind
    rw [hrun] at heq
    exact absurd (List.head_eq_of_cons_eq (List.tail_eq_of_cons_eq heq)) (by decide)

end HtmlStyle

/-- Runs as they can stand in markup. -/
structure ProperRuns (runs : List Lexeme) : Prop where
  text_ne_nil : ∀ run ∈ runs, run.text ≠ []
  isChain : runs.IsChain fun r r' => r.kind ≠ r'.kind

theorem MaximalRuns.proper {ls runs : List Lexeme} (h : MaximalRuns ls runs)
    (hls : ∀ l ∈ ls, l.text ≠ []) : ProperRuns runs :=
  ⟨h.text_ne_nil hls, h.isChain⟩

theorem ProperRuns.tail {run : Lexeme} {runs : List Lexeme} (h : ProperRuns (run :: runs)) :
    ProperRuns runs :=
  ⟨(List.forall_mem_cons.mp h.text_ne_nil).2, h.isChain.tail⟩

namespace HtmlStyle

variable (style : HtmlStyle)

theorem exists_tag_behind {run : Lexeme} {runs : List Lexeme} (h : ProperRuns (run :: runs))
    (hkind : run.kind = .text) :
    ∃ u, runs.flatMap style.renderRun ++ "</pre></div>\n".toList = '<' :: u := by
  cases runs with
  | nil => exact ⟨_, rfl⟩
  | cons next runs =>
      have hne : next.kind ≠ .text := by
        have hnext := (List.isChain_cons_cons.mp h.isChain).1
        rw [hkind] at hnext
        exact hnext.symm
      obtain ⟨u, hrun⟩ := style.exists_renderRun_of_ne hne
      rw [List.flatMap_cons, hrun]
      exact ⟨_, rfl⟩

theorem flatMap_renderRun_inj {runs runs' : List Lexeme} (h : ProperRuns runs)
    (h' : ProperRuns runs')
    (heq : runs.flatMap style.renderRun ++ "</pre></div>\n".toList =
      runs'.flatMap style.renderRun ++ "</pre></div>\n".toList) : runs = runs' := by
  induction runs generalizing runs' with
  | nil =>
      cases runs' with
      | nil => rfl
      | cons run' runs' =>
          rw [List.flatMap_cons, List.append_assoc] at heq
          exact absurd heq.symm
            (style.renderRun_append_ne_foot (h'.text_ne_nil run' List.mem_cons_self) _)
  | cons run runs ih =>
      have hne := h.text_ne_nil run List.mem_cons_self
      cases runs' with
      | nil =>
          rw [List.flatMap_cons, List.append_assoc] at heq
          exact absurd heq (style.renderRun_append_ne_foot hne _)
      | cons run' runs' =>
          have hne' := h'.text_ne_nil run' List.mem_cons_self
          rw [List.flatMap_cons, List.flatMap_cons, List.append_assoc, List.append_assoc] at heq
          obtain ⟨rfl, hrest⟩ := style.renderRun_append_inj hne hne' (style.exists_tag_behind h)
            (style.exists_tag_behind h') heq
          rw [ih h.tail h'.tail hrest]

theorem render_eq (ls : List Lexeme) :
    style.render ls =
      "<div class=\"".toList ++ (escapeHtml style.blockClass ++ ("\"><pre><span></span>".toList ++
        ((mergeRuns ls).flatMap style.renderRun ++ "</pre></div>\n".toList))) := by
  delta render
  simp only [List.append_assoc]

theorem render_eq_iff {ls ms : List Lexeme} (hls : ∀ l ∈ ls, l.text ≠ [])
    (hms : ∀ l ∈ ms, l.text ≠ []) :
    style.render ls = style.render ms ↔ ∃ runs, MaximalRuns ls runs ∧ MaximalRuns ms runs := by
  constructor
  · intro h
    have hruns : mergeRuns ls = mergeRuns ms := by
      refine style.flatMap_renderRun_inj ((MaximalRuns.of_mergeRuns ls).proper hls)
        ((MaximalRuns.of_mergeRuns ms).proper hms) ?_
      simpa only [render_eq, List.append_cancel_left_eq] using h
    exact ⟨mergeRuns ls, .of_mergeRuns ls, hruns ▸ .of_mergeRuns ms⟩
  · rintro ⟨runs, hl, hm⟩
    have hruns : mergeRuns ls = mergeRuns ms := hl.eq_mergeRuns.symm.trans hm.eq_mergeRuns
    rw [render_eq, render_eq, hruns]

end HtmlStyle

/-- **Highlighted markup tells the runs and nothing else.** For every style, two lists
of tokens that all have text are written as the same markup if and only if they have
the same maximal runs of one kind, with the same kinds and texts in the same order,
wherever the tokens stand. -/
theorem markup_tells_runs (style : HtmlStyle) (ts us : List Token)
    (hts : ∀ t ∈ ts, t.text ≠ []) (hus : ∀ t ∈ us, t.text ≠ []) :
    (Formatter.html style).format ts = (Formatter.html style).format us ↔
      ∃ runs, MaximalRuns (ts.map fun t => ⟨t.kind, t.text⟩) runs ∧
        MaximalRuns (us.map fun t => ⟨t.kind, t.text⟩) runs :=
  style.render_eq_iff (List.forall_mem_map.mpr hts) (List.forall_mem_map.mpr hus)

/-- A name that is split in two, between plain text and with a class of its own. -/
theorem markup_tells_runs_split :
    let style : HtmlStyle := ⟨"code".toList, "g-".toList⟩
    let ts : List Token := [⟨.text, [' '], 0⟩, ⟨.name, ['x'], 1⟩, ⟨.name, ['<', 'y'], 2⟩]
    let us : List Token := [⟨.text, [' '], 8⟩, ⟨.name, ['x', '<'], 9⟩, ⟨.name, ['y'], 11⟩]
    (∀ t ∈ ts, t.text ≠ []) ∧ (∀ t ∈ us, t.text ≠ []) ∧
      ((Formatter.html style).format ts = (Formatter.html style).format us ↔
        ∃ runs, MaximalRuns (ts.map fun t => ⟨t.kind, t.text⟩) runs ∧
          MaximalRuns (us.map fun t => ⟨t.kind, t.text⟩) runs) :=
  ⟨by simp, by simp, markup_tells_runs _ _ _ (by simp) (by simp)⟩

end GaussMarkup
