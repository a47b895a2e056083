import GaussMarkup.Proofs.Lexer.Coverage
import GaussMarkup.Proofs.Lexer.RootRules
import GaussMarkup.Proofs.Text.Prefixes

/-!
# Where a comment ends

A comment ends at the first place that can end it: at a line feed that no
backslash precedes, or at the mark that belongs to the mark it begins with. So
its text is the shortest prefix of the text in front of the cursor that ends so
(`Shortest`). The scanners of the comment rules find that prefix.

At the start of a line a comment may also be taken as part of the lead of a
directive, and a lead may go on behind the first place that ends its comment. But
leads are lexed again on their own. A lead is a shorter text that begins with the
same comment, so by induction on the size of the text the comment that comes out
is the same (`exists_lexemes_of_commentAt`).
-/

namespace GaussMarkup

/-! ## How comments end -/

/-- A text ends in a line feed that no backslash precedes. -/
def EndsBareLine (p : List Char) : Prop :=
  ∃ q, p = q ++ ['\n'] ∧ q.getLast? ≠ some '\\'

/-- A text begins with one mark, and ends behind that in one of some marks. -/
def Encloses (opener : List Char) (closers : List (List Char)) (p : List Char) : Prop :=
  ∃ body, ∃ closer ∈ closers, p = opener ++ body ++ closer

/-- The marks that a block comment begins with. -/
def blockOpeners : List (List Char) :=
  [['/', '*'], ['/', '\\', '\n', '*']]

/-- The marks that a block comment ends with. -/
def blockClosers : List (List Char) :=
  [['*', '/'], ['*', '\\', '\n', '/']]

theorem mem_blockOpeners {opener : List Char} :
    opener ∈ blockOpeners ↔ opener = ['/', '*'] ∨ opener = ['/', '\\', '\n', '*'] := by
  simp [blockOpeners]

theorem mem_blockClosers {closer : List Char} :
    closer ∈ blockClosers ↔ closer = ['*', '/'] ∨ closer = ['*', '\\', '\n', '/'] := by
  simp [blockClosers]

/-! ## Line comments -/

theorem endsBareLine_iff {p : List Char} :
    EndsBareLine p ↔ p.getLast? = some '\n' ∧ p.dropLast.getLast? ≠ some '\\' := by
  constructor
  · rintro ⟨q, rfl, hlast⟩
    exact ⟨List.getLast?_concat .., by rwa [List.dropLast_concat]⟩
  · rintro ⟨hfeed, hlast⟩
    exact ⟨p.dropLast, (List.dropLast_append_getLast? '\n' hfeed).symm, hlast⟩

theorem endsBareLine_cons {c d e : Char} {q : List Char} :
    EndsBareLine (c :: d :: e :: q) ↔ EndsBareLine (d :: e :: q) := by
  simp [endsBareLine_iff]

theorem shortest_cutBareLine (last : Char) (s : List Char) :
    ShortestOrAll (fun q => q ≠ [] ∧ EndsBareLine (last :: q)) s (cutBareLine last s).1 := by
  induction s generalizing last with
  | nil =>
      refine Or.inr ⟨rfl, ?_⟩
      rintro q hq ⟨hne, -⟩
      exact hne (List.prefix_nil.mp hq)
  | cons c s ih =>
      by_cases hend : c = '\n' ∧ last ≠ '\\'
      · obtain ⟨rfl, hlast⟩ := hend
        rw [cutBareLine, if_pos ⟨rfl, hlast⟩]
        refine Or.inl ⟨⟨s, rfl⟩, ⟨by simp, [last], rfl, by simpa using hlast⟩, ?_⟩
        rintro q - ⟨hne, -⟩
        exact List.length_pos_iff.mpr hne
      · -- The character in front matters for the first line feed only.
        have hgo : ∀ q, (c :: q ≠ [] ∧ EndsBareLine (last :: c :: q)) ↔
            (q ≠ [] ∧ EndsBareLine (c :: q)) := by
          intro q
          cases q with
          | nil => simpa [endsBareLine_iff] using hend
          | cons d q => simp [endsBareLine_cons]
        have hlong : ∀ q, q <+: [c] ++ s → (q ≠ [] ∧ EndsBareLine (last :: q)) → [c] <+: q :=
          fun q hq hends => singleton_prefix_of_ne_nil hq hends.1
        rw [cutBareLine, if_neg hend]
        rcases ih c with hshort | ⟨hall, hlacks⟩
        · exact Or.inl (hshort.append (a := [c]) hlong fun q _ => hgo q)
        · refine Or.inr ⟨congrArg (c :: ·) hall, ?_⟩
          exact hlacks.append (a := [c]) hlong fun q _ => hgo q

theorem cutLineComment?_eq_some {s : List Char} (h : ['/', '/'] <+: s) :
    ∃ x, cutLineComment? s = some x ∧ x.1 ≠ [] ∧ ShortestOrAll EndsBareLine s x.1 := by
  obtain ⟨t, rfl⟩ := h
  refine ⟨_, rfl, by simp, ?_⟩
  have hgo : ∀ q, EndsBareLine (['/', '/'] ++ q) ↔ q ≠ [] ∧ EndsBareLine ('/' :: q) := by
    intro q
    cases q with
    | nil => simp [endsBareLine_iff]
    | cons c q => simp [endsBareLine_cons]
  have hlong : ∀ q, q <+: ['/', '/'] ++ t → EndsBareLine q → ['/', '/'] <+: q := by
    intro q hq hends
    rcases List.prefix_or_prefix_of_prefix hq (List.prefix_append ['/', '/'] t) with hle | hge
    · -- Neither slash is a line feed.
      have hfeed := List.mem_of_getLast? (endsBareLine_iff.mp hends).1
      exact absurd (hle.subset hfeed) (by decide)
    · exact hge
  rcases shortest_cutBareLine '/' t with hshort | ⟨hall, hlacks⟩
  · exact Or.inl (hshort.append hlong fun q _ => hgo q)
  · refine Or.inr ⟨?_, hlacks.append hlong fun q _ => hgo q⟩
    show '/' :: '/' :: (cutBareLine '/' t).1 = '/' :: '/' :: t
    rw [hall]

/-! ## Comments between marks -/

/-- A scanner takes one of some marks. All of them end in the same sign, and have
it at their end only. -/
structure TakesMarks (stop : List Char → Option Cut) (closers : List (List Char)) : Prop where
  eq_some_iff : ∀ {s : List Char} {x : Cut}, stop s = some x ↔ x.1 ∈ closers ∧ s = x.1 ++ x.2
  sign : ∃ d, ∀ closer ∈ closers, ∃ init, closer = init ++ [d] ∧ d ∉ init

theorem takesMarks_blockEnd : TakesMarks cutBlockEnd? blockClosers where
  eq_some_iff {s x} := by
    obtain ⟨taken, rest⟩ := x
    constructor
    · intro h
      unfold cutBlockEnd? at h
      split at h
      · obtain ⟨rfl, rfl⟩ := Prod.mk.inj (Option.some.inj h)
        exact ⟨mem_blockClosers.mpr (Or.inl rfl), rfl⟩
      · obtain ⟨rfl, rfl⟩ := Prod.mk.inj (Option.some.inj h)
        exact ⟨mem_blockClosers.mpr (Or.inr rfl), rfl⟩
      · cases h
    · rintro ⟨hmem, rfl⟩
      rcases mem_blockClosers.mp hmem with rfl | rfl <;> rfl
  sign := by
    refine ⟨'/', fun closer hcloser => ?_⟩
    rcases mem_blockClosers.mp hcloser with rfl | rfl
    · exact ⟨['*'], rfl, by decide⟩
    · exact ⟨['*', '\\', '\n'], rfl, by decide⟩

theorem takesMarks_mark {init : List Char} {d : Char} (hd : d ∉ init) :
    TakesMarks (cutMark? (init ++ [d])) [init ++ [d]] where
  eq_some_iff {s x} := by
    rw [List.mem_singleton]
    constructor
    · intro h
      obtain ⟨htaken, heq⟩ := cutMark?_eq_some.mp h
      exact ⟨htaken, by rw [htaken, heq]⟩
    · rintro ⟨htaken, heq⟩
      rw [htaken] at heq
      exact cutMark?_eq_some.mpr ⟨htaken, heq⟩
  sign := ⟨d, List.forall_mem_singleton.mpr ⟨init, rfl, hd⟩⟩

theorem takesMarks_sign (d : Char) : TakesMarks (cutMark? [d]) [[d]] :=
  @takesMarks_mark [] d List.not_mem_nil

theorem takesMarks_starSlash : TakesMarks (cutMark? ['*', '/']) [['*', '/']] :=
  @takesMarks_mark ['*'] '/' (by decide)

section Marks

variable {stop : List Char → Option Cut} {opener : List Char} {closers : List (List Char)}

theorem encloses_append {q : List Char} :
    Encloses opener closers (opener ++ q) ↔ Encloses [] closers q := by
  constructor
  · rintro ⟨body, closer, hcloser, heq⟩
    rw [List.append_assoc] at heq
    exact ⟨body, closer, hcloser, List.append_cancel_left heq⟩
  · rintro ⟨body, closer, hcloser, rfl⟩
    exact ⟨body, closer, hcloser, by simp⟩

theorem Encloses.opens {p : List Char} (h : Encloses opener closers p) : opener <+: p := by
  obtain ⟨body, closer, -, rfl⟩ := h
  exact ⟨body ++ closer, by simp⟩

namespace TakesMarks

theorem ne_nil (h : TakesMarks stop closers) {p : List Char} (hp : Encloses [] closers p) :
    p ≠ [] := by
  obtain ⟨d, hsign⟩ := h.sign
  obtain ⟨body, closer, hcloser, rfl⟩ := hp
  obtain ⟨init, rfl, -⟩ := hsign closer hcloser
  simp

theorem length_le (h : TakesMarks stop closers) {closer q s : List Char}
    (hcloser : closer ∈ closers) (hs : closer <+: s) (hq : q <+: s)
    (hends : Encloses [] closers q) : closer.length ≤ q.length := by
  obtain ⟨d, hsign⟩ := h.sign
  obtain ⟨init, rfl, hinit⟩ := hsign closer hcloser
  obtain ⟨body, other, hother, rfl⟩ := hends
  obtain ⟨front, rfl, -⟩ := hsign other hother
  refine Nat.le_of_not_lt fun hlt => ?_
  -- The other mark would end within `init`, where its last sign does not occur.
  have hle : ([] ++ body ++ (front ++ [d])).length ≤ init.length := by
    simp only [List.length_append, List.length_singleton] at hlt ⊢
    omega
  have hfront : [] ++ body ++ (front ++ [d]) <+: init :=
    List.prefix_of_prefix_length_le hq ((List.prefix_append init [d]).trans hs) hle
  exact hinit (hfront.subset (by simp))

/-- Where no mark begins, none ends one character further on. -/
theorem encloses_cons (h : TakesMarks stop closers) {c : Char} {s q : List Char}
    (hstop : stop (c :: s) = none) (hq : q <+: s) :
    Encloses [] closers (c :: q) ↔ Encloses [] closers q := by
  constructor
  · rintro ⟨body, closer, hcloser, heq⟩
    rcases List.cons_eq_append_iff.mp heq with ⟨-, hcons⟩ | ⟨body, -, hq⟩
    · obtain ⟨t, rfl⟩ := hq
      have htakes : stop (c :: (q ++ t)) = some (closer, t) :=
        h.eq_some_iff.mpr ⟨hcloser, by simp [hcons]⟩
      rw [hstop] at htakes
      cases htakes
    · exact ⟨body, closer, hcloser, hq⟩
  · rintro ⟨body, closer, hcloser, rfl⟩
    exact ⟨c :: body, closer, hcloser, rfl⟩

theorem shortest_cutThrough? (h : TakesMarks stop closers) (s : List Char) :
    match cutThrough? stop s with
    | some x => Shortest (Encloses [] closers) s x.1
    | none => Lacks (Encloses [] closers) s := by
  induction s with
  | nil =>
      have hlacks : Lacks (Encloses [] closers) [] := by
        intro q hq hends
        exact h.ne_nil hends (List.prefix_nil.mp hq)
      cases hstop : stop [] with
      | none => simpa [cutThrough?, hstop] using hlacks
      | some x =>
          obtain ⟨hmem, heq⟩ := h.eq_some_iff.mp hstop
          exact absurd ⟨[], x.1, hmem, rfl⟩ (hlacks x.1 ⟨x.2, heq.symm⟩)
  | cons c s ih =>
      cases hstop : stop (c :: s) with
      | some x =>
          obtain ⟨hmem, heq⟩ := h.eq_some_iff.mp hstop
          have hfront : x.1 <+: c :: s := ⟨x.2, heq.symm⟩
          simp only [cutThrough?, hstop]
          exact ⟨hfront, ⟨[], x.1, hmem, rfl⟩, fun q hq => h.length_le hmem hfront hq⟩
      | none =>
          have hlong : ∀ q, q <+: [c] ++ s → Encloses [] closers q → [c] <+: q :=
            fun q hq hends => singleton_prefix_of_ne_nil hq (h.ne_nil hends)
          cases hthrough : cutThrough? stop s with
          | some x =>
              rw [hthrough] at ih
              simp only [cutThrough?, hstop, hthrough, Option.map_some]
              exact ih.append hlong fun q hq => h.encloses_cons hstop hq
          | none =>
              rw [hthrough] at ih
              simp only [cutThrough?, hstop, hthrough, Option.map_none]
              exact ih.append hlong fun q hq => h.encloses_cons hstop hq

/-- A comment that a text begins with is found behind its first mark. -/
theorem exists_cutThrough? (h : TakesMarks stop closers) {t p : List Char}
    (hp : Shortest (Encloses opener closers) (opener ++ t) p) :
    ∃ x, cutThrough? stop t = some x ∧ p = opener ++ x.1 := by
  have hlong : ∀ q, q <+: opener ++ t → Encloses opener closers q → opener <+: q :=
    fun _ _ hends => hends.opens
  have hthrough := h.shortest_cutThrough? t
  cases hend : cutThrough? stop t with
  | some x =>
      rw [hend] at hthrough
      exact ⟨x, rfl, hp.unique (hthrough.append hlong fun _ _ => encloses_append)⟩
  | none =>
      rw [hend] at hthrough
      exact absurd hp.holds (hthrough.append hlong (fun _ _ => encloses_append) p hp.front)

end TakesMarks

end Marks

theorem cutBlockComment?_eq_some {opener s : List Char} (hopener : opener ∈ blockOpeners)
    (h : opener <+: s) :
    ∃ x, cutBlockComment? s = some x ∧ x.1 ≠ [] ∧
      ShortestOrAll (Encloses opener blockClosers) s x.1 := by
  obtain ⟨t, rfl⟩ := h
  have hne : opener ≠ [] := by
    rcases mem_blockOpeners.mp hopener with rfl | rfl <;> simp
  have hstart : cutBlockStart? (opener ++ t) = some (opener, t) := by
    rcases mem_blockOpeners.mp hopener with rfl | rfl <;> rfl
  have hlong : ∀ q, q <+: opener ++ t → Encloses opener blockClosers q → opener <+: q :=
    fun _ _ hends => hends.opens
  have hthrough := takesMarks_blockEnd.shortest_cutThrough? t
  rw [cutBlockComment?, hstart, Option.map_some]
  cases hend : cutThrough? cutBlockEnd? t with
  | some y =>
      rw [hend] at hthrough
      exact ⟨_, rfl, by simp [hne], Or.inl (hthrough.append hlong fun _ _ => encloses_append)⟩
  | none =>
      rw [hend] at hthrough
      exact ⟨_, rfl, by simp [hne],
        Or.inr ⟨rfl, hthrough.append hlong fun _ _ => encloses_append⟩⟩

theorem cutAtComment?_eq_some {s p : List Char} (h : Shortest (Encloses ['@'] [['@']]) s p) :
    ∃ rest, cutAtComment? s = some (p, rest) := by
  obtain ⟨t, rfl⟩ := h.holds.opens.trans h.front
  obtain ⟨x, hend, rfl⟩ := (takesMarks_sign '@').exists_cutThrough? h
  exact ⟨x.2, by simp [cutAtComment?, hend]⟩

/-! ## Comments in leads -/

/-- The comment that a text begins with. -/
inductive CommentAt (s : List Char) : Lexeme → Prop
  | line {p : List Char} :
      ['/', '/'] <+: s → ShortestOrAll EndsBareLine s p → CommentAt s ⟨.lineComment, p⟩
  | block {opener p : List Char} :
      opener ∈ blockOpeners → opener <+: s → ShortestOrAll (Encloses opener blockClosers) s p →
        CommentAt s ⟨.blockComment, p⟩
  | at {p : List Char} :
      Shortest (Encloses ['@'] [['@']]) s p → CommentAt s ⟨.blockComment, p⟩

/-- The comments that a lead may hold. -/
def LeadComment (q : List Char) : Prop :=
  Encloses ['/', '*'] [['*', '/']] q ∨ Encloses ['@'] [['@']] q

/-- The rests behind a mark are those that a stretch of the line and the mark
stand in front of. -/
theorem mem_restsBehind_iff {mark s y : List Char} (hne : mark ≠ []) (hmark : '\n' ∉ mark) :
    y ∈ restsBehind mark s ↔ ∃ body, '\n' ∉ body ∧ s = body ++ mark ++ y := by
  constructor
  · intro h
    induction s with
    | nil => cases h
    | cons c s ih =>
        simp only [restsBehind] at h
        split at h
        · cases h
        · next hfeed =>
          have hlater (hy : y ∈ restsBehind mark s) :
              ∃ body, '\n' ∉ body ∧ c :: s = body ++ mark ++ y := by
            obtain ⟨body, hbody, rfl⟩ := ih hy
            exact ⟨c :: body, by simp [Ne.symm hfeed, hbody], rfl⟩
          split at h
          · next hopens =>
            rcases List.mem_cons.mp h with rfl | hy
            · obtain ⟨t, ht⟩ := List.isPrefixOf_iff_prefix.mp hopens
              exact ⟨[], List.not_mem_nil, by simp [← ht]⟩
            · exact hlater hy
          · exact hlater h
  · rintro ⟨body, hbody, rfl⟩
    induction body with
    | nil =>
        obtain ⟨d, mark, rfl⟩ := List.exists_cons_of_ne_nil hne
        have hfeed : d ≠ '\n' := by
          rintro rfl
          exact hmark (List.mem_cons_self ..)
        have hopens : (d :: mark).isPrefixOf (d :: (mark ++ y)) = true :=
          List.isPrefixOf_iff_prefix.mpr ⟨y, rfl⟩
        rw [List.nil_append, List.cons_append, restsBehind, if_neg hfeed, if_pos hopens]
        simp
    | cons c body ih =>
        rw [List.mem_cons, not_or] at hbody
        have hmem := ih hbody.2
        rw [List.cons_append, List.cons_append, restsBehind, if_neg (Ne.symm hbody.1)]
        split
        · exact List.mem_cons_of_mem _ hmem
        · exact hmem

theorem mem_restsBehindComment_iff {s y : List Char} :
    y ∈ restsBehindComment s ↔ ∃ q, '\n' ∉ q ∧ LeadComment q ∧ s = q ++ y := by
  constructor
  · intro h
    unfold restsBehindComment at h
    split at h
    · obtain ⟨body, hbody, rfl⟩ := (mem_restsBehind_iff (by simp) (by decide)).mp h
      exact ⟨['/', '*'] ++ body ++ ['*', '/'], by simp [hbody],
        Or.inl ⟨body, _, List.mem_singleton_self _, rfl⟩, by simp⟩
    · obtain ⟨body, hbody, rfl⟩ := (mem_restsBehind_iff (by simp) (by decide)).mp h
      exact ⟨['@'] ++ body ++ ['@'], by simp [hbody],
        Or.inr ⟨body, _, List.mem_singleton_self _, rfl⟩, by simp⟩
    · cases h
  · rintro ⟨q, hfeed, ⟨body, closer, hcloser, rfl⟩ | ⟨body, closer, hcloser, rfl⟩, rfl⟩
    · obtain rfl := List.mem_singleton.mp hcloser
      have hbody : '\n' ∉ body := fun h => hfeed (by simp [h])
      exact (mem_restsBehind_iff (by simp) (by decide)).mpr ⟨body, hbody, by simp⟩
    · obtain rfl := List.mem_singleton.mp hcloser
      have hbody : '\n' ∉ body := fun h => hfeed (by simp [h])
      exact (mem_restsBehind_iff (by simp) (by decide)).mpr ⟨body, hbody, by simp⟩

/-- Two marks of which neither begins with the other do not open one text. -/
theorem not_opens_twice {a b s : List Char} (h : ¬a <+: b) (h' : ¬b <+: a) (ha : a <+: s) :
    ¬b <+: s := by
  intro hb
  rcases List.prefix_or_prefix_of_prefix ha hb with hab | hba
  · exact h hab
  · exact h' hba

namespace CommentAt

variable {s u q : List Char} {l : Lexeme}

theorem exists_cons (h : CommentAt s l) : ∃ ch t, s = ch :: t ∧ (ch = '/' ∨ ch = '@') := by
  cases h with
  | line hopen _ =>
      obtain ⟨t, rfl⟩ := hopen
      exact ⟨'/', '/' :: t, rfl, Or.inl rfl⟩
  | block hopener hopen _ =>
      obtain ⟨t, rfl⟩ := hopen
      rcases mem_blockOpeners.mp hopener with rfl | rfl
      · exact ⟨'/', '*' :: t, rfl, Or.inl rfl⟩
      · exact ⟨'/', '\\' :: '\n' :: '*' :: t, rfl, Or.inl rfl⟩
  | «at» hp =>
      obtain ⟨t, rfl⟩ := hp.holds.opens.trans hp.front
      exact ⟨'@', t, rfl, Or.inr rfl⟩

/-- The comment stays the same where the text is cut off behind an end that the
scan of a lead takes for the end of the comment. -/
theorem of_front (h : CommentAt s l) (hu : u <+: s) (hq : q <+: u) (hlead : LeadComment q) :
    CommentAt u l := by
  have hqs := hq.trans hu
  cases h with
  | line hopen _ =>
      refine absurd hopen ?_
      rcases hlead with hslash | hat
      · exact not_opens_twice (by decide) (by decide) (hslash.opens.trans hqs)
      · exact not_opens_twice (by decide) (by decide) (hat.opens.trans hqs)
  | @block opener p hopener hopen hp =>
      rcases hlead with hslash | hat
      · obtain rfl : opener = ['/', '*'] := by
          refine (mem_blockOpeners.mp hopener).resolve_right ?_
          rintro rfl
          exact not_opens_twice (by decide) (by decide)
            (hslash.opens.trans hqs) hopen
        have hends : Encloses ['/', '*'] blockClosers q := by
          obtain ⟨body, closer, hcloser, rfl⟩ := hslash
          obtain rfl := List.mem_singleton.mp hcloser
          exact ⟨body, _, mem_blockClosers.mpr (Or.inl rfl), rfl⟩
        rcases hp with hshort | ⟨-, hlacks⟩
        · exact .block hopener (hends.opens.trans hq) (Or.inl (hshort.of_front hu hq hends))
        · exact absurd hends (hlacks q hqs)
      · refine absurd hopen ?_
        rcases mem_blockOpeners.mp hopener with rfl | rfl <;>
          exact not_opens_twice (by decide) (by decide) (hat.opens.trans hqs)
  | «at» hp =>
      rcases hlead with hslash | hat
      · exact absurd (hslash.opens.trans hqs) (not_opens_twice (by decide) (by decide)
          (hp.holds.opens.trans hp.front))
      · exact .at (hp.of_front hu hq hat)

end CommentAt

theorem cutBefore_append (taken rest : List Char) : (cutBefore rest (taken ++ rest)).1 = taken := by
  simp [cutBefore]

theorem exists_hash_of_cutDisabledStart? {r : List Char} {x : Cut}
    (h : cutDisabledStart? r = some x) : ∃ t, r = '#' :: t := by
  obtain ⟨y, hy, -⟩ := Option.bind_eq_some_iff.mp h
  obtain ⟨hword, rfl⟩ := cutWord?_eq_some.mp hy
  obtain ⟨c, word, hc, hsign, -⟩ := List.map_eq_cons_iff.mp hword
  obtain rfl := (fold_eq_iff (by decide) (by decide) c).mp hsign
  exact ⟨word ++ y.2, by rw [hc]; rfl⟩

theorem exists_hash_of_cutMark? {r : List Char} {x : Cut} (h : cutMark? ['#'] r = some x) :
    ∃ t, r = '#' :: t :=
  ⟨x.2, (cutMark?_eq_some.mp h).2⟩

section Leads

variable {w s : List Char} {l : Lexeme} (hw : ∀ ch ∈ w, isBlank ch = true) (h : CommentAt s l)

include hw h

theorem dropWhile_isBlank_of_commentAt : (w ++ s).dropWhile isBlank = s := by
  obtain ⟨ch, t, rfl, hch⟩ := h.exists_cons
  rw [List.dropWhile_append_of_pos hw]
  rcases hch with rfl | rfl <;> rfl

/-- The lead of a directive that begins with blanks and a comment is blanks and
that comment, with something behind it. -/
theorem exists_inner_of_findDirective? {start : List Char → Option Cut} {mode : Mode} {m : Match}
    (hstart : ∀ r x, start r = some x → ∃ t, r = '#' :: t)
    (hm : findDirective? start mode (w ++ s) = some m) :
    ∃ u, m.front = [] ∧ m.inner = w ++ u ∧ CommentAt u l := by
  obtain ⟨r, hr, hm⟩ := List.exists_of_findSome?_eq_some hm
  obtain ⟨x, hx, hm⟩ := Option.bind_eq_some_iff.mp hm
  obtain ⟨t, rfl⟩ := hstart r x hx
  split at hm
  · cases hm
  obtain rfl := Option.some.inj hm
  rw [restsBehindLead, dropWhile_isBlank_of_commentAt hw h, List.mem_append] at hr
  rcases hr with hr | hr
  · -- Behind an end of the comment come blanks and the sign of the directive.
    obtain ⟨y, hy, hdrop⟩ := List.mem_map.mp hr
    obtain ⟨q, -, hlead, rfl⟩ := mem_restsBehindComment_iff.mp hy
    obtain ⟨blanks, hblanks⟩ : '#' :: t <:+ y := hdrop ▸ List.dropWhile_suffix _
    refine ⟨q ++ blanks, rfl, ?_, h.of_front ⟨'#' :: t, ?_⟩ ⟨blanks, rfl⟩ hlead⟩
    · have hsplit : w ++ (q ++ y) = (w ++ (q ++ blanks)) ++ '#' :: t := by
        simp [← hblanks]
      rw [hsplit]
      exact cutBefore_append _ _
    · rw [List.append_assoc, hblanks]
  · -- The text behind the blanks is the comment itself and no directive.
    obtain ⟨ch, u, hu, hch⟩ := h.exists_cons
    obtain ⟨rfl, -⟩ := List.cons.inj ((List.mem_singleton.mp hr).trans hu)
    rcases hch with hch | hch <;> cases hch

end Leads

namespace Cursor

variable {c : Cursor} {ch : Char} {w s t : List Char} {l : Lexeme}

theorem exists_inner_of_commentAt {m : Match} (hw : ∀ ch ∈ w, isBlank ch = true)
    (h : CommentAt s l) (hrest : c.rest = w ++ s)
    (hm : Rule.disabledStart.find? c.before c.rest = some m ∨
      Rule.directiveStart.find? c.before c.rest = some m) :
    ∃ u, m.front = [] ∧ m.inner = w ++ u ∧ CommentAt u l := by
  rw [hrest] at hm
  rcases hm with hm | hm
  · simp only [Rule.disabledStart, Rule.atLineStart] at hm
    split at hm
    · exact exists_inner_of_findDirective? hw h (fun _ _ => exists_hash_of_cutDisabledStart?) hm
    · cases hm
  · simp only [Rule.directiveStart, Rule.atLineStart] at hm
    split at hm
    · exact exists_inner_of_findDirective? hw h (fun _ _ => exists_hash_of_cutMark?) hm
    · cases hm

theorem firstMatch?_of_commentAt (h : CommentAt c.rest l) (hrest : c.rest = ch :: t) :
    ∃ rest, c.firstMatch? ((Mode.rootRulesOn ch).drop 2) = some (.plain [l] rest .stay) := by
  cases h with
  | line hopen hp =>
      obtain ⟨x, hscan, hne, hx⟩ := cutLineComment?_eq_some hopen
      obtain rfl := hp.unique hx
      obtain ⟨u, hu⟩ := hopen
      obtain ⟨rfl, -⟩ := List.cons.inj (hu.trans hrest)
      exact ⟨x.2, firstMatch?_of_scan _ rfl hscan hne⟩
  | block hopener hopen hp =>
      obtain ⟨x, hscan, hne, hx⟩ := cutBlockComment?_eq_some hopener hopen
      obtain rfl := hp.unique hx
      obtain ⟨u, hu⟩ := hopen
      have hline : Rule.lineComment.find? c.before c.rest = none := by
        rcases mem_blockOpeners.mp hopener with rfl | rfl <;> rw [← hu] <;> rfl
      obtain rfl : ch = '/' := by
        rcases mem_blockOpeners.mp hopener with rfl | rfl <;>
          exact (List.cons.inj (hu.trans hrest)).1.symm
      have hrules : (Mode.rootRulesOn '/').drop 2 =
          .lineComment :: .blockComment :: (Mode.rootRulesOn '/').drop 4 := rfl
      rw [hrules, firstMatch?_of_none _ hline]
      exact ⟨x.2, firstMatch?_of_scan _ rfl hscan hne⟩
  | «at» hp =>
      obtain ⟨rest, hscan⟩ := cutAtComment?_eq_some hp
      obtain ⟨u, hu⟩ := hp.holds.opens
      obtain ⟨v, hv⟩ := hp.front
      rw [← hu] at hv
      obtain ⟨rfl, -⟩ := List.cons.inj (hv.trans hrest)
      exact ⟨rest, firstMatch?_of_scan _ rfl hscan (by simp [← hu])⟩

/-- Blanks in front of a comment are taken up to the comment, or up to and with
a line feed. -/
theorem firstMatch?_of_isBlank {b : Char} (hw : ∀ ch ∈ b :: w, isBlank ch = true)
    (h : CommentAt s l) (hrest : c.rest = b :: w ++ s) :
    ∃ taken w', b :: w = taken ++ w' ∧
      c.firstMatch? ((Mode.rootRulesOn b).drop 2) =
        some (.plain [⟨.text, taken⟩] (w' ++ s) .stay) := by
  by_cases hfeed : b = '\n'
  · subst hfeed
    exact ⟨['\n'], w, rfl, firstMatch?_of_lineFeed hrest⟩
  · have hs := dropWhile_isBlank_of_commentAt (List.forall_mem_nil _) h
    exact ⟨b :: w, [], by simp, firstMatch?_of_blanks hw hfeed hs hrest⟩

/-- Behind blanks, the lexer goes on to a comment and takes it, whatever leads
of directives it is taken in. -/
theorem exists_lexemes_of_commentAt (hmode : c.mode = .root) (hw : ∀ ch ∈ w, isBlank ch = true)
    (h : CommentAt s l) (hrest : c.rest = w ++ s) :
    ∃ ws ls, c.lexemes = ws ++ l :: ls ∧ textOf ws = w := by
  induction c using step_induction generalizing w s with
  | h c inner next =>
      obtain ⟨ch, t, hcons, hch⟩ : ∃ ch t, c.rest = ch :: t ∧ opensLead ch = true := by
        cases w with
        | nil =>
            obtain ⟨ch, t, rfl, hch⟩ := h.exists_cons
            refine ⟨ch, t, hrest, ?_⟩
            rcases hch with rfl | rfl <;> rfl
        | cons b w => exact ⟨b, w ++ s, hrest, by simp [opensLead, hw b (List.mem_cons_self ..)]⟩
      have hne : c.rest ≠ [] := by simp [hcons]
      rcases match?_of_opensLead hmode hcons hch with ⟨m, hm, hfind⟩ | hm
      · -- A directive: the comment comes out of the run over its lead.
        obtain ⟨u, hfront, hinner, hu⟩ := exists_inner_of_commentAt hw h hrest hfind
        obtain ⟨ws, ls, hlexemes, htext⟩ := inner m hne hm rfl hw hu hinner
        refine ⟨ws, ls ++ m.back ++ (c.behind m).lexemes, ?_, htext⟩
        have hyield : m.yield = ws ++ l :: ls ++ m.back := by
          rw [Match.yield, hfront, List.nil_append]
          exact congrArg (· ++ m.back) hlexemes
        rw [lexemes_of_step? (step?_of_match hne hm), hyield]
        simp
      · -- No directive: blanks go first, and the comment is taken where they end.
        cases w with
        | nil =>
            subst hrest
            obtain ⟨rest, hfirst⟩ := firstMatch?_of_commentAt h hcons
            exact ⟨[], _, lexemes_of_step? (step?_of_plain hne (hm.trans hfirst)), rfl⟩
        | cons b w =>
            obtain ⟨rfl, -⟩ := List.cons.inj (hcons.symm.trans hrest)
            obtain ⟨taken, w', hsplit, hfirst⟩ := firstMatch?_of_isBlank hw h hrest
            have hst := step?_of_plain hne (hm.trans hfirst)
            rw [hsplit] at hw ⊢
            obtain ⟨ws, ls, hlexemes, htext⟩ :=
              next _ hst hmode (fun d hd => hw d (List.mem_append_right _ hd)) h rfl
            refine ⟨⟨.text, taken⟩ :: ws, ls, ?_, by simp [htext]⟩
            rw [lexemes_of_step? hst, hlexemes]
            rfl

theorem head?_lexemes_of_commentAt (hmode : c.mode = .root) (h : CommentAt c.rest l) :
    c.lexemes.head? = some l := by
  obtain ⟨ws, ls, hlexemes, htext⟩ :=
    exists_lexemes_of_commentAt (w := []) hmode (List.forall_mem_nil _) h rfl
  cases ws with
  | nil => rw [hlexemes, List.nil_append, List.head?_cons]
  | cons first ws =>
      have hne := text_ne_nil_of_mem_lexemes c first (by simp [hlexemes])
      rw [textOf_cons] at htext
      exact absurd (List.append_eq_nil_iff.mp htext).1 hne

end Cursor

theorem shortest_atComment {body : List Char} (h : '@' ∉ body) (rest : List Char) :
    Shortest (Encloses ['@'] [['@']]) ('@' :: body ++ '@' :: rest) ('@' :: body ++ ['@']) where
  front := ⟨rest, by simp⟩
  holds := ⟨body, ['@'], List.mem_singleton_self _, rfl⟩
  least q hq hends := by
    obtain ⟨inside, closer, hcloser, rfl⟩ := hends
    obtain rfl := List.mem_singleton.mp hcloser
    refine Nat.le_of_not_lt fun hlt => ?_
    have hfront : inside ++ ['@'] <+: body ++ '@' :: rest := by
      obtain ⟨t, ht⟩ := hq
      exact ⟨t, by simpa using ht⟩
    have hle : (inside ++ ['@']).length ≤ body.length := by
      simp only [List.length_append, List.length_cons, List.length_nil] at hlt ⊢
      omega
    have hbody := List.prefix_of_prefix_length_le hfront (List.prefix_append ..) hle
    exact h (hbody.subset (by simp))

/-- **Comments go on to the first place that ends them.** In root mode, the next
token in front of `//` is a line comment up to the first line feed that no
backslash precedes; in front of an opening mark it is a block comment up to the
first closing mark; and each goes to the end of the text where there is none. In
front of an `@` it is a block comment up to the next `@`. The same tokens come
out where blanks stand in front of the comment, and where blanks and comment are
taken as the lead of a directive. -/
theorem comments_end_first {c : Cursor} (hmode : c.mode = .root) :
    (['/', '/'] <+: c.rest → ∃ p, c.lexemes.head? = some ⟨.lineComment, p⟩ ∧
        ShortestOrAll EndsBareLine c.rest p) ∧
      (∀ opener ∈ blockOpeners, opener <+: c.rest →
        ∃ p, c.lexemes.head? = some ⟨.blockComment, p⟩ ∧
          ShortestOrAll (Encloses opener blockClosers) c.rest p) ∧
      (∀ body rest, c.rest = '@' :: body ++ '@' :: rest → '@' ∉ body →
        c.lexemes.head? = some ⟨.blockComment, '@' :: body ++ ['@']⟩) ∧
      (∀ w s l, (∀ ch ∈ w, isBlank ch = true) → c.rest = w ++ s → CommentAt s l →
        ∃ ws ls, c.lexemes = ws ++ l :: ls ∧ textOf ws = w) := by
  refine ⟨?_, ?_, ?_, ?_⟩
  · intro hopen
    obtain ⟨x, -, -, hx⟩ := cutLineComment?_eq_some hopen
    exact ⟨x.1, Cursor.head?_lexemes_of_commentAt hmode (.line hopen hx), hx⟩
  · intro opener hopener hopen
    obtain ⟨x, -, -, hx⟩ := cutBlockComment?_eq_some hopener hopen
    exact ⟨x.1, Cursor.head?_lexemes_of_commentAt hmode (.block hopener hopen hx), hx⟩
  · intro body rest hrest hbody
    refine Cursor.head?_lexemes_of_commentAt hmode (.at ?_)
    rw [hrest]
    exact shortest_atComment hbody rest
  · intro w s l hw hrest h
    exact Cursor.exists_lexemes_of_commentAt hmode hw h hrest

/-- A lead that goes on to the last `@` of its line is lexed as the comment up
to the second one and what stands behind that. -/
theorem comments_end_first_lead :
    (Cursor.start "@a@ b@ #if 0".toList).match? =
        some ⟨[], "@a@ b@ ".toList, [⟨.directive, "#if 0".toList⟩], [], .push .disabled⟩ ∧
      (Cursor.start "@a@ b@ #if 0".toList).mode = .root ∧
      (Cursor.start "@a@ b@ #if 0".toList).lexemes.head? = some ⟨.blockComment, "@a@".toList⟩ := by
  exact ⟨by decide, rfl, (comments_end_first (c := Cursor.start "@a@ b@ #if 0".toList) rfl).2.2.1
    ['a'] " b@ #if 0".toList rfl (by decide)⟩

end GaussMarkup
