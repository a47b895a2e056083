import GaussMarkup.Lexicon.Alternation
import GaussMarkup.Proofs.Text.Order
import GaussMarkup.Proofs.Text.Prefixes
import Mathlib.Data.List.Nodup

/-!
# What the pattern for a list of words matches

The pattern is compared with the list through a reader of patterns: `readGroup?` cuts a
group at the bars that are not escaped, undoes the escapes, and accepts no sign that
would mean anything else. What it reads off the pattern is the list itself, each word
once (`readGroup?_wordsPattern`, `mem_longestFirst`).

An alternation takes the first alternative that fits, and that is the longest one if no
alternative begins one behind it (`firstFitting?_eq_some_iff`). The order of the words
has this property, as a word has fewer bytes than its extensions. The order is total,
and words that neither goes in front of are the same, so that the neighbours are the
only repeated words and the result depends on the set of words alone.
-/

namespace GaussMarkup

/-- The alternatives of a group, from behind its opening on: they are cut at each bar
that is not escaped and their escapes are undone. With them comes what stands behind the
parenthesis that closes the group. An alternative holds no unescaped sign; `word` is what
was read of it. -/
def readAlternatives? (word : List Char) : List Char → Option (List (List Char) × List Char)
  | [] => none
  | '|' :: s => (readAlternatives? [] s).map fun group => (word :: group.1, group.2)
  | ')' :: s => some ([word], s)
  | '\\' :: c :: s => if isPatternSign c then readAlternatives? (word ++ [c]) s else none
  | c :: s => if isPatternSign c then none else readAlternatives? (word ++ [c]) s

/-- The alternatives of the group at the front of a pattern, and what follows it. -/
def readGroup? : List Char → Option (List (List Char) × List Char)
  | '(' :: '?' :: ':' :: s => readAlternatives? [] s
  | _ => none

/-- What an alternation takes off the front of a text: the first alternative that the
text begins with. -/
def firstFitting? (alternatives : List (List Char)) (text : List Char) : Option (List Char) :=
  alternatives.find? (·.isPrefixOf text)

variable {s t u : List Char}

/-! ## The order of words -/

theorem byteSize_pos (h : s ≠ []) : 0 < byteSize s := by
  obtain ⟨c, t, rfl⟩ := List.exists_cons_of_ne_nil h
  exact Nat.add_pos_left c.utf8Size_pos _

theorem triedBefore_iff : triedBefore s t = true ↔
    byteSize t < byteSize s ∨ byteSize s = byteSize t ∧ textLe s t = true := by
  simp [triedBefore]

theorem triedBefore_trans (s t u : List Char) (hst : triedBefore s t = true)
    (htu : triedBefore t u = true) : triedBefore s u = true := by
  rw [triedBefore_iff] at hst htu ⊢
  rcases hst with hlt | ⟨heq, hle⟩
  · exact Or.inl (by omega)
  · rcases htu with hlt | ⟨heq', hle'⟩
    · exact Or.inl (by omega)
    · exact Or.inr ⟨heq.trans heq', textLe_trans s t u hle hle'⟩

theorem triedBefore_total (s t : List Char) : (triedBefore s t || triedBefore t s) = true := by
  rw [Bool.or_eq_true, triedBefore_iff, triedBefore_iff]
  rcases Nat.lt_trichotomy (byteSize s) (byteSize t) with hlt | heq | hlt
  · exact Or.inr (Or.inl hlt)
  · have hle := textLe_total s t
    rw [Bool.or_eq_true] at hle
    exact hle.imp (fun h => Or.inr ⟨heq, h⟩) (fun h => Or.inr ⟨heq.symm, h⟩)
  · exact Or.inl (Or.inl hlt)

theorem triedBefore_antisymm (hst : triedBefore s t = true) (hts : triedBefore t s = true) :
    s = t := by
  rw [triedBefore_iff] at hst hts
  rcases hst with hlt | ⟨heq, hle⟩
  · omega
  · rcases hts with hlt | ⟨-, hge⟩
    · omega
    · exact List.le_antisymm (textLe_iff.mp hle) (textLe_iff.mp hge)

/-- No word begins one behind it. -/
theorem not_prefix_of_triedBefore (h : triedBefore s t = true) (hne : s ≠ t) : ¬s <+: t := by
  rintro ⟨u, rfl⟩
  have hu : u ≠ [] := fun hnil => hne (by rw [hnil, List.append_nil])
  have hpos := byteSize_pos hu
  rw [triedBefore_iff, byteSize_append] at h
  omega

/-! ## Repeated neighbours -/

theorem eraseRepsBy_loop_eq {α : Type} (r : α → α → Bool) (a : α) (l acc : List α) :
    List.eraseRepsBy.loop r a l acc = acc.reverse ++ List.eraseRepsBy.loop r a l [] := by
  induction l generalizing a acc with
  | nil => simp [List.eraseRepsBy.loop]
  | cons b l ih =>
      simp only [List.eraseRepsBy.loop]
      split
      · exact ih a acc
      · rw [ih b (a :: acc), ih b [a]]
        simp

section Repeated

variable {α : Type} [BEq α] [LawfulBEq α] {a b : α}

theorem eraseReps_cons_self (a : α) (l : List α) :
    (a :: a :: l).eraseReps = (a :: l).eraseReps := by
  simp [List.eraseReps, List.eraseRepsBy, List.eraseRepsBy.loop]

theorem eraseReps_cons_of_ne (h : a ≠ b) (l : List α) :
    (a :: b :: l).eraseReps = a :: (b :: l).eraseReps := by
  have hne : (a == b) = false := beq_eq_false_iff_ne.mpr h
  simp only [List.eraseReps, List.eraseRepsBy, List.eraseRepsBy.loop, hne]
  rw [eraseRepsBy_loop_eq]
  rfl

theorem mem_eraseReps (l : List α) : a ∈ l.eraseReps ↔ a ∈ l := by
  match l with
  | [] => simp [List.eraseReps, List.eraseRepsBy]
  | [b] => simp [List.eraseReps, List.eraseRepsBy, List.eraseRepsBy.loop]
  | b :: c :: l =>
      have ih := mem_eraseReps (c :: l)
      by_cases h : b = c
      · subst h
        rw [eraseReps_cons_self, ih]
        simp
      · rw [eraseReps_cons_of_ne h, List.mem_cons, ih, ← List.mem_cons]

/-- In a list in order no two entries are the same once the repeated neighbours are
gone. -/
theorem pairwise_eraseReps {r : α → α → Prop} (hantisymm : ∀ a b, r a b → r b a → a = b)
    {l : List α} (h : l.Pairwise r) : l.eraseReps.Pairwise fun a b => r a b ∧ a ≠ b := by
  match l with
  | [] => exact List.Pairwise.nil
  | [b] => exact List.pairwise_singleton ..
  | b :: c :: l =>
      have ih := pairwise_eraseReps hantisymm (List.Pairwise.of_cons h)
      by_cases hbc : b = c
      · subst hbc
        rwa [eraseReps_cons_self]
      · rw [eraseReps_cons_of_ne hbc]
        refine List.pairwise_cons.mpr ⟨fun d hd => ?_, ih⟩
        rw [mem_eraseReps] at hd
        refine ⟨List.rel_of_pairwise_cons h hd, ?_⟩
        rintro rfl
        -- An entry that comes back would stand on both sides of the one in between.
        have hcb : r c b := by
          rcases List.mem_cons.mp hd with heq | hmem
          · exact absurd heq hbc
          · exact List.rel_of_pairwise_cons (List.Pairwise.of_cons h) hmem
        exact hbc (hantisymm b c (List.rel_of_pairwise_cons h List.mem_cons_self) hcb)

end Repeated

/-! ## The distinct words, longest first -/

variable {words others : List (List Char)}

theorem mem_longestFirst : s ∈ longestFirst words ↔ s ∈ words := by
  rw [longestFirst, mem_eraseReps, List.mem_mergeSort]

theorem pairwise_longestFirst (words : List (List Char)) :
    (longestFirst words).Pairwise fun s t => triedBefore s t = true ∧ s ≠ t :=
  pairwise_eraseReps (fun _ _ => triedBefore_antisymm)
    (List.pairwise_mergeSort triedBefore_trans triedBefore_total words)

theorem nodup_longestFirst (words : List (List Char)) : (longestFirst words).Nodup :=
  (pairwise_longestFirst words).imp And.right

/-- Only which words there are matters, not their order or how often they come. -/
theorem longestFirst_congr (h : ∀ s, s ∈ others ↔ s ∈ words) :
    longestFirst others = longestFirst words := by
  have hperm : (longestFirst others).Perm (longestFirst words) :=
    (List.perm_ext_iff_of_nodup (nodup_longestFirst others) (nodup_longestFirst words)).mpr
      fun s => by rw [mem_longestFirst, mem_longestFirst, h]
  exact hperm.eq_of_pairwise (fun _ _ _ _ => triedBefore_antisymm)
    ((pairwise_longestFirst others).imp And.left) ((pairwise_longestFirst words).imp And.left)

/-! ## Reading the pattern -/

theorem readAlternatives?_plain {c : Char} (h : isPatternSign c = false) (word s : List Char) :
    readAlternatives? word (c :: s) = readAlternatives? (word ++ [c]) s := by
  have hne : ∀ d, isPatternSign d = true → c ≠ d := by
    rintro d hd rfl
    exact Bool.false_ne_true (h.symm.trans hd)
  rw [readAlternatives?, if_neg (by simp [h])]
  · exact hne '|' (by decide)
  · exact hne ')' (by decide)
  · exact fun _ _ hc _ => hne '\\' (by decide) hc

theorem readAlternatives?_escapeWord (w word s : List Char) :
    readAlternatives? word (escapeWord w ++ s) = readAlternatives? (word ++ w) s := by
  induction w generalizing word with
  | nil => simp [escapeWord]
  | cons c w ih =>
      have hstep : readAlternatives? word (escapeWord (c :: w) ++ s) =
          readAlternatives? (word ++ [c]) (escapeWord w ++ s) := by
        rw [escapeWord, List.flatMap_cons]
        by_cases hc : isPatternSign c = true
        · rw [if_pos hc]
          exact if_pos hc
        · rw [if_neg hc, List.singleton_append, List.cons_append]
          exact readAlternatives?_plain (by simpa using hc) word _
      rw [hstep, ih, List.append_assoc, List.singleton_append]

theorem readAlternatives?_intercalate (w : List Char) (ws : List (List Char))
    (suffix : List Char) :
    readAlternatives? [] (List.intercalate ['|'] ((w :: ws).map escapeWord) ++ ')' :: suffix) =
      some (w :: ws, suffix) := by
  induction ws generalizing w with
  | nil =>
      rw [List.map_singleton, List.intercalate_singleton, readAlternatives?_escapeWord]
      rfl
  | cons v ws ih =>
      rw [List.map_cons, List.map_cons, List.intercalate_cons_cons, List.append_assoc,
        List.append_assoc, readAlternatives?_escapeWord, ← List.map_cons, List.singleton_append,
        readAlternatives?, ih]
      rfl

theorem readGroup?_wordsPattern (h : words ≠ []) (suffix : List Char) :
    readGroup? (wordsPattern words suffix) = some (longestFirst words, suffix) := by
  obtain ⟨v, hv⟩ := List.exists_mem_of_ne_nil words h
  obtain ⟨w, ws, heq⟩ := List.exists_cons_of_ne_nil
    (List.ne_nil_of_mem (mem_longestFirst.mpr hv))
  have hpattern : wordsPattern words suffix = '(' :: '?' :: ':' ::
      (List.intercalate ['|'] ((longestFirst words).map escapeWord) ++ ')' :: suffix) := rfl
  rw [hpattern, heq]
  exact readAlternatives?_intercalate w ws suffix

/-! ## Which alternative is taken -/

section Alternatives

variable {alternatives : List (List Char)} {text w : List Char}

/-- The first alternative that fits is the longest one, if none begins one behind it. -/
theorem longest_of_firstFitting? (h : alternatives.Pairwise fun v w => ¬v <+: w)
    (hw : firstFitting? alternatives text = some w) : Longest (· ∈ alternatives) text w := by
  obtain ⟨hfits, front, rest, rfl, hfront⟩ := List.find?_eq_some_iff_append.mp hw
  rw [List.isPrefixOf_iff_prefix] at hfits
  refine ⟨hfits, List.mem_append_right _ List.mem_cons_self, fun v hv hmem => ?_⟩
  rcases List.mem_append.mp hmem with hmem | hmem
  · have hno := hfront v hmem
    rw [List.isPrefixOf_iff_prefix.mpr hv] at hno
    cases hno
  · rcases List.mem_cons.mp hmem with rfl | hmem
    · exact Nat.le_refl _
    · have hbegins : ¬w <+: v :=
        List.rel_of_pairwise_cons (List.pairwise_append.mp h).2.1 hmem
      exact Nat.le_of_not_le fun hle =>
        hbegins (List.prefix_of_prefix_length_le hfits hv hle)

theorem firstFitting?_eq_none_iff :
    firstFitting? alternatives text = none ↔ Lacks (· ∈ alternatives) text := by
  rw [firstFitting?, List.find?_eq_none]
  simp only [List.isPrefixOf_iff_prefix]
  exact ⟨fun h v hv hmem => h v hmem hv, fun h v hmem hv => h v hv hmem⟩

theorem firstFitting?_eq_some_iff (h : alternatives.Pairwise fun v w => ¬v <+: w) :
    firstFitting? alternatives text = some w ↔ Longest (· ∈ alternatives) text w := by
  refine ⟨longest_of_firstFitting? h, fun hw => ?_⟩
  cases hfirst : firstFitting? alternatives text with
  | none => exact absurd hw.holds (firstFitting?_eq_none_iff.mp hfirst w hw.front)
  | some v => rw [(longest_of_firstFitting? h hfirst).unique hw]

end Alternatives

/-- **The pattern for a list of words takes the longest word.** It does not change when
words change places or come again. Read back, its group holds each word once, behind
every word that it begins, and the suffix stands behind the group. And the group takes
off the front of a text the longest word that the text begins with; it fails where the
text begins with none. -/
theorem pattern_takes_longest_word (words : List (List Char)) (h : words ≠ [])
    (suffix : List Char) :
    (∀ others, (∀ w, w ∈ others ↔ w ∈ words) →
        wordsPattern others suffix = wordsPattern words suffix) ∧
      ∃ alternatives, readGroup? (wordsPattern words suffix) = some (alternatives, suffix) ∧
        alternatives.Nodup ∧ (∀ w, w ∈ alternatives ↔ w ∈ words) ∧
        alternatives.Pairwise (fun v w => ¬v <+: w) ∧
        ∀ text,
          (∀ w, firstFitting? alternatives text = some w ↔ Longest (· ∈ words) text w) ∧
          (firstFitting? alternatives text = none ↔ Lacks (· ∈ words) text) := by
  have hmem : (· ∈ longestFirst words) = (· ∈ words) := funext fun w => propext mem_longestFirst
  have hpairwise : (longestFirst words).Pairwise fun v w => ¬v <+: w :=
    (pairwise_longestFirst words).imp fun h => not_prefix_of_triedBefore h.1 h.2
  refine ⟨fun others hothers => ?_, longestFirst words, readGroup?_wordsPattern h suffix,
    nodup_longestFirst words, fun w => mem_longestFirst, hpairwise, fun text => ⟨fun w => ?_, ?_⟩⟩
  · delta wordsPattern
    rw [longestFirst_congr hothers]
  · rw [firstFitting?_eq_some_iff hpairwise, hmem]
  · rw [firstFitting?_eq_none_iff, hmem]

/-- A word that comes twice, one that begins another, and one that holds a bar. -/
theorem pattern_takes_longest_word_endfor :
    let words := ["end".toList, "a|b".toList, "endfor".toList, "end".toList]
    words ≠ [] ∧
      ∃ alternatives,
        readGroup? (wordsPattern words "\\b".toList) = some (alternatives, "\\b".toList) ∧
          firstFitting? alternatives "endfor;".toList = some "endfor".toList ∧
          firstFitting? alternatives "a or b".toList = none := by
  intro words
  have hne : words ≠ [] := List.cons_ne_nil _ _
  obtain ⟨-, alternatives, hread, -, -, -, htakes⟩ :=
    pattern_takes_longest_word words hne "\\b".toList
  refine ⟨hne, alternatives, hread, ((htakes _).1 _).mpr ⟨by decide, by decide, ?_⟩,
    (htakes _).2.mpr ?_⟩
  · intro v _ hv
    simp only [words, List.mem_cons, List.not_mem_nil, or_false] at hv
    rcases hv with rfl | rfl | rfl | rfl <;> decide
  · intro v hfits hv
    simp only [words, List.mem_cons, List.not_mem_nil, or_false] at hv
    rcases hv with rfl | rfl | rfl | rfl <;> exact absurd hfits (by decide)

end GaussMarkup
