import GaussMarkup.Proofs.Text.SelfDelimiting
import GaussMarkup.Text.Quoted
import Mathlib.Data.List.Nodup

/-!
# Escapes in quoted text

Between quotes a character stands for itself, or a backslash stands in front of it: then
either one mark follows, which a table gives, or a `u` and the code point in digits
(`EscapesWith`). Such a text can be read back, as no two entries of the table share a
mark, no mark is a `u`, and the code point says where it ends
(`EscapesWith.selfDelimiting`). Digits of a number say what the number is, but not where
they end; something that is no digit has to stand behind them.
-/

namespace GaussMarkup

/-! ## Digits -/

theorem digitChar_inj : ∀ m < 16, ∀ n < 16, Nat.digitChar m = Nat.digitChar n → m = n := by
  decide

theorem exists_digitChar_of_mem {b n : Nat} {c : Char} (hb : 1 < b) (h : c ∈ Nat.toDigits b n) :
    ∃ d < b, c = Nat.digitChar d := by
  induction n using Nat.strongRecOn with
  | ind n ih =>
      by_cases hn : n < b
      · rw [Nat.toDigits_of_lt_base hn, List.mem_singleton] at h
        exact ⟨n, hn, h⟩
      · have hle : b ≤ n := Nat.le_of_not_lt hn
        rw [Nat.toDigits_of_base_le hb hle, List.mem_append, List.mem_singleton] at h
        rcases h with h | h
        · exact ih (n / b) (Nat.div_lt_self (by omega) hb) h
        · exact ⟨n % b, Nat.mod_lt n (by omega), h⟩

/-- A character that is no digit occurs in no number. -/
theorem not_mem_toDigits {b : Nat} {c : Char} (hb : 1 < b) (hc : ∀ d < b, c ≠ Nat.digitChar d)
    (n : Nat) : c ∉ Nat.toDigits b n := by
  intro h
  obtain ⟨d, hd, rfl⟩ := exists_digitChar_of_mem hb h
  exact hc d hd rfl

/-- The last digit is the remainder, and what is in front of it is the quotient. -/
theorem toDigits_injective {b : Nat} (hb : 1 < b) (hb' : b ≤ 16) :
    Function.Injective (Nat.toDigits b) := by
  intro m
  induction m using Nat.strongRecOn with
  | ind m ih =>
      intro n h
      -- a number below the base has one digit, any other has more
      have hbase : ∀ k, b ≤ k → ∀ d, Nat.toDigits b k ≠ [d] := by
        intro k hk d hd
        have hlength := congrArg List.length hd
        have hpos : 0 < (Nat.toDigits b (k / b)).length := Nat.length_toDigits_pos
        rw [Nat.toDigits_of_base_le hb hk, List.length_append] at hlength
        simp only [List.length_singleton] at hlength
        omega
      rcases Nat.lt_or_ge m b with hm | hm
      · rcases Nat.lt_or_ge n b with hn | hn
        · rw [Nat.toDigits_of_lt_base hm, Nat.toDigits_of_lt_base hn] at h
          exact digitChar_inj m (by omega) n (by omega) (List.singleton_inj.mp h)
        · rw [Nat.toDigits_of_lt_base hm] at h
          exact absurd h.symm (hbase n hn _)
      · rcases Nat.lt_or_ge n b with hn | hn
        · rw [Nat.toDigits_of_lt_base hn] at h
          exact absurd h (hbase m hm _)
        · rw [Nat.toDigits_of_base_le hb hm, Nat.toDigits_of_base_le hb hn] at h
          obtain ⟨hquot, hrem⟩ := List.append_inj' h rfl
          have hmod : ∀ k, k % b < 16 := fun k => Nat.lt_of_lt_of_le (Nat.mod_lt k (by omega)) hb'
          have hq := ih (m / b) (Nat.div_lt_self (by omega) hb) hquot
          have hr := digitChar_inj _ (hmod m) _ (hmod n) (List.singleton_inj.mp hrem)
          rw [← Nat.div_add_mod m b, ← Nat.div_add_mod n b, hq, hr]

/-! ## Marks and code points -/

/-- How characters are escaped: by a mark from a table, by their code point, if they
belong to a class, or not at all. -/
def EscapesWith (table : List (Char × Char)) (byCode : Char → Prop) (point : Char → List Char)
    (code : Char → List Char) : Prop :=
  ∀ c, (∃ mark, (c, mark) ∈ table ∧ code c = ['\\', mark]) ∨
    (byCode c ∧ code c = '\\' :: 'u' :: point c) ∨ (code c = [c] ∧ c ≠ '\\' ∧ c ≠ '"')

section

variable {table : List (Char × Char)} {byCode : Char → Prop} {point code : Char → List Char}

/-- No escaped character begins with a quote. -/
theorem EscapesWith.head_ne_quote (h : EscapesWith table byCode point code) (c : Char) :
    ∃ d ∈ (code c).head?, d ≠ '"' := by
  rcases h c with ⟨mark, -, hc⟩ | ⟨-, hc⟩ | ⟨hc, -, hquote⟩
  · exact ⟨'\\', by simp [hc], by decide⟩
  · exact ⟨'\\', by simp [hc], by decide⟩
  · exact ⟨c, by simp [hc], hquote⟩

/-- The first character tells whether there is an escape, and the second one which of
the two it is. -/
theorem EscapesWith.selfDelimiting (h : EscapesWith table byCode point code)
    (hmark : (table.map Prod.snd).Nodup) (hu : 'u' ∉ table.map Prod.snd)
    (hpoint : SelfDelimiting fun c : Subtype byCode => point c) : SelfDelimiting code := by
  have hmem : ∀ {c mark}, (c, mark) ∈ table → mark ≠ 'u' := by
    rintro c mark hc rfl
    exact hu (List.mem_map.mpr ⟨_, hc, rfl⟩)
  intro a b s t heq
  -- each way to write a character rules out the other two by one of its first characters
  rcases h a with ⟨mark, ha, hcode⟩ | ⟨ha, hcode⟩ | ⟨hcode, ha, -⟩
  · rcases h b with ⟨mark', hb, hcode'⟩ | ⟨-, hcode'⟩ | ⟨hcode', hb, -⟩
    · simp only [hcode, hcode', List.cons_append, List.nil_append, List.cons.injEq,
        true_and] at heq
      have hentry := List.inj_on_of_nodup_map hmark ha hb heq.1
      exact ⟨congrArg Prod.fst hentry, heq.2⟩
    · simp only [hcode, hcode', List.cons_append, List.cons.injEq, true_and] at heq
      exact absurd heq.1 (hmem ha)
    · rw [hcode, hcode'] at heq
      exact absurd (List.head_eq_of_cons_eq heq).symm hb
  · rcases h b with ⟨mark', hb, hcode'⟩ | ⟨hb, hcode'⟩ | ⟨hcode', hb, -⟩
    · simp only [hcode, hcode', List.cons_append, List.cons.injEq, true_and] at heq
      exact absurd heq.1.symm (hmem hb)
    · simp only [hcode, hcode', List.cons_append, List.cons.injEq, true_and] at heq
      obtain ⟨hchar, hrest⟩ := @hpoint ⟨a, ha⟩ ⟨b, hb⟩ s t heq
      exact ⟨congrArg Subtype.val hchar, hrest⟩
    · rw [hcode, hcode'] at heq
      exact absurd (List.head_eq_of_cons_eq heq).symm hb
  · rcases h b with ⟨mark', -, hcode'⟩ | ⟨-, hcode'⟩ | ⟨hcode', -, -⟩
    · rw [hcode, hcode'] at heq
      exact absurd (List.head_eq_of_cons_eq heq) ha
    · rw [hcode, hcode'] at heq
      exact absurd (List.head_eq_of_cons_eq heq) ha
    · rw [hcode, hcode'] at heq
      exact List.cons_eq_cons.mp heq

theorem EscapesWith.selfDelimiting_quoted (h : EscapesWith table byCode point code)
    (hcode : SelfDelimiting code) :
    SelfDelimiting fun s : List Char => '"' :: s.flatMap code ++ ['"'] := by
  intro s t u v heq
  simp only [List.cons_append, List.cons.injEq, true_and] at heq
  exact hcode.closed h.head_ne_quote heq

end

/-! ## Text with code points in braces -/

/-- The characters with a short escape, each with its mark. -/
def quoteMarks : List (Char × Char) :=
  [('\x00', '0'), ('\t', 't'), ('\r', 'r'), ('\n', 'n'), ('"', '"'), ('\\', '\\')]

theorem escapesWith_quoteChar :
    EscapesWith quoteMarks (fun _ => True) (fun c => '{' :: hexDigits c.toNat ++ ['}'])
      quoteChar := by
  intro c
  have htable : ∀ e ∈ quoteMarks, quoteChar e.1 = ['\\', e.2] := by simp [quoteMarks, quoteChar]
  by_cases hmark : c ∈ quoteMarks.map Prod.fst
  · obtain ⟨⟨c, mark⟩, he, rfl⟩ := List.mem_map.mp hmark
    exact .inl ⟨mark, he, htable _ he⟩
  · simp only [quoteMarks, List.map_cons, List.map_nil, List.mem_cons, List.not_mem_nil,
      or_false, not_or] at hmark
    obtain ⟨h0, ht, hr, hn, hq, hb⟩ := hmark
    simp only [quoteChar, h0, ht, hr, hn, hq, hb, if_false]
    by_cases hcode : needsCodePoint c = true
    · exact .inr (.inl ⟨trivial, by rw [if_pos hcode]; rfl⟩)
    · exact .inr (.inr ⟨by rw [if_neg hcode], hb, hq⟩)

theorem toNat_injective : Function.Injective Char.toNat := by
  intro c d h
  exact Char.toNat_inj.mp h

theorem selfDelimiting_quoteChar : SelfDelimiting quoteChar := by
  refine escapesWith_quoteChar.selfDelimiting (by decide) (by decide) ?_
  have hbrace : ∀ n, '}' ∉ hexDigits n := not_mem_toDigits (by decide) (by decide)
  have hpoint := (selfDelimiting_of_stop hbrace
    (toDigits_injective (by decide) (by decide))).comp toNat_injective
  intro a b s t heq
  simp only [List.cons_append, List.cons.injEq, true_and] at heq
  obtain ⟨hchar, hrest⟩ := hpoint heq
  exact ⟨Subtype.ext hchar, hrest⟩

theorem selfDelimiting_quote : SelfDelimiting quote :=
  escapesWith_quoteChar.selfDelimiting_quoted selfDelimiting_quoteChar

end GaussMarkup
