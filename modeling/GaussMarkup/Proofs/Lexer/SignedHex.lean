import GaussMarkup.Proofs.Lexer.NumberExtent
import GaussMarkup.Proofs.Lexer.PlainName

/-!
# Hexadecimal numbers behind a minus sign

The rule for hexadecimal numbers begins with the zero and does not know a sign.
The rule for decimal numbers does: in front of a minus sign it takes the sign with
the zero as a number, and what is left of a hexadecimal number, its mark and its
digits, is read as a word. So a hexadecimal number stays whole just where no minus
sign is in front of it when the cursor comes to it (`hex_whole_or_cut`).
-/

namespace GaussMarkup

variable {s t digits : List Char} {x : Char}

theorem isAlphanum_of_isHexDigit {c : Char} (h : isHexDigit c = true) : c.isAlphanum = true := by
  have hupper (hc : 65 ≤ c.toNat ∧ c.toNat ≤ 90) : c.isAlphanum = true := by
    have hupper : c.isUpper = true := decide_eq_true hc
    exact Bool.or_eq_true_iff.mpr (Or.inl (Bool.or_eq_true_iff.mpr (Or.inl hupper)))
  have hlower (hc : 97 ≤ c.toNat ∧ c.toNat ≤ 122) : c.isAlphanum = true := by
    have hlower : c.isLower = true :=
      Bool.and_eq_true_iff.mpr ⟨decide_eq_true hc.1, decide_eq_true hc.2⟩
    exact Bool.or_eq_true_iff.mpr (Or.inl (Bool.or_eq_true_iff.mpr (Or.inr hlower)))
  simp only [isHexDigit, Bool.or_eq_true, Bool.and_eq_true, decide_eq_true_eq] at h
  rcases h with (hdigit | ⟨hlow, hhigh⟩) | ⟨hlow, hhigh⟩
  · exact Bool.or_eq_true_iff.mpr (Or.inr hdigit)
  · have hlow : 97 ≤ c.toNat := hlow
    have hhigh : c.toNat ≤ 102 := hhigh
    exact hlower (by omega)
  · have hlow : 65 ≤ c.toNat := hlow
    have hhigh : c.toNat ≤ 70 := hhigh
    exact hupper (by omega)

/-- All that follows the zero of a hexadecimal number begins a name. -/
theorem cutName?_hexMark (hx : x = 'x' ∨ x = 'X') (hdigits : ∀ d ∈ digits, isHexDigit d = true)
    (t : List Char) :
    cutName? (x :: (digits ++ t)) =
      some (x :: (digits ++ t.takeWhile isWordChar), t.dropWhile isWordChar) := by
  have hname : isName (x :: digits) = true := by
    refine isName_of_ascii (Or.inl ?_) fun d hd => Or.inl (isAlphanum_of_isHexDigit (hdigits d hd))
    rcases hx with rfl | rfl
    · decide
    · decide
  obtain ⟨hstart, hword⟩ := Bool.and_eq_true_iff.mp hname
  have hword : ∀ d ∈ digits, isWordChar d = true := List.all_eq_true.mp hword
  refine cutName?_eq_some.mpr ⟨x, digits ++ t, rfl, hstart, ?_⟩
  rw [List.takeWhile_append_of_pos hword, List.dropWhile_append_of_pos hword]

theorem cutHex?_of_digits (hx : x = 'x' ∨ x = 'X') (hdigits : RunOf isHexDigit digits)
    (ht : t.head?.any isHexDigit = false) :
    cutHex? ('0' :: x :: (digits ++ t)) = some ('0' :: x :: digits, t) := by
  have hmark : cutWord? ['0', 'x'] ('0' :: x :: (digits ++ t)) =
      some (['0', x], digits ++ t) := cutWord?_hexMark.mpr ⟨x, hx, rfl, rfl⟩
  have hends : t.takeWhile isHexDigit = [] ∧ t.dropWhile isHexDigit = t := by
    cases t with
    | nil => exact ⟨rfl, rfl⟩
    | cons d t =>
        have hd : isHexDigit d = false := by simpa using ht
        exact ⟨List.takeWhile_cons_of_neg (by simp [hd]), List.dropWhile_cons_of_neg (by simp [hd])⟩
  have hrun : cutRun? isHexDigit (digits ++ t) = some (digits, t) := by
    refine cutRun?_eq_some.mpr ⟨?_, ?_⟩
    · rw [List.takeWhile_append_of_pos hdigits.2, hends.1, List.append_nil]
      exact hdigits.1
    · rw [List.takeWhile_append_of_pos hdigits.2, List.dropWhile_append_of_pos hdigits.2, hends.1,
        hends.2, List.append_nil]
  rw [cutHex?, hmark, Option.bind_some, hrun, Option.map_some]
  rfl

/-- A minus sign is taken with the zero behind it, and no fraction or exponent
follows the zero. -/
theorem cutSigned?_hexMark (hx : x = 'x' ∨ x = 'X') (s : List Char) :
    cutSigned? ('-' :: '0' :: x :: s) = some (['-', '0'], x :: s) := by
  rcases hx with rfl | rfl
  · rfl
  · rfl

namespace Cursor

variable {c : Cursor}

/-- A name is taken whole, by whatever rule takes it first. -/
theorem head?_lexemes_of_cutName? {w rest : List Char} (hmode : c.mode = .root)
    (hname : cutName? c.rest = some (w, rest)) :
    c.lexemes.head? = some ⟨wordKind c.before w rest, w⟩ := by
  obtain ⟨ch, t, hrest, hch, -⟩ := cutName?_eq_some.mp hname
  have hmatch := match?_of_root hmode hrest
  rw [Mode.rootRulesOn_of_isNameStart hch] at hmatch
  obtain ⟨b, hfn, hfirst⟩ := firstLexeme?_wordRules hname
  rw [ruleKind_eq_wordKind hfn] at hfirst
  exact head?_lexemes_of_firstLexeme? hmatch (by simp [hrest]) hfirst

theorem step?_minusZero (hmode : c.mode = .root) (hx : x = 'x' ∨ x = 'X')
    (hrest : c.rest = '-' :: '0' :: x :: s) :
    c.step? = some ⟨[⟨.float, ['-', '0']⟩], ⟨some '0', c.stack, x :: s⟩⟩ := by
  have hsigned := cutSigned?_hexMark hx s
  rw [← hrest] at hsigned
  obtain ⟨rules, hm⟩ := match?_of_number hmode hrest (Or.inl rfl)
  have hhex : Rule.hex.find? c.before c.rest = none := by
    rw [hrest]
    exact Rule.opensOn_hex _ _ _ rfl
  have hscientific : Rule.scientific.find? c.before c.rest = none := by
    rw [hrest]
    exact Rule.opensOn_scientific _ _ _ rfl
  -- The sign comes first, so the number does not continue a word.
  have hadmits : Guard.boundaryBeforeDigit.admits c.before ['-', '0'] (x :: s) = true :=
    (admits_boundaryBeforeDigit ['0'] (x :: s)).mpr fun h => absurd h (by decide)
  have hdecimal : Rule.decimal.find? c.before c.rest =
      some (.plain [⟨.float, ['-', '0']⟩] (x :: s) .stay) := by
    simp [Rule.decimal, Rule.guarded, hsigned, Option.filter_some, hadmits, lexemeOf]
  rw [firstMatch?_of_none _ hhex, firstMatch?_of_none _ hscientific,
    firstMatch?_of_some _ hdecimal (advancesBy_of_text_ne_nil (by simp))] at hm
  exact step?_of_plain (by simp [hrest]) hm

end Cursor

/-- **Where a hexadecimal number stays whole.** In root mode, a hexadecimal number
in front of the cursor is one token, with all its digits. With a minus sign in
front of it, the sign and the zero are a decimal number, and the next token is the
word that begins with the mark: it goes on behind the digits as far as a name
does, and has the kind of a word that follows a zero. -/
theorem hex_whole_or_cut {c : Cursor} (hmode : c.mode = .root) (hx : x = 'x' ∨ x = 'X')
    (hdigits : RunOf isHexDigit digits) (ht : t.head?.any isHexDigit = false) :
    (c.rest = '0' :: x :: (digits ++ t) →
        c.lexemes.head? = some ⟨.hex, '0' :: x :: digits⟩) ∧
      (c.rest = '-' :: '0' :: x :: (digits ++ t) →
        c.lexemes.take 2 = [⟨.float, ['-', '0']⟩,
          ⟨wordKind (some '0') (x :: (digits ++ t.takeWhile isWordChar)) (t.dropWhile isWordChar),
            x :: (digits ++ t.takeWhile isWordChar)⟩]) := by
  constructor
  · intro hrest
    have hscan := cutHex?_of_digits hx hdigits ht
    rw [← hrest] at hscan
    exact Cursor.head?_lexemes_of_hex hmode hscan
  · intro hrest
    have hword := Cursor.head?_lexemes_of_cutName?
      (c := ⟨some '0', c.stack, x :: (digits ++ t)⟩) hmode (cutName?_hexMark hx hdigits.2 t)
    obtain ⟨ls, hls⟩ := List.head?_eq_some_iff.mp hword
    rw [Cursor.lexemes_of_step? (Cursor.step?_minusZero hmode hx hrest), hls]
    rfl

/-- A hexadecimal number with a minus sign behind a name, and a letter behind its
digits. -/
theorem hex_whole_or_cut_subtrahend :
    (⟨some 'a', [.root], "-0XfFl;".toList⟩ : Cursor).mode = .root ∧
      RunOf isHexDigit "fF".toList ∧ "l;".toList.head?.any isHexDigit = false ∧
      (⟨some 'a', [.root], "-0XfFl;".toList⟩ : Cursor).lexemes.take 2 =
        [⟨.float, "-0".toList⟩, ⟨.name, "XfFl".toList⟩] := by
  have hdigits : RunOf isHexDigit "fF".toList := ⟨by simp, List.all_eq_true.mp (by decide)⟩
  have ht : "l;".toList.head?.any isHexDigit = false := by decide
  refine ⟨rfl, hdigits, ht, ?_⟩
  have hcut := (hex_whole_or_cut (c := ⟨some 'a', [.root], "-0XfFl;".toList⟩) rfl (Or.inr rfl)
    hdigits ht).2 rfl
  have hkind : wordKind (some '0') ('X' :: ("fF".toList ++ ['l'])) [';'] = .name := by
    rw [wordKind_eq]
    decide
  have htake : "l;".toList.takeWhile isWordChar = ['l'] := by decide
  have hdrop : "l;".toList.dropWhile isWordChar = [';'] := by decide
  rw [htake, hdrop, hkind] at hcut
  exact hcut

/-- A hexadecimal number behind a minus sign is cut behind its zero. -/
theorem minus_cuts_hex :
    ¬∀ (s : List Char) (c : Cursor) (sign digits t : List Char) (x : Char), Cursor.Reaches s c →
      c.mode = .root → sign = [] ∨ sign = ['-'] → x = 'x' ∨ x = 'X' → RunOf isHexDigit digits →
        t.head?.any isHexDigit = false → c.rest = sign ++ '0' :: x :: (digits ++ t) →
          ∃ ls l ms, c.lexemes = ls ++ l :: ms ∧ l.kind = .hex ∧
            ((ls = [] ∧ l.text = sign ++ '0' :: x :: digits) ∨
              (textOf ls = sign ∧ l.text = '0' :: x :: digits)) := by
  intro h
  have hdigits : RunOf isHexDigit ['1'] := ⟨by simp, List.all_eq_true.mp (by decide)⟩
  obtain ⟨ls, l, ms, hlexemes, hkind, hcases⟩ := h "-0x1".toList (Cursor.start "-0x1".toList) ['-']
    ['1'] [] 'x' ⟨[], .refl _⟩ rfl (Or.inr rfl) (Or.inl rfl) hdigits rfl rfl
  rw [Cursor.lexemes_of_step? (Cursor.step?_minusZero (x := 'x') (s := ['1']) rfl (Or.inl rfl) rfl)]
    at hlexemes
  cases ls with
  | nil =>
      obtain ⟨rfl, -⟩ := List.cons.inj hlexemes
      cases hkind
  | cons first ls =>
      -- The first lexeme is longer than the sign.
      obtain ⟨rfl, -⟩ := List.cons.inj hlexemes
      rcases hcases with ⟨hnil, -⟩ | ⟨hsign, -⟩
      · cases hnil
      · simp at hsign

end GaussMarkup
