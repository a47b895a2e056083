import GaussMarkup.Language.Registry
import GaussMarkup.Proofs.Decimal.Binary
import Mathlib.Data.List.Induction

/-!
# Guessing a language from a text

The guess is kept up to date language by language: a later one takes the place of the
best so far if its confidence is greater. So the guess is the first language with the
greatest confidence, as long as the best so far can be compared at all. A confidence
that is no number exceeds nothing, and nothing exceeds it. Behind another opinion it is
passed over, but as the first opinion it is never given up again (`Guessed`).
-/

namespace GaussMarkup

open LanguageRegistry

/-- The opinion of a language on a text, brought between zero and one. -/
def Language.confidence? (l : Language) (text : List Char) : Option Score :=
  (l.score? text).map (·.clamp hopeless certain)

/-- The first of some languages that has an opinion on a text, with its score. -/
def firstOpinion? (text : List Char) (ls : List Language) : Option (Language × Score) :=
  ls.findSome? fun l => (l.score? text).map (l, ·)

/-- A language is the first of those with the greatest confidence in a text. A
confidence that is no number does not count. -/
def FirstBest (text : List Char) (ls : List Language) (l : Language) (score : Score) : Prop :=
  score ≠ .nan ∧ l.confidence? text = some score ∧
    ∃ front behind, ls = front ++ l :: behind ∧
      (∀ m ∈ front, ∀ s ∈ m.confidence? text, s ≠ .nan → s.lt score = true) ∧
      ∀ m ∈ behind, ∀ s ∈ m.confidence? text, score.lt s = false

variable {text : List Char} {ls : List Language} {l m : Language} {score s : Score}

/-! ## Confidence -/

theorem certain_eq : certain = .finite false (Nat.pow 2 binary32.scale) := by
  decide +kernel

theorem clamp_score_eq_nan : score.clamp hopeless certain = .nan ↔ score = .nan :=
  Binary.clamp_eq_nan (by simp [hopeless]) (by simp [certain_eq])

theorem better_of_none (h : l.score? text = none) (best : Option (Language × Score)) :
    better text best l = best := by
  simp [better, h]

theorem better_none (h : l.confidence? text = some score) :
    better text none l = some (l, score) := by
  obtain ⟨raw, hraw, rfl⟩ := Option.map_eq_some_iff.mp h
  simp [better, hraw]

theorem better_some (h : l.confidence? text = some score) (m : Language) (top : Score) :
    better text (some (m, top)) l = if top.lt score then some (l, score) else some (m, top) := by
  obtain ⟨raw, hraw, rfl⟩ := Option.map_eq_some_iff.mp h
  simp [better, hraw]

theorem firstOpinion?_concat (text : List Char) (ls : List Language) (l : Language) :
    firstOpinion? text (ls ++ [l]) = (firstOpinion? text ls).or ((l.score? text).map (l, ·)) := by
  rw [firstOpinion?, List.findSome?_append, List.findSome?_singleton]
  rfl

theorem firstOpinion?_eq_none :
    firstOpinion? text ls = none ↔ ∀ l ∈ ls, l.score? text = none := by
  simp [firstOpinion?]

/-! ## The best of some languages -/

/-- Of two best languages, none stands in front of the other. -/
theorem eq_of_best {behind between behind' : List Language}
    (hcons : l :: behind = between ++ m :: behind') (hscore : score ≠ .nan)
    (hl : l.confidence? text = some score) (hm : m.confidence? text = some s)
    (hbehind : ∀ n ∈ behind, ∀ t ∈ n.confidence? text, score.lt t = false)
    (hfront : ∀ n ∈ between, ∀ t ∈ n.confidence? text, t ≠ .nan → t.lt s = true) : l = m := by
  cases between with
  | nil => exact (List.cons.inj hcons).1
  | cons n between =>
      obtain ⟨rfl, rfl⟩ := List.cons.inj hcons
      have hless := hfront l List.mem_cons_self score hl hscore
      rw [hbehind m (by simp) s hm] at hless
      cases hless

/-- There is only one first best language. -/
theorem FirstBest.unique (hl : FirstBest text ls l score) (hm : FirstBest text ls m s) : l = m := by
  obtain ⟨hscore, hl, front, behind, hls, hfront, hbehind⟩ := hl
  obtain ⟨hs, hm, front', behind', hls', hfront', hbehind'⟩ := hm
  rcases List.append_eq_append_iff.mp (hls.symm.trans hls') with
    ⟨between, rfl, hcons⟩ | ⟨between, rfl, hcons⟩
  · exact eq_of_best hcons hscore hl hm hbehind fun n hn => hfront' n (by simp [hn])
  · exact (eq_of_best hcons hs hm hl hbehind' fun n hn => hfront n (by simp [hn])).symm

theorem FirstBest.concat_of_lt (h : FirstBest text ls m s) (hl : l.confidence? text = some score)
    (hlt : s.lt score = true) : FirstBest text (ls ++ [l]) l score := by
  obtain ⟨hs, hm, front, behind, rfl, hfront, hbehind⟩ := h
  refine ⟨(Binary.ne_nan_of_lt hlt).2, hl, front ++ m :: behind, [], rfl, ?_, by simp⟩
  intro n hn t ht hnum
  rcases List.mem_append.mp hn with hn | hn
  · exact Binary.lt_trans (hfront n hn t ht hnum) hlt
  · rcases List.mem_cons.mp hn with rfl | hn
    · obtain rfl := Option.mem_unique ht hm
      exact hlt
    · -- What is not above the old best is below whatever is.
      refine (Binary.lt_or_lt hlt hnum).resolve_left ?_
      rw [hbehind n hn t ht]
      exact Bool.false_ne_true

theorem FirstBest.concat_of_not_lt (h : FirstBest text ls m s)
    (hl : ∀ score ∈ l.confidence? text, s.lt score = false) : FirstBest text (ls ++ [l]) m s := by
  obtain ⟨hs, hm, front, behind, rfl, hfront, hbehind⟩ := h
  refine ⟨hs, hm, front, behind ++ [l], by simp, hfront, ?_⟩
  intro n hn t ht
  rcases List.mem_append.mp hn with hn | hn
  · exact hbehind n hn t ht
  · obtain rfl := List.mem_singleton.mp hn
    exact hl t ht

/-! ## Languages one after the other -/

/-- What the best opinion of some languages is. -/
inductive Guessed (text : List Char) (ls : List Language) : Option (Language × Score) → Prop
  | nobody : firstOpinion? text ls = none → Guessed text ls none
  | hidden {l : Language} :
      firstOpinion? text ls = some (l, .nan) → Guessed text ls (some (l, .nan))
  | best {m l : Language} {t score : Score} :
      firstOpinion? text ls = some (m, t) → t ≠ .nan → FirstBest text ls l score →
        Guessed text ls (some (l, score))

theorem Guessed.better {best : Option (Language × Score)} (h : Guessed text ls best)
    (l : Language) : Guessed text (ls ++ [l]) (better text best l) := by
  have hfirst := firstOpinion?_concat text ls l
  cases hraw : l.score? text with
  | none =>
      have hnone : l.confidence? text = none := by rw [Language.confidence?, hraw, Option.map_none]
      rw [hraw, Option.map_none, Option.or_none] at hfirst
      rw [better_of_none hraw]
      cases h with
      | nobody hnobody => exact .nobody (hfirst.trans hnobody)
      | hidden hhidden => exact .hidden (hfirst.trans hhidden)
      | best hopinion hnum hbest =>
          exact .best (hfirst.trans hopinion) hnum (hbest.concat_of_not_lt (by simp [hnone]))
  | some raw =>
      have hl : l.confidence? text = some (raw.clamp hopeless certain) := by
        rw [Language.confidence?, hraw, Option.map_some]
      rw [hraw, Option.map_some] at hfirst
      cases h with
      | nobody hnobody =>
          rw [hnobody, Option.none_or] at hfirst
          rw [better_none hl]
          by_cases hnum : raw = .nan
          · rw [clamp_score_eq_nan.mpr hnum]
            rw [hnum] at hfirst
            exact .hidden hfirst
          · refine .best hfirst hnum ⟨mt clamp_score_eq_nan.mp hnum, hl, ls, [], rfl, ?_, by simp⟩
            intro m hm s hs
            rw [Language.confidence?, firstOpinion?_eq_none.mp hnobody m hm] at hs
            cases hs
      | @hidden m hhidden =>
          -- Nothing exceeds what is no number.
          rw [hhidden, Option.some_or] at hfirst
          rw [better_some hl, Binary.nan_lt, if_neg Bool.false_ne_true]
          exact .hidden hfirst
      | @best first m t top hopinion hnum hbest =>
          rw [hopinion, Option.some_or] at hfirst
          rw [better_some hl]
          split
          · next hlt => exact .best hfirst hnum (hbest.concat_of_lt hl hlt)
          · next hlt =>
            refine .best hfirst hnum (hbest.concat_of_not_lt fun s hs => ?_)
            obtain rfl := Option.some.inj (hl.symm.trans hs)
            exact Bool.eq_false_iff.mpr hlt

theorem guessed_foldl (text : List Char) (ls : List Language) :
    Guessed text ls (ls.foldl (better text) none) := by
  induction ls using List.reverseRecOn with
  | nil => exact .nobody rfl
  | append_singleton ls l ih =>
      rw [List.foldl_append]
      exact ih.better l

/-- **The guess is the first best language, unless the first opinion is no number.**
There is no guess just where no language has an opinion. Where the first language with
an opinion gives a score that is no number, it is the guess, whatever the others say.
Otherwise the guess is the first of the languages whose scores, brought between zero
and one, are greatest. -/
theorem guess_picks_first_best (r : LanguageRegistry) (text : List Char) :
    (r.guess text = none ↔ ∀ l ∈ r.languages, l.score? text = none) ∧
      ∀ l, r.guess text = some l ↔
        firstOpinion? text r.languages = some (l, .nan) ∨
          (∃ m t, firstOpinion? text r.languages = some (m, t) ∧ t ≠ .nan) ∧
            ∃ score, FirstBest text r.languages l score := by
  have hguessed := guessed_foldl text r.languages
  rw [← firstOpinion?_eq_none, guess]
  generalize r.languages.foldl (better text) none = best at hguessed
  cases hguessed with
  | nobody hnobody => simp [hnobody]
  | @hidden l hhidden =>
      refine ⟨by simp [hhidden], fun m => ?_⟩
      simp only [hhidden, Option.map_some, Option.some.injEq, Prod.mk.injEq, and_true]
      refine ⟨Or.inl, fun h => h.resolve_right ?_⟩
      rintro ⟨⟨_, _, ⟨-, rfl⟩, hnum⟩, -⟩
      exact hnum rfl
  | @best first l t score hopinion hnum hbest =>
      refine ⟨by simp [hopinion], fun m => ?_⟩
      rw [Option.map_some, Option.some.injEq]
      constructor
      · rintro rfl
        exact Or.inr ⟨⟨first, t, hopinion, hnum⟩, score, hbest⟩
      · rintro (hhidden | ⟨-, _, hm⟩)
        · obtain ⟨-, rfl⟩ := Prod.mk.inj (Option.some.inj (hopinion.symm.trans hhidden))
          exact absurd rfl hnum
        · exact hbest.unique hm

/-- A language without a number for a score hides plain text behind it. -/
theorem nan_hides_number :
    let odd : Language := { name := "odd".toList, score? := fun _ => some .nan,
                            lexemes := lexemeOf .name }
    (∃ score, FirstBest "hello".toList [odd, .plainText] .plainText score) ∧
      (⟨[odd, .plainText]⟩ : LanguageRegistry).guess "hello".toList = some odd ∧
      odd.name ≠ Language.plainText.name := by
  intro odd
  have hodd : odd.confidence? "hello".toList = some .nan :=
    congrArg some (clamp_score_eq_nan.mpr rfl)
  refine ⟨⟨(Score.ofDecimal false 1 (-2)).clamp hopeless certain, ?_, rfl, [odd], [], rfl, ?_,
    by simp⟩, ?_, by decide⟩
  · decide +kernel
  · intro m hm s hs hnum
    obtain rfl := List.mem_singleton.mp hm
    exact absurd (Option.mem_unique hs hodd) hnum
  · have hplain : Language.plainText.confidence? "hello".toList = some _ := rfl
    rw [guess, List.foldl_cons, List.foldl_cons, List.foldl_nil, better_none hodd,
      better_some hplain, Binary.nan_lt, if_neg Bool.false_ne_true, Option.map_some]

end GaussMarkup
