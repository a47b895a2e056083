import Mathlib.Data.List.TakeWhile
import GaussMarkup.Proofs.Lexer.DirectiveStart

/-!
# What an include takes

Behind the word `include` the lexer passes a lead, and takes the rest of the line
in which the lead ends for the name of a file (`findInclude?_eq_some`). A comment
belongs to the lead if it ends in its own line and something other than line feeds
follows; it ends at its first end mark then. Blanks may hold line feeds, so the
file need not stand in the line of the word.

Where nothing but blanks is left to the end of the text, the last of them that is no
line feed is taken for the file. Where nothing but line feeds is left, there is no
include.
-/

namespace GaussMarkup

/-- What is left behind a lead: the name of a file up to the end of its line. It
begins with no blank, unless it is the last blank of the text. -/
structure NamesFile (file rest : List Char) : Prop where
  inLine : '\n' ∉ file
  toEnd : rest = [] ∨ rest.head? = some '\n'
  opens : (∃ ch t, file = ch :: t ∧ isBlank ch = false) ∨
    ∃ ch, file = [ch] ∧ isBlank ch = true ∧ ∀ d ∈ rest, d = '\n'

/-- How a text is divided into a lead, the name of a file and the rest. -/
inductive Includes : List Char → List Char → List Char → Prop
  | behindBlanks {w file rest : List Char} :
      Blanks w → NamesFile file rest →
        (∀ q z, file ++ rest = q ++ z → LeadComment q → '\n' ∉ q → ∀ d ∈ z, d = '\n') →
          Includes w file rest
  | behindComment {w q v file rest : List Char} :
      Blanks w → ClosedComment q → '\n' ∉ q → Blanks v → NamesFile file rest →
        Includes (w ++ q ++ v) file rest

variable {s t p q v w lead file rest feeds : List Char} {ch : Char}

/-! ## Comments in the lead -/

theorem ClosedComment.leadComment (h : ClosedComment q) : LeadComment q :=
  h.imp Shortest.holds Shortest.holds

/-- Every comment of a lead begins with one that ends at its first end mark. -/
theorem LeadComment.exists_closed (h : LeadComment q) : ∃ p, p <+: q ∧ ClosedComment p := by
  rcases h with hslash | hat
  · obtain ⟨p, hp⟩ := exists_shortest (List.prefix_refl q) hslash
    exact ⟨p, hp.front, Or.inl (hp.of_front hp.front (List.prefix_refl p) hp.holds)⟩
  · obtain ⟨p, hp⟩ := exists_shortest (List.prefix_refl q) hat
    exact ⟨p, hp.front, Or.inr (hp.of_front hp.front (List.prefix_refl p) hp.holds)⟩

/-- The comment of a lead does not end in a blank. -/
theorem LeadComment.exists_concat (h : LeadComment q) :
    ∃ t ch, q = t ++ [ch] ∧ isBlank ch = false := by
  rcases h with ⟨body, closer, hcloser, rfl⟩ | ⟨body, closer, hcloser, rfl⟩
  · obtain rfl := List.mem_singleton.mp hcloser
    exact ⟨['/', '*'] ++ body ++ ['*'], '/', by simp, by decide⟩
  · obtain rfl := List.mem_singleton.mp hcloser
    exact ⟨['@'] ++ body, '@', rfl, by decide⟩

theorem ne_lineFeed (hch : isBlank ch = false) : ch ≠ '\n' := by
  rintro rfl
  cases hch

/-- The nearest place behind a mark is where the scan for the mark ends. -/
theorem head?_restsBehind {mark : List Char} (hne : mark ≠ []) {x : Cut}
    (h : cutThrough? (cutMark? mark) s = some x) (hfeed : '\n' ∉ x.1) :
    (restsBehind mark s).head? = some x.2 := by
  induction s generalizing x with
  | nil =>
      obtain ⟨hx, hs⟩ := cutMark?_eq_some.mp h
      exact absurd (List.append_eq_nil_iff.mp hs.symm).1 hne
  | cons c s ih =>
      simp only [cutThrough?] at h
      split at h
      · next y hmark =>
        obtain rfl := Option.some.inj h
        obtain ⟨hx, hs⟩ := cutMark?_eq_some.mp hmark
        rw [hx] at hfeed
        obtain ⟨d, mark, rfl⟩ := List.exists_cons_of_ne_nil hne
        obtain ⟨rfl, rfl⟩ := List.cons.inj hs
        rw [List.mem_cons, not_or] at hfeed
        simp [restsBehind, Ne.symm hfeed.1]
      · next hmark =>
        obtain ⟨y, hy, rfl⟩ := Option.map_eq_some_iff.mp h
        rw [List.mem_cons, not_or] at hfeed
        have hopens : ¬mark.isPrefixOf (c :: s) = true := by
          simpa [cutMark?] using hmark
        rw [restsBehind, if_neg (Ne.symm hfeed.1), if_neg hopens]
        exact ih (x := y) hy hfeed.2

theorem head?_restsBehind_append {opener mark : List Char}
    (hmarks : TakesMarks (cutMark? mark) [mark]) (hne : mark ≠ [])
    (h : Shortest (Encloses opener [mark]) (opener ++ t) (opener ++ t)) (hfeed : '\n' ∉ t)
    (s : List Char) : (restsBehind mark (t ++ s)).head? = some s := by
  have hshort := h.append_right s
  rw [List.append_assoc] at hshort
  obtain ⟨x, hend, hx⟩ := hmarks.exists_cutThrough? hshort
  obtain rfl := List.append_cancel_left hx
  have hs := List.append_cancel_left (joins_cutThrough? (joins_cutMark? _) hend)
  rw [head?_restsBehind hne hend hfeed, hs]

theorem head?_restsBehindComment (h : ClosedComment q) (hfeed : '\n' ∉ q) (s : List Char) :
    (restsBehindComment (q ++ s)).head? = some s := by
  rcases h with hslash | hat
  · obtain ⟨t, rfl⟩ := hslash.holds.opens
    have ht : '\n' ∉ t := fun hmem => hfeed (List.mem_append_right _ hmem)
    exact head?_restsBehind_append takesMarks_starSlash (by simp) hslash ht s
  · obtain ⟨t, rfl⟩ := hat.holds.opens
    have ht : '\n' ∉ t := fun hmem => hfeed (List.mem_append_right _ hmem)
    exact head?_restsBehind_append (takesMarks_sign '@') (by simp) hat ht s

/-! ## The end of the text -/

/-- A text is cut at its last character that is no line feed. -/
theorem exists_lastChar (h : ∃ d ∈ s, d ≠ '\n') :
    ∃ lead ch feeds, s = lead ++ ch :: feeds ∧ ch ≠ '\n' ∧ ∀ d ∈ feeds, d = '\n' := by
  induction s with
  | nil =>
      obtain ⟨d, hd, -⟩ := h
      cases hd
  | cons c s ih =>
      by_cases hs : ∃ d ∈ s, d ≠ '\n'
      · obtain ⟨lead, ch, feeds, rfl, hch, hfeeds⟩ := ih hs
        exact ⟨c :: lead, ch, feeds, rfl, hch, hfeeds⟩
      · have hfeeds : ∀ d ∈ s, d = '\n' := fun d hd => by_contra fun hne => hs ⟨d, hd, hne⟩
        obtain ⟨d, hd, hne⟩ := h
        rcases List.mem_cons.mp hd with rfl | hd
        · exact ⟨[], d, s, rfl, hne, hfeeds⟩
        · exact absurd (hfeeds d hd) hne

theorem blanks_of_lineFeeds (h : ∀ d ∈ feeds, d = '\n') : Blanks feeds := by
  intro d hd
  rw [h d hd]
  decide

theorem blanks_lastChar (hw : Blanks w) (hch : isBlank ch = true)
    (h : ∀ d ∈ feeds, d = '\n') : Blanks (w ++ ([ch] ++ feeds)) := by
  refine List.forall_mem_append.mpr ⟨hw, List.forall_mem_append.mpr ⟨?_, ?_⟩⟩
  · exact List.forall_mem_singleton.mpr hch
  · exact blanks_of_lineFeeds h

theorem dropWhile_of_blanks (hw : Blanks w) : w.dropWhile isBlank = [] :=
  List.dropWhile_eq_nil_iff.mpr hw

theorem cutBefore_nil (s : List Char) : cutBefore [] s = (s, []) := by
  simp [cutBefore]

theorem giveBack?_lineFeeds (h : ∀ d ∈ feeds, d = '\n') : giveBack? (feeds, []) = none := by
  have hdrop : feeds.reverse.dropWhile (· == '\n') = [] := by
    rw [List.dropWhile_eq_nil_iff]
    intro d hd
    exact beq_iff_eq.mpr (h d (List.mem_reverse.mp hd))
  simp [giveBack?, hdrop]

theorem giveBack?_end (hch : ch ≠ '\n') (h : ∀ d ∈ feeds, d = '\n') (lead : List Char) :
    giveBack? (lead ++ ch :: feeds, []) =
      if isBlank ch then some (lead, ch :: feeds) else none := by
  have hfeeds : ∀ d ∈ feeds.reverse, (d == '\n') = true :=
    fun d hd => beq_iff_eq.mpr (h d (List.mem_reverse.mp hd))
  have hreverse : (lead ++ ch :: feeds).reverse = feeds.reverse ++ ch :: lead.reverse := by simp
  have hdrop : (lead ++ ch :: feeds).reverse.dropWhile (· == '\n') = ch :: lead.reverse := by
    rw [hreverse, List.dropWhile_append_of_pos hfeeds, List.dropWhile_cons_of_neg (by simp [hch])]
  have htake : (lead ++ ch :: feeds).reverse.takeWhile (· == '\n') = feeds.reverse := by
    rw [hreverse, List.takeWhile_append_of_pos hfeeds, List.takeWhile_cons_of_neg (by simp [hch]),
      List.append_nil]
  simp only [giveBack?, if_true, hdrop, htake, List.reverse_reverse]

/-! ## Files -/

namespace NamesFile

theorem ne_nil (h : NamesFile file rest) : file ≠ [] := by
  rcases h.opens with ⟨ch, t, rfl, -⟩ | ⟨ch, rfl, -⟩
  · exact List.cons_ne_nil _ _
  · exact List.cons_ne_nil _ _

theorem takeWhile_append (h : NamesFile file rest) :
    (file ++ rest).takeWhile (· != '\n') = file ∧ (file ++ rest).dropWhile (· != '\n') = rest := by
  have hfile : ∀ d ∈ file, (d != '\n') = true := by
    rintro d hd
    exact bne_iff_ne.mpr fun hfeed => h.inLine (hfeed ▸ hd)
  rw [List.takeWhile_append_of_pos hfile, List.dropWhile_append_of_pos hfile]
  rcases h.toEnd with rfl | hhead
  · simp
  · obtain ⟨d, t⟩ := rest
    · cases hhead
    · obtain rfl := Option.some.inj hhead
      simp

/-- Every text with something else than line feeds in it holds a file. -/
theorem exists_of_mem (h : ∃ d ∈ s, d ≠ '\n') :
    ∃ v file rest, s = v ++ (file ++ rest) ∧ Blanks v ∧ NamesFile file rest := by
  have hsplit := List.takeWhile_append_dropWhile (p := isBlank) (l := s)
  cases hdrop : s.dropWhile isBlank with
  | nil =>
      rw [hdrop, List.append_nil] at hsplit
      have hs := hsplit ▸ blanks_takeWhile s
      obtain ⟨v, ch, feeds, rfl, hch, hfeeds⟩ := exists_lastChar h
      obtain ⟨hv, hblank⟩ := List.forall_mem_append.mp hs
      refine ⟨v, [ch], feeds, rfl, hv, by simpa using Ne.symm hch, ?_, ?_⟩
      · cases feeds with
        | nil => exact Or.inl rfl
        | cons d feeds => exact Or.inr (congrArg some (hfeeds d (List.mem_cons_self ..)))
      · exact Or.inr ⟨ch, rfl, hblank ch (List.mem_cons_self ..), hfeeds⟩
  | cons ch t =>
      have hch := List.head?_dropWhile_not isBlank s
      simp only [hdrop, List.head?_cons] at hch
      have hline := List.takeWhile_append_dropWhile (p := (· != '\n')) (l := ch :: t)
      refine ⟨s.takeWhile isBlank, (ch :: t).takeWhile (· != '\n'),
        (ch :: t).dropWhile (· != '\n'), ?_, blanks_takeWhile s, ?_, ?_, ?_⟩
      · rw [hline, ← hdrop, hsplit]
      · intro hmem
        have hfeed := List.all_eq_true.mp List.all_takeWhile _ hmem
        simp at hfeed
      · have hhead := List.head?_dropWhile_not (· != '\n') (ch :: t)
        cases hend : (ch :: t).dropWhile (· != '\n') with
        | nil => exact Or.inl rfl
        | cons d u =>
            simp only [hend, List.head?_cons, bne_eq_false_iff_eq] at hhead
            exact Or.inr (congrArg some hhead)
      · exact Or.inl ⟨ch, t.takeWhile (· != '\n'), by simp [ne_lineFeed hch], hch⟩

/-- Behind a lead, the blanks up to the file are part of the lead. -/
theorem giveBack?_cutBefore (h : NamesFile file rest) (hv : Blanks v) (p : List Char) :
    giveBack? (cutBefore ((v ++ (file ++ rest)).dropWhile isBlank) (p ++ v ++ (file ++ rest))) =
      some (p ++ v, file ++ rest) := by
  have hcut : cutBefore (file ++ rest) (p ++ v ++ (file ++ rest)) = (p ++ v, file ++ rest) :=
    Prod.ext (cutBefore_append _ _) rfl
  rcases h.opens with ⟨ch, t, rfl, hch⟩ | ⟨ch, rfl, hch, hfeeds⟩
  · rw [List.cons_append, dropWhile_blanks hv hch, ← List.cons_append, hcut]
    simp [giveBack?]
  · have hne : ch ≠ '\n' := by simpa using Ne.symm (List.ne_of_not_mem_cons h.inLine)
    rw [dropWhile_of_blanks (blanks_lastChar hv hch hfeeds), cutBefore_nil, List.singleton_append,
      giveBack?_end hne hfeeds, if_pos hch]

end NamesFile

/-! ## Where the lead ends -/

/-- Cuts the text behind the word `include` behind its lead. -/
def cutLead? (s : List Char) : Option Cut :=
  (restsBehindLead s).findSome? fun rest => giveBack? (cutBefore rest s)

/-- Of a comment with nothing but line feeds behind it, nothing is given back. -/
theorem giveBack?_cutBefore_comment (hq : LeadComment q) (hfeeds : ∀ d ∈ feeds, d = '\n')
    (w : List Char) :
    giveBack? (cutBefore (feeds.dropWhile isBlank) (w ++ (q ++ feeds))) = none := by
  obtain ⟨t, ch, rfl, hch⟩ := hq.exists_concat
  have hsplit : w ++ (t ++ [ch] ++ feeds) = (w ++ t) ++ ch :: feeds := by simp
  rw [dropWhile_of_blanks (blanks_of_lineFeeds hfeeds), cutBefore_nil, hsplit,
    giveBack?_end (ne_lineFeed hch) hfeeds, if_neg (by simp [hch])]

theorem cutLead?_of_includes (h : Includes lead file rest) :
    cutLead? (lead ++ (file ++ rest)) = some (lead, file ++ rest) := by
  cases h with
  | behindBlanks hw hfile hcomment =>
      have hnone : ∀ r ∈ (restsBehindComment ((lead ++ (file ++ rest)).dropWhile isBlank)).map
          (·.dropWhile isBlank), giveBack? (cutBefore r (lead ++ (file ++ rest))) = none := by
        intro r hr
        obtain ⟨y, hy, rfl⟩ := List.mem_map.mp hr
        obtain ⟨q, hfeed, hq, hs⟩ := mem_restsBehindComment_iff.mp hy
        obtain ⟨d, u, hd, hblank, -⟩ := hq.exists_cons
        rcases hfile.opens with ⟨ch, t, rfl, hch⟩ | ⟨ch, rfl, hch, hfeeds⟩
        · rw [List.cons_append, dropWhile_blanks hw hch, ← List.cons_append] at hs
          rw [hs]
          exact giveBack?_cutBefore_comment hq (hcomment q y hs hq hfeed) lead
        · -- Nothing but blanks is left, so there is no comment.
          rw [dropWhile_of_blanks (blanks_lastChar hw hch hfeeds), hd] at hs
          cases hs
      rw [cutLead?, restsBehindLead, List.findSome?_append, List.findSome?_eq_none_iff.mpr hnone]
      simpa using hfile.giveBack?_cutBefore hw []
  | @behindComment w q v _ _ hw hq hfeed hv hfile =>
      obtain ⟨ch, t, rfl, hch, -⟩ := hq.leadComment.exists_cons
      have hdrop : (w ++ (ch :: t) ++ v ++ (file ++ rest)).dropWhile isBlank =
          (ch :: t) ++ (v ++ (file ++ rest)) := by
        simpa using dropWhile_blanks hw hch (t ++ (v ++ (file ++ rest)))
      obtain ⟨more, hrests⟩ := List.head?_eq_some_iff.mp
        (head?_restsBehindComment hq hfeed (v ++ (file ++ rest)))
      rw [cutLead?, restsBehindLead, hdrop, hrests, List.map_cons, List.cons_append,
        List.findSome?_cons, hfile.giveBack?_cutBefore hv]

/-- Where anything else than line feeds is left, there is a lead with a file behind it. -/
theorem exists_includes (h : ∃ d ∈ s, d ≠ '\n') :
    ∃ lead file rest, s = lead ++ (file ++ rest) ∧ Includes lead file rest := by
  by_cases hcomment : ∃ w q z, s = w ++ (q ++ z) ∧ Blanks w ∧ LeadComment q ∧ '\n' ∉ q ∧
      ∃ d ∈ z, d ≠ '\n'
  · obtain ⟨w, q, z, rfl, hw, hq, hfeed, d, hd, hne⟩ := hcomment
    obtain ⟨p, ⟨u, rfl⟩, hp⟩ := hq.exists_closed
    obtain ⟨v, file, rest, hz, hv, hfile⟩ :=
      NamesFile.exists_of_mem (s := u ++ z) ⟨d, List.mem_append_right u hd, hne⟩
    have hfeed' : '\n' ∉ p := fun hmem => hfeed (List.mem_append_left u hmem)
    refine ⟨w ++ p ++ v, file, rest, ?_, .behindComment hw hp hfeed' hv hfile⟩
    rw [List.append_assoc p, hz]
    simp
  · obtain ⟨w, file, rest, rfl, hw, hfile⟩ := NamesFile.exists_of_mem h
    refine ⟨w, file, rest, rfl, .behindBlanks hw hfile fun q z hz hq hfeed d hd => ?_⟩
    by_contra hne
    exact hcomment ⟨w, q, z, congrArg (w ++ ·) hz, hw, hq, hfeed, d, hd, hne⟩

theorem cutLead?_lineFeeds (h : ∀ d ∈ feeds, d = '\n') : cutLead? feeds = none := by
  have hdrop := dropWhile_of_blanks (blanks_of_lineFeeds h)
  simp [cutLead?, restsBehindLead, hdrop, restsBehindComment, cutBefore_nil, giveBack?_lineFeeds h]

theorem cutLead?_eq_some {x : Cut} :
    cutLead? s = some x ↔
      ∃ file rest, s = x.1 ++ (file ++ rest) ∧ x.2 = file ++ rest ∧ Includes x.1 file rest := by
  constructor
  · intro h
    have hmem : ∃ d ∈ s, d ≠ '\n' := by
      by_contra hnone
      simp only [not_exists, not_and, not_not] at hnone
      rw [cutLead?_lineFeeds hnone] at h
      cases h
    obtain ⟨lead, file, rest, rfl, hincludes⟩ := exists_includes hmem
    obtain rfl := Option.some.inj ((cutLead?_of_includes hincludes).symm.trans h)
    exact ⟨file, rest, rfl, rfl, hincludes⟩
  · rintro ⟨file, rest, rfl, hx, hincludes⟩
    rw [cutLead?_of_includes hincludes, ← hx]

/-! ## Includes -/

theorem Includes.namesFile (h : Includes lead file rest) : NamesFile file rest := by
  cases h with
  | behindBlanks _ hfile _ => exact hfile
  | behindComment _ _ _ _ hfile => exact hfile

theorem findInclude?_eq_some {m : Match} :
    findInclude? s = some m ↔ ∃ word lead file rest, word.map fold = "include".toList ∧
      s = word ++ (lead ++ (file ++ rest)) ∧ Includes lead file rest ∧
        m = .plain (lexemeOf .directive word ++ lexemeOf .text lead ++
          lexemeOf .directiveFile file) rest .stay := by
  constructor
  · intro h
    obtain ⟨word, hword, h⟩ := Option.bind_eq_some_iff.mp h
    obtain ⟨lead, hlead, rfl⟩ := Option.map_eq_some_iff.mp h
    obtain ⟨hmark, rfl⟩ := cutWord?_eq_some.mp hword
    obtain ⟨file, rest, hs, hback, hincludes⟩ := cutLead?_eq_some.mp hlead
    obtain ⟨htake, hdrop⟩ := hincludes.namesFile.takeWhile_append
    rw [hback, htake, hdrop]
    exact ⟨word.1, lead.1, file, rest, hmark, congrArg (word.1 ++ ·) hs, hincludes, rfl⟩
  · rintro ⟨word, lead, file, rest, hword, rfl, hincludes, rfl⟩
    have hcut : cutWord? "include".toList (word ++ (lead ++ (file ++ rest))) =
        some (word, lead ++ (file ++ rest)) := cutWord?_eq_some.mpr ⟨hword, rfl⟩
    obtain ⟨htake, hdrop⟩ := hincludes.namesFile.takeWhile_append
    have hlead := cutLead?_of_includes hincludes
    rw [cutLead?] at hlead
    simp only [findInclude?, hcut, Option.bind_some, hlead, Option.map_some, htake, hdrop]

end GaussMarkup
