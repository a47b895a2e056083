import GaussMarkup.Proofs.Lexer.Matches
import GaussMarkup.Proofs.Lexer.Stream

/-!
# Tokens cover their source

The places of tokens can be had in two ways. The lexer advances by what a match
covers, gives each token the place where its text was found, and sets an
embedded run to work at the place of its text (`Cursor.tokensFrom`). `locate`
knows nothing of matches and puts each lexeme where the one before it ends. The
two agree because every match covers exactly what it produces
(`tokensFrom_eq_locate`), and so tokens tile their source, `Tiles`: there are no
empty ones, no gaps, no overlaps, and no token cuts a character in two. The same
tokens are handed out one by one by a stream (`next_after_fresh`).
-/

namespace GaussMarkup

/-! ## Places in a text -/

theorem size_utf8Encode (s : List Char) : s.utf8Encode.size = byteSize s := by
  induction s with
  | nil => simp
  | cons c s ih =>
      rw [List.utf8Encode_cons, ByteArray.size_append, ih, byteSize_cons]
      simp [List.utf8Encode_singleton, ByteArray.size]

/-- At the place `n` of a text that begins at place `offset`, a character
begins or the text ends. -/
def OnBoundary (offset : Nat) (s : List Char) (n : Nat) : Prop :=
  offset ≤ n ∧ (String.Pos.Raw.mk (n - offset)).IsValid (String.ofList s)

/-- The bytes between two places of a text that begins at place `offset`. -/
def bytesBetween (offset : Nat) (s : List Char) (first last : Nat) : ByteArray :=
  (String.ofList s).toByteArray.extract (first - offset) (last - offset)

theorem onBoundary_append (offset : Nat) (s t : List Char) :
    OnBoundary offset (s ++ t) (offset + byteSize s) := by
  refine ⟨Nat.le_add_right .., ?_⟩
  rw [String.Pos.Raw.isValid_iff_exists_append]
  refine ⟨String.ofList s, String.ofList t, String.ofList_append, ?_⟩
  ext
  have hsize : (String.ofList s).utf8ByteSize = byteSize s := by
    rw [← String.size_toByteArray, String.toByteArray_ofList, size_utf8Encode]
  show offset + byteSize s - offset = (String.ofList s).utf8ByteSize
  omega

theorem bytesBetween_append (offset : Nat) (s t u : List Char) :
    bytesBetween offset (s ++ (t ++ u)) (offset + byteSize s)
      (offset + byteSize s + byteSize t) = (String.ofList t).toByteArray := by
  have hfirst : offset + byteSize s - offset = s.utf8Encode.size + 0 := by
    rw [size_utf8Encode]
    omega
  have hlast : offset + byteSize s + byteSize t - offset =
      s.utf8Encode.size + t.utf8Encode.size := by
    rw [size_utf8Encode, size_utf8Encode]
    omega
  rw [bytesBetween, hfirst, hlast, String.toByteArray_ofList, String.toByteArray_ofList,
    List.utf8Encode_append, ByteArray.extract_append_size_add, List.utf8Encode_append,
    ByteArray.extract_append_eq_left rfl]

/-! ## Laying out lexemes -/

/-- Tokens that stand one behind the other, from place `first` up to place
`last`. -/
def LaidOut : (first : Nat) → List Token → (last : Nat) → Prop
  | first, [], last => first = last
  | first, t :: ts, last => t.start = first ∧ LaidOut t.stop ts last

/-- Tokens that cut up the text `s`, whose first byte has the place `offset`. -/
structure Tiles (offset : Nat) (s : List Char) (ts : List Token) : Prop where
  text_ne_nil : ∀ t ∈ ts, t.text ≠ []
  laidOut : LaidOut offset ts (offset + byteSize s)
  onBoundary : ∀ t ∈ ts, OnBoundary offset s t.start ∧ OnBoundary offset s t.stop
  bytes_eq : ∀ t ∈ ts, bytesBetween offset s t.start t.stop = (String.ofList t.text).toByteArray
  flatMap_text : ts.flatMap (·.text) = s

theorem flatMap_text_locate (start : Nat) (ls : List Lexeme) :
    (locate start ls).flatMap (·.text) = textOf ls := by
  conv => rhs; rw [← map_lexeme_locate start ls]
  simp [textOf, List.flatMap_map, Token.lexeme]

theorem laidOut_locate (start : Nat) (ls : List Lexeme) :
    LaidOut start (locate start ls) (start + byteSize (textOf ls)) := by
  induction ls generalizing start with
  | nil => rfl
  | cons l ls ih =>
      refine ⟨rfl, ?_⟩
      have hstop := ih (start + byteSize l.text)
      rwa [Nat.add_assoc, ← byteSize_append] at hstop

/-- A located lexeme stands behind the text of all lexemes in front of it. -/
theorem exists_append_of_mem_locate {start : Nat} {ls : List Lexeme} {t : Token}
    (h : t ∈ locate start ls) :
    ∃ before after, ls = before ++ t.lexeme :: after ∧
      t.start = start + byteSize (textOf before) := by
  induction ls generalizing start with
  | nil => cases h
  | cons l ls ih =>
      rcases List.mem_cons.mp h with rfl | h
      · exact ⟨[], ls, rfl, rfl⟩
      · obtain ⟨before, after, rfl, hstart⟩ := ih h
        refine ⟨l :: before, after, rfl, ?_⟩
        rw [hstart, textOf_cons, byteSize_append, Nat.add_assoc]

theorem tiles_locate (offset : Nat) {ls : List Lexeme} (hne : ∀ l ∈ ls, l.text ≠ []) :
    Tiles offset (textOf ls) (locate offset ls) where
  text_ne_nil t ht := by
    obtain ⟨before, after, rfl, -⟩ := exists_append_of_mem_locate ht
    exact hne t.lexeme (by simp)
  laidOut := laidOut_locate offset ls
  onBoundary t ht := by
    obtain ⟨before, after, rfl, hstart⟩ := exists_append_of_mem_locate ht
    constructor
    · rw [hstart, textOf_append]
      exact onBoundary_append ..
    · have hstop : t.stop = offset + byteSize (textOf before ++ t.text) := by
        rw [Token.stop, hstart, byteSize_append, Nat.add_assoc]
      rw [hstop, textOf_append, textOf_cons, ← List.append_assoc]
      exact onBoundary_append ..
  bytes_eq t ht := by
    obtain ⟨before, after, rfl, hstart⟩ := exists_append_of_mem_locate ht
    rw [Token.stop, hstart, textOf_append, textOf_cons]
    exact bytesBetween_append ..
  flatMap_text := flatMap_text_locate offset ls

/-! ## Places as the lexer gives them -/

namespace Cursor

/-- The tokens from a cursor at place `base` on, each at the place where its
text was found: the lexemes of a match behind one another, the tokens of its
embedded text at the place of that text, and the next step at the place that
the match ends. -/
def tokensFrom (base : Nat) (c : Cursor) : List Token :=
  match _hrest : c.rest with
  | [] => []
  | ch :: rest =>
    match _hm : c.match? with
    | some m =>
      let inner := base + byteSize (textOf m.front)
      locate base m.front ++ (start m.inner).tokensFrom inner ++
        locate (inner + byteSize m.inner) m.back ++ (c.behind m).tokensFrom (base + byteSize m.text)
    | none => ⟨.text, [ch], base⟩ :: (c.behindChar ch rest).tokensFrom (base + ch.utf8Size)
termination_by c.size
decreasing_by
  · exact size_inner_lt _hm (by simp [_hrest])
  · exact size_behind_lt _hm
  · exact size_behindChar_lt _hrest

theorem tokensFrom_of_nil {c : Cursor} (h : c.rest = []) (base : Nat) :
    c.tokensFrom base = [] := by
  rw [tokensFrom]
  split
  · rfl
  · next hrest => rw [h] at hrest; cases hrest

theorem tokensFrom_of_match {c : Cursor} {m : Match} (hne : c.rest ≠ [])
    (h : c.match? = some m) (base : Nat) :
    c.tokensFrom base =
      locate base m.front ++ (start m.inner).tokensFrom (base + byteSize (textOf m.front)) ++
        locate (base + byteSize (textOf m.front) + byteSize m.inner) m.back ++
        (c.behind m).tokensFrom (base + byteSize m.text) := by
  rw [tokensFrom]
  split
  · next hnil => exact absurd hnil hne
  · split
    · next m' hm' =>
      obtain rfl := Option.some.inj (h.symm.trans hm')
      rfl
    · next hm' => rw [h] at hm'; cases hm'

theorem tokensFrom_of_char {c : Cursor} {ch : Char} {rest : List Char}
    (hrest : c.rest = ch :: rest) (h : c.match? = none) (base : Nat) :
    c.tokensFrom base =
      ⟨.text, [ch], base⟩ :: (c.behindChar ch rest).tokensFrom (base + ch.utf8Size) := by
  rw [tokensFrom]
  split
  · next hnil => rw [hrest] at hnil; cases hnil
  · next ch' rest' hrest' =>
    obtain ⟨rfl, rfl⟩ := List.cons.inj (hrest.symm.trans hrest')
    split
    · next m hm => rw [h] at hm; cases hm
    · rfl

/-- The lexer counts what its matches cover; that comes to the same as counting
what it produces. -/
theorem tokensFrom_eq_locate (c : Cursor) (base : Nat) :
    c.tokensFrom base = locate base c.lexemes := by
  induction c using step_induction generalizing base with
  | h c inner next =>
      cases hst : c.step? with
      | none =>
          have hrest := step?_eq_none.mp hst
          rw [tokensFrom_of_nil hrest, lexemes_of_nil hrest]
          rfl
      | some st =>
          rw [lexemes_of_step? hst]
          obtain ⟨hne, ⟨m, hm, rfl⟩ | ⟨ch, rest, hrest, hm, rfl⟩⟩ := step?_cases hst
          · have hinner : (start m.inner).lexemes = GaussMarkup.lexemes m.inner := rfl
            rw [tokensFrom_of_match hne hm, inner m hne hm, next _ hst, hinner]
            simp [Match.yield, Match.text, locate_append, Nat.add_assoc]
          · rw [tokensFrom_of_char hrest hm, next _ hst]
            simp [locate]

/-- No lexeme is empty, whatever embedded run it comes from. -/
theorem text_ne_nil_of_mem_lexemes (c : Cursor) : ∀ l ∈ c.lexemes, l.text ≠ [] := by
  induction c using step_induction with
  | h c inner next =>
      intro l hl
      cases hst : c.step? with
      | none =>
          rw [lexemes_of_nil (step?_eq_none.mp hst)] at hl
          cases hl
      | some st =>
          rw [lexemes_of_step? hst, List.mem_append] at hl
          rcases hl with hl | hl
          · obtain ⟨hne, ⟨m, hm, rfl⟩ | ⟨ch, rest, -, -, rfl⟩⟩ := step?_cases hst
            · have hsolid := solid_of_match? hm
              simp only [Match.yield, List.append_assoc, List.mem_append] at hl
              rcases hl with hl | hl | hl
              · exact hsolid l (List.mem_append_left _ hl)
              · exact inner m hne hm l hl
              · exact hsolid l (List.mem_append_right _ hl)
            · obtain rfl := List.mem_singleton.mp hl
              exact List.cons_ne_nil _ _
          · exact next st hst l hl

end Cursor

theorem Cursor.tiles_tokensFrom (offset : Nat) (s : List Char) :
    Tiles offset s ((start s).tokensFrom offset) := by
  have htiles := tiles_locate offset (start s).text_ne_nil_of_mem_lexemes
  rwa [textOf_lexemes, ← tokensFrom_eq_locate] at htiles

/-- **Tokens tile their source.** Wherever a source begins, the tokens that the
lexer makes of it, those of embedded runs included, are the located lexemes of
the source: none is empty, each begins where the one before it ends, all places
are on character boundaries, each token holds the bytes of its span, and the
texts together are the source. A stream over the source hands out these tokens
one after the other and then nothing, and for a source that begins at place 0
they are its list of tokens. -/
theorem tokens_tile_source (offset : Nat) (s : List Char) :
    (Cursor.start s).tokensFrom offset = locate offset (lexemes s) ∧
      Tiles offset s ((Cursor.start s).tokensFrom offset) ∧
      (∀ n, ((TokenStream.fresh offset s).after n).next.1 =
        ((Cursor.start s).tokensFrom offset)[n]?) ∧
      tokenize s = (Cursor.start s).tokensFrom 0 ∧ Tiles 0 s (tokenize s) := by
  have hlocate : ∀ base, (Cursor.start s).tokensFrom base = locate base (lexemes s) :=
    (Cursor.start s).tokensFrom_eq_locate
  have htokenize : tokenize s = (Cursor.start s).tokensFrom 0 := (hlocate 0).symm
  refine ⟨hlocate offset, Cursor.tiles_tokensFrom offset s, fun n => ?_, htokenize, ?_⟩
  · rw [hlocate]
    exact TokenStream.next_after_fresh offset s n
  · rw [htokenize]
    exact Cursor.tiles_tokensFrom 0 s

end GaussMarkup
