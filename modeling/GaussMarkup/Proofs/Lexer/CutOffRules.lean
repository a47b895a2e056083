import GaussMarkup.Proofs.Lexer.CutOffScanning
import GaussMarkup.Proofs.Lexer.Stacks

/-!
# Rules and texts that are cut off

What a rule finds in a text that is cut off in front of an equals sign is what it
finds in the whole text, as long as that leaves the sign (`Rule.SettlesOn`). This is
so of every rule but those for the lines of a block that is switched off
(`Mode.settlesOn`). There it is so if the line is not cut off itself: a backslash
behind the sign may keep a line from opening or closing a block
(`Mode.settlesOn_disabled`).

Directives need more than their scanners. A lead is chosen by what stands behind it,
and one that is not in the text cut off may be found in the whole text. But such a
lead runs over the sign (`restsBehindLead_extended`).
-/

namespace GaussMarkup

variable {mark x : List Char} (r : List Char)

/-! ## Leads -/

theorem restsBehind_extended (hmark : '=' ∉ mark) (hne : mark ≠ []) (x : List Char) :
    ∃ more, restsBehind mark (x ++ '=' :: r) = (restsBehind mark x).map (· ++ '=' :: r) ++ more ∧
      ∀ q ∈ more, q.length ≤ r.length := by
  induction x with
  | nil =>
      have hopens : ¬mark.isPrefixOf ('=' :: r) = true := by
        obtain ⟨d, mark, rfl⟩ := List.exists_cons_of_ne_nil hne
        simpa [List.isPrefixOf] using fun hd => absurd hd (Ne.symm (List.ne_of_not_mem_cons hmark))
      refine ⟨restsBehind mark r, ?_, fun q hq => (suffix_of_mem_restsBehind hq).length_le⟩
      simp only [List.nil_append, restsBehind]
      rw [if_neg (by decide), if_neg hopens]
      rfl
  | cons c x ih =>
      obtain ⟨more, hrests, hle⟩ := ih
      have hfront := isPrefixOf_extended (c :: x) r hmark
      simp only [List.cons_append] at hfront
      simp only [List.cons_append, restsBehind, hfront, hrests]
      split
      · exact ⟨[], by simp⟩
      · refine ⟨more, ?_, hle⟩
        split
        · next hopens =>
          have hlength := (List.isPrefixOf_iff_prefix.mp hopens).length_le
          have hdrop : (c :: (x ++ '=' :: r)).drop mark.length =
              (c :: x).drop mark.length ++ '=' :: r := List.drop_append_of_le_length hlength
          simp [hdrop]
        · rfl

theorem restsBehindComment_extended (x : List Char) :
    ∃ more, restsBehindComment (x ++ '=' :: r) =
        (restsBehindComment x).map (· ++ '=' :: r) ++ more ∧ ∀ q ∈ more, q.length ≤ r.length := by
  simp (disch := decide) only [restsBehindComment_eq, cutMark?_extended]
  cases cutMark? ['/', '*'] x with
  | some y => exact restsBehind_extended r (by simp) (List.cons_ne_nil _ _) y.2
  | none =>
      cases cutMark? ['@'] x with
      | some y => exact restsBehind_extended r (by simp) (List.cons_ne_nil _ _) y.2
      | none => exact ⟨[], by simp⟩

/-- The leads of a text that is cut off are leads of the whole text. Other ones run
over the sign, and stand in front of the last one only. -/
theorem restsBehindLead_extended (x : List Char) :
    ∃ near more, restsBehindLead x = near ++ [x.dropWhile isBlank] ∧
      restsBehindLead (x ++ '=' :: r) =
        near.map (· ++ '=' :: r) ++ more ++ [x.dropWhile isBlank ++ '=' :: r] ∧
      ∀ q ∈ more, q.length ≤ r.length := by
  obtain ⟨more, hrests, hle⟩ := restsBehindComment_extended r (x.dropWhile isBlank)
  refine ⟨_, more.map (·.dropWhile isBlank), rfl, ?_, ?_⟩
  · simp [restsBehindLead, hrests, Function.comp_def]
  · intro q hq
    obtain ⟨p, hp, rfl⟩ := List.mem_map.mp hq
    exact Nat.le_trans (length_dropWhile_le p) (hle p hp)

theorem cutBefore_extended {rest : List Char} (h : rest <:+ x) :
    cutBefore (rest ++ '=' :: r) (x ++ '=' :: r) = Cut.extended r (cutBefore rest x) := by
  have hle := h.length_le
  have hlength : (x ++ '=' :: r).length - (rest ++ '=' :: r).length = x.length - rest.length := by
    simp only [List.length_append]
    omega
  rw [cutBefore, cutBefore, hlength, List.take_append_of_le_length (Nat.sub_le _ _)]
  rfl

/-- What is given back is blank. -/
theorem blanks_of_giveBack? {lead : List Char} {y : Cut} (h : giveBack? (lead, []) = some y) :
    ∀ c ∈ y.2, isBlank c = true := by
  simp only [giveBack?, if_true] at h
  split at h
  · cases h
  · next c front hdrop =>
    split at h
    · next hc =>
      obtain rfl := Option.some.inj h
      intro d hd
      rcases List.mem_cons.mp hd with rfl | hd
      · exact hc
      · have hfeed := List.all_eq_true.mp List.all_takeWhile d (List.mem_reverse.mp hd)
        rw [beq_iff_eq.mp hfeed]
        decide
    · cases h

theorem length_le_of_suffix {u r : List Char} (h : u <:+ x ++ '=' :: r) (hu : '=' ∉ u) :
    u.length ≤ r.length := by
  rcases List.suffix_or_suffix_of_suffix h (List.suffix_append x ('=' :: r)) with hshort | hlong
  · rcases List.suffix_cons_iff.mp hshort with rfl | hshort
    · exact absurd (List.mem_cons_self ..) hu
    · exact hshort.length_le
  · exact absurd (hlong.subset (List.mem_cons_self ..)) hu

theorem stops_cutDisabledStart? : Stops cutDisabledStart? := by
  intro x r
  simp [cutDisabledStart?, Cut.extended, Function.comp_def, Option.bind_map, Option.map_bind]

/-! ## Matches -/

/-- A match in a text that is cut off, with the text from the sign on put back. -/
def Match.extended (r : List Char) (m : Match) : Match :=
  { m with rest := m.rest ++ '=' :: r }

@[simp] theorem Match.extended_plain (ls : List Lexeme) (rest : List Char) (move : Move) :
    (Match.plain ls rest move).extended r = .plain ls (rest ++ '=' :: r) move :=
  rfl

/-- What is found in the whole text is what is found in the text that is cut off, or
it runs over the sign. -/
def Settled (r : List Char) (whole short : Option Match) : Prop :=
  whole = short.map (Match.extended r) ∨ ∃ m, whole = some m ∧ m.rest.length ≤ r.length

namespace Settled

variable {r} {whole short whole' short' : Option Match}

theorem or (h : Settled r whole short) (h' : Settled r whole' short') :
    Settled r (whole.or whole') (short.or short') := by
  rcases h with rfl | ⟨m, rfl, hle⟩
  · cases short with
    | none => exact h'
    | some m => exact Or.inl rfl
  · exact Or.inr ⟨m, rfl, hle⟩

/-- Behind a scanner that takes the same of both texts. -/
theorem bind {first : List Char → Option Cut} {f : Cut → Option Match} {x : List Char}
    (hfirst : Stops first) (h : ∀ y, Settled r (f (y.extended r)) (f y)) :
    Settled r ((first (x ++ '=' :: r)).bind f) ((first x).bind f) := by
  rw [hfirst x r]
  cases first x with
  | none => exact Or.inl rfl
  | some y => exact h y

theorem filter {p q : Match → Bool} (h : Settled r whole short)
    (hshort : ∀ m, short = some m → p (m.extended r) = q m)
    (hover : ∀ m, whole = some m → m.rest.length ≤ r.length → p m = true) :
    Settled r (whole.filter p) (short.filter q) := by
  rcases h with rfl | ⟨m, rfl, hle⟩
  · cases short with
    | none => exact Or.inl rfl
    | some m =>
        left
        simp only [Option.map_some, Option.filter_some, hshort m rfl]
        split <;> rfl
  · right
    exact ⟨m, by simp [hover m rfl hle], hle⟩

theorem findSome? {α : Type} {f g : α → Option Match} {as : List α}
    (h : ∀ a ∈ as, Settled r (f a) (g a)) : Settled r (as.findSome? f) (as.findSome? g) := by
  induction as with
  | nil => exact Or.inl rfl
  | cons a as ih =>
      obtain ⟨ha, has⟩ := List.forall_mem_cons.mp h
      have hcons (f : α → Option Match) :
          (a :: as).findSome? f = (f a).or (as.findSome? f) := by
        rw [List.findSome?_cons]
        cases f a <;> rfl
      rw [hcons, hcons]
      exact ha.or (ih has)

/-- What is found behind the leads of a text. -/
theorem findSome?_lead {x : List Char} {f g : List Char → Option Match}
    (hnear : ∀ rest, rest <:+ x → Settled r (f (rest ++ '=' :: r)) (g rest))
    (hmore : ∀ rest, rest <:+ x ++ '=' :: r → rest.length ≤ r.length → Settled r (f rest) none) :
    Settled r ((restsBehindLead (x ++ '=' :: r)).findSome? f)
      ((restsBehindLead x).findSome? g) := by
  have hsuffix := @suffix_of_mem_restsBehindLead x
  have hsuffix' := @suffix_of_mem_restsBehindLead (x ++ '=' :: r)
  obtain ⟨near, more, hleads, hextended, hle⟩ := restsBehindLead_extended r x
  simp only [hleads, hextended, List.mem_append] at hsuffix hsuffix'
  have hfirst : Settled r ((near.map (· ++ '=' :: r)).findSome? f) (near.findSome? g) := by
    rw [List.findSome?_map]
    exact findSome? fun rest hrest => hnear rest (hsuffix (Or.inl hrest))
  have hover : Settled r (more.findSome? f) none := by
    have hnone := findSome? (g := fun _ => none) fun rest hrest =>
      hmore rest (hsuffix' (Or.inl (Or.inr hrest))) (hle rest hrest)
    rwa [List.findSome?_eq_none_iff.mpr fun _ _ => rfl] at hnone
  have hlast := hnear (x.dropWhile isBlank) (List.dropWhile_suffix isBlank)
  rw [hleads, hextended, List.findSome?_append, List.findSome?_append, List.findSome?_append]
  simpa using (hfirst.or hover).or hlast

end Settled

/-- A rule finds the same match in a text that is cut off, or its match in the whole
text runs over the sign. -/
def Rule.SettlesOn (rule : Rule) (before : Option Char) (x r : List Char) : Prop :=
  Settled r (rule.find? before (x ++ '=' :: r)) (rule.find? before x)

namespace Rule

variable {rule : Rule} {kind : Kind} {move : Move} {scan : List Char → Option Cut}
  {before : Option Char} {r}

/-- A rule that takes one lexeme. -/
theorem settled_one (hscan : Settles scan) :
    Settled r ((scan (x ++ '=' :: r)).map fun y => .plain (lexemeOf kind y.1) y.2 move)
      ((scan x).map fun y => .plain (lexemeOf kind y.1) y.2 move) := by
  rcases hscan x r with heq | ⟨y, hy, hle⟩
  · left
    simp [heq, Function.comp_def]
  · exact Or.inr ⟨_, by rw [hy]; rfl, hle⟩

/-- A rule that takes a mark. -/
theorem settled_mark (hmark : '=' ∉ mark) :
    Settled r ((cutMark? mark (x ++ '=' :: r)).map fun y => .plain (lexemeOf kind y.1) y.2 move)
      ((cutMark? mark x).map fun y => .plain (lexemeOf kind y.1) y.2 move) :=
  settled_one (stops_cutMark? hmark).settles

/-- A rule with a guard that does not ask what follows. -/
theorem settled_guarded {guard : Guard}
    (hscan : scan (x ++ '=' :: r) = (scan x).map (Cut.extended r))
    (hguard : ∀ taken rest rest',
      guard.admits before taken rest = guard.admits before taken rest') :
    Settled r
      (((scan (x ++ '=' :: r)).filter fun y => guard.admits before y.1 y.2).map fun y =>
        .plain (lexemeOf kind y.1) y.2 move)
      (((scan x).filter fun y => guard.admits before y.1 y.2).map fun y =>
        .plain (lexemeOf kind y.1) y.2 move) := by
  have hadmits (y : Cut) : guard.admits before y.1 (y.2 ++ '=' :: r) =
      guard.admits before y.1 y.2 := hguard _ _ _
  left
  simp [hscan, Option.filter_map, Function.comp_def, hadmits]

theorem SettlesOn.atLineStart (h : rule.SettlesOn before x r) :
    rule.atLineStart.SettlesOn before x r := by
  unfold SettlesOn at h ⊢
  simp only [Rule.atLineStart]
  split
  · exact h
  · exact Or.inl rfl

/-! ## Directives -/

theorem settled_findDirective? {start : List Char → Option Cut} (hstart : Stops start)
    (hjoin : Joins start) (mode : Mode) (x r : List Char) :
    Settled r (findDirective? start mode (x ++ '=' :: r)) (findDirective? start mode x) := by
  refine Settled.findSome?_lead (fun rest hrest => ?_) fun rest _ hle => ?_
  · left
    simp only [hstart rest r, cutBefore_extended r hrest]
    cases start rest with
    | none => rfl
    | some y =>
        by_cases hnil : y.1 = []
        · simp [hnil]
        · simp [hnil, Match.extended]
  · cases hy : start rest with
    | none => exact Or.inl rfl
    | some y =>
        simp only [Option.bind_some]
        split
        · exact Or.inl rfl
        · have hlength := congrArg List.length (hjoin hy)
          rw [List.length_append] at hlength
          exact Or.inr ⟨_, rfl, by simp only; omega⟩

theorem settled_findInclude? (x r : List Char) :
    Settled r (findInclude? (x ++ '=' :: r)) (findInclude? x) := by
  have hword : Stops (cutWord? "include".toList) :=
    fun x r => cutWord?_extended x r (by decide)
  refine Settled.bind hword fun word => ?_
  simp only [Cut.fst_extended, Cut.snd_extended, List.map_findSome?]
  refine Settled.findSome?_lead (fun rest hrest => ?_) fun rest hrest hle => ?_
  · simp only [Function.comp_apply, cutBefore_extended r hrest]
    have hgive : giveBack? (Cut.extended r (cutBefore rest word.2)) =
        some (Cut.extended r (cutBefore rest word.2)) := by simp [giveBack?]
    rw [hgive]
    rcases takeWhile_extended_cases rest r (· != '\n') with ⟨htake, hdrop⟩ | ⟨-, hdrop⟩
    · left
      have hne : rest ≠ [] := by
        rintro rfl
        simp at htake
      simp [giveBack?, cutBefore, hne, htake, hdrop, Cut.extended]
    · right
      exact ⟨_, rfl, by simpa [cutBefore, hdrop] using length_dropWhile_le r⟩
  · simp only [Function.comp_apply]
    cases hy : giveBack? (cutBefore rest (word.2 ++ '=' :: r)) with
    | none => exact Or.inl rfl
    | some y =>
        refine Or.inr ⟨_, rfl, Nat.le_trans (length_dropWhile_le y.2) ?_⟩
        by_cases hnil : rest = []
        · subst hnil
          have hjoin := (joins_giveBack? hy).trans (cutBefore_join hrest)
          refine length_le_of_suffix ⟨y.1, hjoin⟩ fun hsign => ?_
          exact absurd (blanks_of_giveBack? hy '=' hsign) (by decide)
        · obtain rfl : cutBefore rest (word.2 ++ '=' :: r) = y := by
            simpa [giveBack?, cutBefore, hnil] using hy
          exact hle

/-! ## Words -/

theorem settled_findHeader? (words : List String) (kind : Kind) (x r : List Char) :
    Settled r (findHeader? words kind (x ++ '=' :: r)) (findHeader? words kind x) := by
  left
  simp [findHeader?, Function.comp_def, Option.bind_map, Option.map_bind]

/-- Parameters that hold no equals sign go on to the one behind the text. -/
theorem settled_findFunctionHeader? (x r : List Char) :
    Settled r (findFunctionHeader? (x ++ '=' :: r)) (findFunctionHeader? x) := by
  refine Settled.bind (stops_cutListedName? ["fn"]) fun word => ?_
  refine Settled.bind (fun x r => cutBlanks?_extended x r) fun blanks => ?_
  refine Settled.bind stops_cutName? fun name => ?_
  have htake := takeWhile_extended (p := (· != '=')) name.2 r (by decide)
  have hsplit := dropWhile_extended (p := (· != '=')) name.2 r (by decide)
  simp only [Cut.fst_extended, Cut.snd_extended, htake, hsplit]
  have hhead := List.head?_dropWhile_not (· != '=') name.2
  cases hdrop : name.2.dropWhile (· != '=') with
  | nil =>
      right
      rw [List.nil_append, cutMark?_singleton]
      exact ⟨_, rfl, Nat.le_refl _⟩
  | cons d t =>
      obtain rfl : d = '=' := by simpa [hdrop] using hhead
      left
      rw [List.cons_append, cutMark?_singleton, cutMark?_singleton]
      rfl

theorem settled_findCall? (x r : List Char) :
    Settled r (findCall? (x ++ '=' :: r)) (findCall? x) := by
  left
  simp [findCall?, Function.comp_def, Option.bind_map, Option.map_bind]

theorem settled_findLabel? (before : Option Char) (x r : List Char) :
    Settled r (findLabel? before (x ++ '=' :: r)) (findLabel? before x) := by
  have hguard (taken rest : List Char) :
      (Guard.notFollowedBy ':').admits before taken (rest ++ '=' :: r) =
        (Guard.notFollowedBy ':').admits before taken rest := by
    cases rest with
    | nil => rfl
    | cons c rest => rfl
  left
  simp [findLabel?, Option.bind_map, Option.map_bind, Option.filter_map, Function.comp_def, hguard]

theorem settled_findMemberAccess? (x r : List Char) :
    Settled r (findMemberAccess? (x ++ '=' :: r)) (findMemberAccess? x) := by
  left
  simp [findMemberAccess?, Option.bind_map, Option.map_bind, Function.comp_def]

theorem settled_findMemberLink? (x r : List Char) :
    Settled r (findMemberLink? (x ++ '=' :: r)) (findMemberLink? x) := by
  left
  simp [findMemberLink?, Option.bind_map, Option.map_bind, Function.comp_def]

end Rule

/-! ## Lines that are switched off -/

/-- No line is cut off in which something stands. -/
def WholeLine (x : List Char) : Prop :=
  '\n' ∈ x.dropWhile isBlank ∨ x.dropWhile isBlank = []

theorem cutConditional?_extended (words : List String)
    (hwords : ∀ word ∈ words, '=' ∉ word.toList ∧ '\n' ∉ word.toList) (hx : WholeLine x)
    (r : List Char) :
    cutConditional? words (x ++ '=' :: r) = (cutConditional? words x).map (Cut.extended r) := by
  have hword : (words.findSome? fun word =>
        cutWord? ('#' :: word.toList) (x.dropWhile isBlank ++ '=' :: r)) =
      (words.findSome? fun word => cutWord? ('#' :: word.toList) (x.dropWhile isBlank)).map
        (Cut.extended r) := by
    rw [List.map_findSome?]
    refine findSome?_congr fun word hword => ?_
    exact cutWord?_extended _ r (by simpa using (hwords word hword).1)
  simp only [cutConditional?, takeWhile_isBlank_extended, dropWhile_isBlank_extended, hword,
    Option.map_map]
  refine Option.map_congr fun y hy => ?_
  obtain ⟨word, hword, hcut⟩ := List.exists_of_findSome?_eq_some hy
  have hfeed : '\n' ∈ y.2 := by
    obtain ⟨hfold, hjoin⟩ := cutWord?_eq_some.mp hcut
    rcases hx with hx | hx
    · rw [hjoin, List.mem_append] at hx
      refine hx.resolve_left fun hmem => ?_
      have hmark := List.mem_map_of_mem (f := fold) hmem
      rw [hfold, List.mem_cons] at hmark
      exact hmark.elim (by decide) (hwords word hword).2
    · rw [hx, eq_comm, List.append_eq_nil_iff] at hjoin
      rw [hjoin.1] at hfold
      cases hfold
  simp [Cut.extended, cutLine_extended_of_mem y.2 r hfeed]

/-- A blank line in front of a line that is cut off does not count. -/
theorem not_wholeLine_cutLine (hx : '\n' ∈ x) (h : ¬WholeLine x) : ¬WholeLine (cutLine x).2 := by
  suffices heq : (cutLine x).2.dropWhile isBlank = x.dropWhile isBlank by rwa [WholeLine, heq]
  have hfeed := (not_or.mp h).1
  clear h
  induction x with
  | nil => cases hx
  | cons c x ih =>
      have hblank : isBlank c = true := by
        refine (Bool.not_eq_false _).mp fun hc => hfeed ?_
        rwa [List.dropWhile_cons_of_neg (by simp [hc])]
      rw [List.dropWhile_cons_of_pos hblank] at hfeed ⊢
      simp only [cutLine]
      split
      · rfl
      · next hne => exact ih (List.mem_of_ne_of_mem (Ne.symm hne) hx) hfeed

/-! ## The rules of each mode -/

/-- One entry for each rule, in the order of `Mode.rules`. -/
theorem Mode.settlesOn {mode : Mode} (hmode : mode ≠ .disabled) (before : Option Char)
    (x r : List Char) : ∀ rule ∈ mode.rules, rule.SettlesOn before x r := by
  cases mode <;>
    simp only [Mode.rules, List.forall_mem_cons, List.not_mem_nil, false_implies, implies_true,
      and_true]
  case root =>
    exact ⟨.atLineStart (Rule.settled_findDirective? stops_cutDisabledStart?
        joins_cutDisabledStart? _ x r),
      .atLineStart (Rule.settled_findDirective? (stops_cutMark? (by simp)) (joins_cutMark? _) _ x
        r),
      Rule.settled_mark (by simp), Rule.settled_one (settles_cutRun? _),
      Rule.settled_mark (by simp), Rule.settled_one settles_cutLineComment?,
      Rule.settled_one settles_cutBlockComment?, Rule.settled_one settles_cutAtComment?,
      Rule.settled_mark (by simp), Rule.settled_one stops_cutHex?.settles,
      Rule.settled_one stops_cutScientific?.settles,
      Rule.settled_guarded (stops_cutSigned? x r) fun _ _ _ => rfl,
      Rule.settled_one (settles_cutRun? _), Rule.settled_mark (by simp),
      Rule.settled_one stops_cutComparisonWord?.settles,
      Rule.settled_one stops_cutLogicalWord?.settles, Rule.settled_one settles_cutComparison?,
      Rule.settled_one stops_cutStringSign?.settles, Rule.settled_one stops_cutProduct?.settles,
      Rule.settled_one stops_cutDotted?.settles, Rule.settled_one (settles_cutOne? _),
      Rule.settled_one (settles_cutOne? _), Rule.settled_findHeader? _ _ x r,
      Rule.settled_findHeader? _ _ x r, Rule.settled_findFunctionHeader? x r,
      Rule.settled_one (stops_cutListedName? _).settles,
      Rule.settled_one (stops_cutListedName? _).settles,
      Rule.settled_one (stops_cutListedName? _).settles, Rule.settled_findCall? x r,
      .atLineStart (Rule.settled_findLabel? before x r), Rule.settled_findMemberAccess? x r,
      Rule.settled_one stops_cutName?.settles, Rule.settled_one (settles_cutOne? _)⟩
  case string =>
    exact ⟨Rule.settled_mark (by simp), Rule.settled_one stops_cutEscape?.settles,
      Rule.settled_one (settles_cutRun? _), Rule.settled_mark (by simp),
      Rule.settled_mark (by simp)⟩
  case member => exact ⟨Rule.settled_findMemberLink? x r, Or.inl rfl⟩
  case directive =>
    exact ⟨Rule.settled_findInclude? x r, Rule.settled_one (settles_cutRun? _),
      Rule.settled_one settles_cutInlineComment?, Rule.settled_one settles_cutClosingComment?,
      Rule.settled_mark (by simp),
      Rule.settled_guarded (stops_cutMark? (by simp) x r) fun _ _ _ => rfl,
      Rule.settled_mark (by simp)⟩
  case disabled => exact absurd rfl hmode

theorem Mode.settlesOn_disabled (before : Option Char) {x : List Char} (hx : WholeLine x)
    (r : List Char) : ∀ rule ∈ Mode.disabled.rules, rule.SettlesOn before x r := by
  simp only [Mode.rules, List.forall_mem_cons, List.not_mem_nil, false_implies, implies_true,
    and_true]
  have hother := cutConditional?_extended ["else", "elif"] (by decide) hx r
  refine ⟨.atLineStart (Rule.settled_guarded (cutConditional?_extended _ (by decide) hx r)
      fun _ _ _ => rfl), .atLineStart ?_,
    .atLineStart (Rule.settled_guarded (cutConditional?_extended _ (by decide) hx r)
      fun _ _ _ => rfl), Rule.settled_one settles_cutLine⟩
  left
  simp [Rule.one, hother, Function.comp_def]

end GaussMarkup
