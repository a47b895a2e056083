import GaussMarkup.Text.CharClass
import GaussMarkup.Text.Fold

/-!
# Cutting a text in front of the cursor

A scanner cuts the text in front of the cursor in two: the stretch that it takes and the rest. All
scanners of the lexer are put together from the ones of this file, and each has one law: the two
parts of a cut, joined again, are the text (`Joins`).
-/

namespace GaussMarkup

/-- What is taken and what is left. -/
abbrev Cut := List Char × List Char

/-- A scanner neither loses nor adds anything. -/
def Joins (scan : List Char → Option Cut) : Prop :=
  ∀ {s : List Char} {c : Cut}, scan s = some c → c.1 ++ c.2 = s

/-- The longest run of `p`; an empty one is no match. -/
def cutRun? (p : Char → Bool) (s : List Char) : Option Cut :=
  if s.takeWhile p = [] then none else some (s.takeWhile p, s.dropWhile p)

/-- A word in any case. -/
def cutWord? : (word : List Char) → List Char → Option Cut
  | [], s => some ([], s)
  | _ :: _, [] => none
  | w :: word, c :: s =>
    if fold c = w then (cutWord? word s).map fun x => (c :: x.1, x.2) else none

/-- One character of a class. -/
def cutOne? (p : Char → Bool) : List Char → Option Cut
  | [] => none
  | c :: s => if p c then some ([c], s) else none

/-- The character `c` if it is there, else nothing. -/
def cutOptional (c : Char) : List Char → Cut
  | [] => ([], [])
  | d :: s => if d = c then ([d], s) else ([], d :: s)

/-- A name: a letter or underscore, and all word characters behind it. -/
def cutName? : List Char → Option Cut
  | [] => none
  | c :: s =>
    if isNameStart c then some (c :: s.takeWhile isWordChar, s.dropWhile isWordChar) else none

/-- Everything up to the end of the line, with the line feed if there is one. -/
def cutLine : List Char → Cut
  | [] => ([], [])
  | c :: s => if c = '\n' then ([c], s) else ((c :: (cutLine s).1), (cutLine s).2)

/-- The shortest stretch that ends in what `stop` takes. -/
def cutThrough? (stop : List Char → Option Cut) : List Char → Option Cut
  | [] => stop []
  | c :: s =>
    match stop (c :: s) with
    | some x => some x
    | none => (cutThrough? stop s).map fun x => (c :: x.1, x.2)

/-- The mark itself. -/
def cutMark? (mark s : List Char) : Option Cut :=
  if mark.isPrefixOf s then some (mark, s.drop mark.length) else none

/-- What stands behind `mark`, for each place of the line at which it stands, nearest first. -/
def restsBehind (mark : List Char) : List Char → List (List Char)
  | [] => []
  | c :: s =>
    if c = '\n' then []
    else if mark.isPrefixOf (c :: s) then (c :: s).drop mark.length :: restsBehind mark s
    else restsBehind mark s

/-- The cut of `s` that leaves `rest`. -/
def cutBefore (rest s : List Char) : Cut :=
  (s.take (s.length - rest.length), rest)

theorem joins_cutRun? (p : Char → Bool) : Joins (cutRun? p) := by
  intro s c h
  unfold cutRun? at h
  split at h
  · simp at h
  · obtain rfl := Option.some.inj h
    exact List.takeWhile_append_dropWhile

theorem joins_cutWord? : ∀ word : List Char, Joins (cutWord? word)
  | [], s, c, h => by
      obtain rfl := Option.some.inj h
      rfl
  | _ :: _, [], c, h => by simp [cutWord?] at h
  | w :: word, d :: s, c, h => by
      simp only [cutWord?] at h
      split at h
      · obtain ⟨x, hx, rfl⟩ := Option.map_eq_some_iff.1 h
        simp [joins_cutWord? word hx]
      · simp at h

theorem joins_cutOne? (p : Char → Bool) : Joins (cutOne? p)
  | [], c, h => by simp [cutOne?] at h
  | d :: s, c, h => by
      simp only [cutOne?] at h
      split at h
      · obtain rfl := Option.some.inj h
        rfl
      · simp at h

@[simp] theorem cutOptional_join (c : Char) (s : List Char) :
    (cutOptional c s).1 ++ (cutOptional c s).2 = s := by
  cases s with
  | nil => rfl
  | cons d s => simp only [cutOptional]; split <;> rfl

theorem joins_cutName? : Joins cutName?
  | [], c, h => by simp [cutName?] at h
  | d :: s, c, h => by
      simp only [cutName?] at h
      split at h
      · obtain rfl := Option.some.inj h
        simp [List.takeWhile_append_dropWhile]
      · simp at h

@[simp] theorem cutLine_join (s : List Char) : (cutLine s).1 ++ (cutLine s).2 = s := by
  induction s with
  | nil => rfl
  | cons c s ih => simp only [cutLine]; split <;> simp [ih]

theorem joins_cutThrough? {stop : List Char → Option Cut} (hstop : Joins stop) :
    Joins (cutThrough? stop)
  | [], c, h => hstop h
  | d :: s, c, h => by
      simp only [cutThrough?] at h
      split at h
      · next x hx =>
        obtain rfl := Option.some.inj h
        exact hstop hx
      · obtain ⟨x, hx, rfl⟩ := Option.map_eq_some_iff.1 h
        simp [joins_cutThrough? hstop hx]

theorem joins_cutMark? (mark : List Char) : Joins (cutMark? mark) := by
  intro s c h
  unfold cutMark? at h
  split at h
  · next hm =>
    obtain rfl := Option.some.inj h
    obtain ⟨t, rfl⟩ := List.isPrefixOf_iff_prefix.1 hm
    simp
  · simp at h

theorem suffix_of_mem_restsBehind {mark : List Char} :
    ∀ {s rest : List Char}, rest ∈ restsBehind mark s → rest <:+ s
  | [], _, h => by simp [restsBehind] at h
  | c :: s, rest, h => by
      simp only [restsBehind] at h
      split at h
      · simp at h
      · split at h
        · rcases List.mem_cons.1 h with rfl | h
          · exact List.drop_suffix ..
          · exact (suffix_of_mem_restsBehind h).trans (List.suffix_cons ..)
        · exact (suffix_of_mem_restsBehind h).trans (List.suffix_cons ..)

theorem cutBefore_join {rest s : List Char} (h : rest <:+ s) :
    (cutBefore rest s).1 ++ (cutBefore rest s).2 = s :=
  List.suffix_iff_eq_append.1 h

end GaussMarkup
