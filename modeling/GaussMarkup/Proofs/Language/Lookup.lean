import GaussMarkup.Proofs.Language.Registry
import GaussMarkup.Proofs.Text.LetterCase
import GaussMarkup.Proofs.Text.Order

/-!
# A registry as an ordered map

A registry holds what a map from exact names would hold that remembers in which order
its keys were first inserted (`map_some_registerAllBy`). Its three ways to look up a
language differ only in the question that they ask each entry: each answers with the
first entry in that order for which the answer is yes, or else with an error that
names what was looked for (`FindsFirst`).
-/

namespace GaussMarkup

/-! ## The first entry with a property -/

/-- A search through some entries answers with the first that has a property, and fails
with a fixed error just where none has it. -/
structure FindsFirst {α ε : Type} (P : α → Prop) (entries : List α) (error : ε)
    (outcome : Except ε α) : Prop where
  found : ∀ a, outcome = .ok a ↔
    ∃ front behind, entries = front ++ a :: behind ∧ P a ∧ ∀ b ∈ front, ¬P b
  failed : ∀ e, outcome = .error e ↔ e = error ∧ ∀ a ∈ entries, ¬P a

section Searching

variable {α ε : Type} {P : α → Prop} {p : α → Bool}

theorem find?_eq_some_iff_first (hp : ∀ a, p a = true ↔ P a) {entries : List α} {a : α} :
    entries.find? p = some a ↔
      ∃ front behind, entries = front ++ a :: behind ∧ P a ∧ ∀ b ∈ front, ¬P b := by
  simp only [List.find?_eq_some_iff_append, hp, ← Bool.not_eq_true, Bool.not_eq_eq_eq_not,
    Bool.not_true]
  constructor
  · rintro ⟨ha, front, behind, hsplit, hfront⟩
    exact ⟨front, behind, hsplit, ha, hfront⟩
  · rintro ⟨front, behind, hsplit, ha, hfront⟩
    exact ⟨ha, front, behind, hsplit, hfront⟩

theorem findsFirst_of_find? (hp : ∀ a, p a = true ↔ P a) {entries : List α} {error : ε}
    {outcome : Except ε α} (houtcome : outcome = (entries.find? p).elim (.error error) .ok) :
    FindsFirst P entries error outcome := by
  subst houtcome
  cases hfind : entries.find? p with
  | some b =>
      have hb := List.mem_of_find?_eq_some hfind
      have hPb := (hp b).mp (List.find?_some hfind)
      constructor
      · intro a
        rw [← find?_eq_some_iff_first hp, hfind, Option.elim_some, Except.ok.injEq,
          Option.some.injEq]
      · intro e
        simp only [Option.elim_some, reduceCtorEq, false_iff, not_and]
        exact fun _ hnone => hnone b hb hPb
  | none =>
      have hnone : ∀ a ∈ entries, ¬P a := fun a ha hPa =>
        List.find?_eq_none.mp hfind a ha ((hp a).mpr hPa)
      constructor
      · intro a
        rw [← find?_eq_some_iff_first hp, hfind]
        simp
      · intro e
        rw [Option.elim_none, Except.error.injEq, eq_comm]
        exact ⟨fun he => ⟨he, hnone⟩, And.left⟩

end Searching

/-! ## The questions of the three searches -/

namespace Language

/-- The name of a language or one of its aliases is a name up to the case of ASCII
letters. -/
def GoesBy (l : Language) (name : List Char) : Prop :=
  ∃ n ∈ l.name :: l.aliases, Recased n name

/-- One of the patterns of a language matches the name of the file at the end of a
path, or the empty name if the path ends in no file. -/
def ClaimsPath (l : Language) (path : List Char) : Prop :=
  ∃ glob ∈ l.filenames, globMatches glob ((fileName? path).getD []) = true

variable {l : Language}

theorem sameName_iff {s t : List Char} : sameName s t = true ↔ Recased s t := by
  rw [recased_iff, sameName, beq_iff_eq, lower, lower]

theorem isNamed_iff {name : List Char} : l.isNamed name = true ↔ l.GoesBy name := by
  simp [isNamed, GoesBy, sameName_iff]

theorem claimsFile_iff {path : List Char} :
    l.claimsFile ((fileName? path).getD []) = true ↔ l.ClaimsPath path := by
  simp [claimsFile, ClaimsPath]

end Language

/-! ## What a registry holds -/

section Ordered

variable {α : Type} {nameOf : α → List Char}

theorem map_some_filterMap {β : Type} {f : α → Option β} {as : List α}
    (h : ∀ a ∈ as, (f a).isSome) : (as.filterMap f).map some = as.map f := by
  induction as with
  | nil => rfl
  | cons a as ih =>
      obtain ⟨ha, has⟩ := List.forall_mem_cons.mp h
      obtain ⟨b, hb⟩ := Option.isSome_iff_exists.mp ha
      rw [List.filterMap_cons_some hb, List.map_cons, List.map_cons, hb, ih has]

/-- Every registered name has an entry, the one that was registered last under it. -/
theorem map_some_registerAllBy (as : List α) :
    (registerAllBy nameOf as).map some =
      (namesInOrder nameOf as).map (lastNamed? nameOf as) := by
  have hsome : ∀ name ∈ namesInOrder nameOf as, (lastNamed? nameOf as name).isSome := by
    intro name hname
    obtain ⟨a, ha, -⟩ := Option.map_eq_some_iff.mp (map_lastNamed? hname)
    rw [ha, Option.isSome_some]
  rw [registerAllBy_eq, map_some_filterMap hsome]

/-- Of two names the one that was first registered earlier comes first. -/
theorem pairwise_namesInOrder (as : List α) :
    (namesInOrder nameOf as).Pairwise fun m n =>
      (as.map nameOf).idxOf m < (as.map nameOf).idxOf n := by
  induction as using List.reverseRecOn with
  | nil => exact .nil
  | append_singleton as a ih =>
      have hold : (namesInOrder nameOf as).Pairwise fun m n =>
          ((as ++ [a]).map nameOf).idxOf m < ((as ++ [a]).map nameOf).idxOf n := by
        refine ih.imp_of_mem fun {m n} hm hn h => ?_
        rwa [List.map_append, List.idxOf_append_of_mem (mem_namesInOrder.mp hm),
          List.idxOf_append_of_mem (mem_namesInOrder.mp hn)]
      rw [namesInOrder_concat]
      split
      · exact hold
      · next hnew =>
        refine List.pairwise_append.mpr ⟨hold, List.pairwise_singleton .., ?_⟩
        intro m hm n hn
        obtain rfl := List.mem_singleton.mp hn
        have hm := mem_namesInOrder.mp hm
        rw [List.map_append, List.idxOf_append_of_mem hm,
          List.idxOf_append_of_notMem (mt mem_namesInOrder.mpr hnew)]
        exact (List.idxOf_lt_length_of_mem hm).trans_le (Nat.le_add_right _ _)

end Ordered

namespace LanguageRegistry

variable {ls : List Language}

theorem findsFirst_get (r : LanguageRegistry) (name : List Char) :
    FindsFirst (·.GoesBy name) r.languages (LanguageError.notFound name) (r.get name) := by
  refine findsFirst_of_find? (p := (·.isNamed name)) (fun _ => Language.isNamed_iff) ?_
  rw [get]
  cases r.languages.find? (·.isNamed name) <;> rfl

theorem findsFirst_forFilename (r : LanguageRegistry) (path : List Char) :
    FindsFirst (·.ClaimsPath path) r.languages (LanguageError.noneForFilename path)
      (r.forFilename path) := by
  refine findsFirst_of_find? (p := (·.claimsFile ((fileName? path).getD [])))
    (fun _ => Language.claimsFile_iff) ?_
  rw [forFilename]
  cases r.languages.find? (·.claimsFile ((fileName? path).getD [])) <;> rfl

theorem findsFirst_forMimetype (r : LanguageRegistry) (mimetype : List Char) :
    FindsFirst (mimetype ∈ ·.mimetypes) r.languages (LanguageError.noneForMimetype mimetype)
      (r.forMimetype mimetype) := by
  refine findsFirst_of_find? (p := (·.mimetypes.contains mimetype))
    (fun _ => List.contains_iff_mem) ?_
  rw [forMimetype]
  cases r.languages.find? (·.mimetypes.contains mimetype) <;> rfl

theorem pairwise_names_registerAll : (registerAll ls).names.Pairwise (List.Lex (· < ·)) := by
  rw [names, sortedNames, languages_registerAll, map_registerAllBy]
  exact pairwise_sortTexts (nodup_namesInOrder ls)

/-- **A registry is a map that keeps the order of its keys.** After registering any
languages it holds one for each registered name, the one that was registered last under
it, in the order in which the names were first registered. Its list of names holds
these names in strict order. Looking up a name, a path or a mime type finds the first
language of that order that goes by the name, claims the file of the path or has the
type, and fails just where no language does, with an error that names what was looked
for. -/
theorem registry_keeps_ordered_map (ls : List Language) :
    (registerAll ls).languages.map some =
        (namesInOrder Language.name ls).map (lastNamed? Language.name ls) ∧
      (namesInOrder Language.name ls).Pairwise (fun m n =>
        (ls.map Language.name).idxOf m < (ls.map Language.name).idxOf n) ∧
      (registerAll ls).names.Pairwise (List.Lex (· < ·)) ∧
      (∀ name, name ∈ (registerAll ls).names ↔ name ∈ ls.map Language.name) ∧
      (∀ name, FindsFirst (·.GoesBy name) (registerAll ls).languages
        (LanguageError.notFound name) ((registerAll ls).get name)) ∧
      (∀ path, FindsFirst (·.ClaimsPath path) (registerAll ls).languages
        (LanguageError.noneForFilename path) ((registerAll ls).forFilename path)) ∧
      ∀ mimetype, FindsFirst (mimetype ∈ ·.mimetypes) (registerAll ls).languages
        (LanguageError.noneForMimetype mimetype) ((registerAll ls).forMimetype mimetype) := by
  refine ⟨?_, pairwise_namesInOrder ls, pairwise_names_registerAll, fun name => ?_,
    findsFirst_get _, findsFirst_forFilename _, findsFirst_forMimetype _⟩
  · rw [languages_registerAll, map_some_registerAllBy]
  · rw [mem_names_registerAll, mem_namesInOrder]

end LanguageRegistry

end GaussMarkup
