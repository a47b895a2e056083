import GaussMarkup.Language.Registry
import GaussMarkup.Proofs.Registry.Ordered
import GaussMarkup.Proofs.Text.Prefixes
import Mathlib.Data.List.TakeWhile

/-!
# Looking up the languages of a registry

A registry keeps languages apart by their exact names, but it finds the first that goes
by a name, be it by its own name or an alias and in any case of letters. So a listed name
finds the language that was registered last under it, unless a language in front of that
one goes by the name as well. In front stand the languages whose names were registered
first earlier, however late they themselves were put there.
-/

namespace GaussMarkup

theorem Language.isNamed_name (l : Language) : l.isNamed l.name := by
  simp [isNamed, sameName]

namespace LanguageRegistry

/-- The registry after registering some languages, one after the other. -/
def registerAll (ls : List Language) : LanguageRegistry :=
  ls.foldl register {}

theorem standard_eq (options : SourceOptions) :
    standard options = registerAll [.gauss options, .plainText] :=
  rfl

/-- The languages in front of a name: of each name that was first registered earlier, the
language that was registered last under it. -/
def inFrontOf (ls : List Language) (name : List Char) : List Language :=
  ((namesInOrder Language.name ls).takeWhile (· != name)).filterMap
    (lastNamed? Language.name ls)

variable {ls : List Language} {l m : Language} {name : List Char}

/-! ## What a registry holds -/

theorem languages_foldl_register (ls : List Language) (r : LanguageRegistry) :
    (ls.foldl register r).languages =
      ls.foldl (fun entries l => registerBy Language.name l entries) r.languages := by
  induction ls generalizing r with
  | nil => rfl
  | cons l ls ih => exact ih (r.register l)

theorem languages_registerAll (ls : List Language) :
    (registerAll ls).languages = registerAllBy Language.name ls :=
  languages_foldl_register ls {}

theorem mem_names_registerAll :
    name ∈ (registerAll ls).names ↔ name ∈ namesInOrder Language.name ls := by
  rw [names, sortedNames, mem_sortTexts, languages_registerAll, map_registerAllBy]

/-- The language of a name stands behind the languages in front of the name. -/
theorem exists_languages_eq (hname : name ∈ namesInOrder Language.name ls)
    (hlast : lastNamed? Language.name ls name = some l) :
    ∃ behind, (registerAll ls).languages = inFrontOf ls name ++ l :: behind := by
  obtain ⟨front, behind, hnames, hfront⟩ := List.eq_append_cons_of_mem hname
  refine ⟨behind.filterMap (lastNamed? Language.name ls), ?_⟩
  rw [languages_registerAll, registerAllBy_eq, inFrontOf, hnames,
    (takeWhile_ne_of_not_mem hfront behind).1, List.filterMap_append,
    List.filterMap_cons_some hlast]

theorem name_ne_of_mem_inFrontOf (h : m ∈ inFrontOf ls name) : m.name ≠ name := by
  obtain ⟨other, hother, hm⟩ := List.mem_filterMap.mp h
  rw [(lastNamed?_eq_some hm).2]
  simpa using List.mem_takeWhile_imp hother

/-! ## What a listed name finds -/

theorem get_of_listed (hname : name ∈ namesInOrder Language.name ls)
    (hlast : lastNamed? Language.name ls name = some l) :
    (registerAll ls).get name =
      .ok (((inFrontOf ls name).find? (·.isNamed name)).getD l) := by
  obtain ⟨behind, hlanguages⟩ := exists_languages_eq hname hlast
  have hnamed : l.isNamed name := (lastNamed?_eq_some hlast).2 ▸ l.isNamed_name
  have hhere : (l :: behind).find? (·.isNamed name) = some l := List.find?_cons_of_pos hnamed
  rw [get, hlanguages, List.find?_append, hhere]
  cases (inFrontOf ls name).find? (·.isNamed name) <;> rfl

/-- **A listed name finds the language registered last under it**, unless languages whose
names were first registered earlier go by that name, up to the case of ASCII letters or
by an alias; then it finds the first of these. -/
theorem listed_name_finds (ls : List Language) (name : List Char)
    (hname : name ∈ (registerAll ls).names) :
    ∃ l, lastNamed? Language.name ls name = some l ∧
      (registerAll ls).get name =
        .ok (((inFrontOf ls name).find? (·.isNamed name)).getD l) ∧
      ((registerAll ls).get name = .ok l ↔ ∀ m ∈ inFrontOf ls name, m.isNamed name = false) := by
  have hlisted := mem_names_registerAll.mp hname
  obtain ⟨l, hlast, hl⟩ := Option.map_eq_some_iff.mp (map_lastNamed? hlisted)
  have hget := get_of_listed hlisted hlast
  refine ⟨l, hlast, hget, ?_⟩
  rw [hget]
  cases hfind : (inFrontOf ls name).find? (·.isNamed name) with
  | none => simpa using hfind
  | some m =>
      have hm := List.mem_of_find?_eq_some hfind
      have hne : m ≠ l := by
        rintro rfl
        exact name_ne_of_mem_inFrontOf hm hl
      refine iff_of_false (fun heq => hne (Except.ok.inj heq)) fun hfree => ?_
      exact absurd (List.find?_some hfind) (by simp [hfree m hm])

theorem listed_name_finds_gauss :
    "GAUSS".toList ∈ (standard {}).names ∧ (standard {}).get "GAUSS".toList = .ok (.gauss {}) := by
  rw [standard_eq]
  have hname : "GAUSS".toList ∈ (registerAll [.gauss {}, .plainText]).names :=
    mem_names_registerAll.mpr (by decide)
  obtain ⟨l, hlast, -, hget⟩ := listed_name_finds _ _ hname
  have hl : Language.gauss {} = l := Option.some.inj (Eq.trans rfl hlast)
  have hfront : inFrontOf [.gauss {}, .plainText] "GAUSS".toList = [] := rfl
  rw [hfront, ← hl] at hget
  exact ⟨hname, hget.mpr (List.forall_mem_nil _)⟩

/-- Plain text goes by the alias `text` and so hides a language of that name behind it. -/
theorem alias_hides_listed_name :
    let text : Language := { name := "text".toList, lexemes := lexemeOf .name }
    "text".toList ∈ (registerAll [.plainText, text]).names ∧
      lastNamed? Language.name [.plainText, text] "text".toList = some text ∧
      (registerAll [.plainText, text]).get "text".toList ≠ .ok text := by
  intro text
  refine ⟨mem_names_registerAll.mpr (by decide), rfl, fun h => ?_⟩
  have hget : (registerAll [.plainText, text]).get "text".toList = .ok .plainText := rfl
  have hsame : Language.plainText = text := Except.ok.inj (hget.symm.trans h)
  exact absurd (congrArg Language.name hsame) (by decide)

end LanguageRegistry

end GaussMarkup
