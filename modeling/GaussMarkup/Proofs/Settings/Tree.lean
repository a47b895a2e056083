import GaussMarkup.Proofs.Settings.Keys
import Mathlib.Logic.Function.Basic

/-!
# Trees that hold settings

A tree holds values for the nine settings if each of its sections is a table with
these values under their names (`TreeHolds`). Assigning a value along the path of
its setting, or laying a file over the tree, changes the values that are named and
no others (`TreeHolds.assign`, `TreeHolds.layer`). A tree that holds values can be
decoded, and the settings have these values (`TreeHolds.exists_decode`).
-/

namespace GaussMarkup

/-! ## Fields of tables -/

theorem exists_of_mapM_cons {α β : Type} {f : α → Option β} {x : α} {xs : List α} {ys : List β}
    (h : (x :: xs).mapM f = some ys) :
    ∃ y ys', f x = some y ∧ xs.mapM f = some ys' ∧ ys = y :: ys' := by
  rw [List.mapM_cons] at h
  obtain ⟨y, hy, h⟩ := Option.bind_eq_some_iff.mp h
  obtain ⟨ys', hys, h⟩ := Option.bind_eq_some_iff.mp h
  exact ⟨y, ys', hy, hys, (Option.some.inj h).symm⟩

theorem lookup_cons_ite {α β : Type} [BEq α] [LawfulBEq α] [DecidableEq α] (a b : α) (v : β)
    (xs : List (α × β)) :
    ((b, v) :: xs).lookup a = if a = b then some v else xs.lookup a := by
  rw [List.lookup_cons]
  by_cases h : a = b
  · simp [h]
  · rw [if_neg h, beq_eq_false_iff_ne.mpr h]

theorem lookup_registerBy (key key' : List Char) (s : Setting) (fields : Fields) :
    (registerBy Prod.fst (key, s) fields).lookup key' =
      if key' = key then some s else fields.lookup key' := by
  induction fields with
  | nil => exact lookup_cons_ite key' key s []
  | cons field fields ih =>
      obtain ⟨key₀, s₀⟩ := field
      rw [registerBy]
      split
      · next h =>
        obtain rfl : key₀ = key := h
        rw [lookup_cons_ite, lookup_cons_ite]
        split <;> rfl
      · next h =>
        rw [lookup_cons_ite, lookup_cons_ite, ih]
        by_cases h' : key' = key₀
        · subst h'
          rw [if_pos rfl, if_pos rfl, if_neg h]
        · rw [if_neg h', if_neg h']

namespace Setting

theorem field?_setField (s : Setting) (key key' : List Char) (value : Setting) :
    (s.setField key value).field? key' = if key' = key then some value else s.field? key' :=
  lookup_registerBy key key' value s.asTable.2

theorem put_scalar (s : Setting) (key : List Char) (origin : Origin) (value : Scalar) :
    put key (.scalar origin value) s = s.setField (lowercase key) (.scalar origin value) := by
  rw [put]

theorem assign_field (value s : Setting) (key : List Char) :
    assign value [.field key] s = put key value s := rfl

theorem assign_field_field (value s : Setting) (key key' : List Char) :
    assign value [.field key, .field key'] s =
      s.setField (lowercase key)
        (put key' value ((s.field? (lowercase key)).getD missing)) := rfl

theorem putAll_nil (s : Setting) : putAll [] s = s := by
  rw [putAll]

theorem putAll_cons (s : Setting) (field : List Char × Setting) (fields : Fields) :
    putAll (field :: fields) s = putAll fields (put field.1 field.2 s) := by
  rw [putAll]

/-- A section holds a value for a setting. A missing field stands for none. -/
structure Holds (s : Setting) (k : SettingKey) (value : Scalar) : Prop where
  accepts : k.accepts value = true
  field?_eq : (∃ origin, s.field? k.name.toList = some (.scalar origin value)) ∨
    (value = .nil ∧ s.field? k.name.toList = none)

end Setting

/-! ## Sections -/

/-- A section is a table that holds the values of its settings. -/
structure SectionHolds (part : Section) (s : Setting) (values : SettingKey → Scalar) : Prop where
  isTable : ∃ origin fields, s = .table origin fields
  holds : ∀ k : SettingKey, k.part = part → s.Holds k (values k)

/-- Some values with others in their places, one after the other. -/
def overlay (values : SettingKey → Scalar) (changes : List (SettingKey × Scalar)) :
    SettingKey → Scalar :=
  changes.foldl (fun values change => Function.update values change.1 change.2) values

@[simp] theorem overlay_nil (values : SettingKey → Scalar) : overlay values [] = values := rfl

theorem overlay_cons (values : SettingKey → Scalar) (k : SettingKey) (value : Scalar)
    (changes : List (SettingKey × Scalar)) :
    overlay values ((k, value) :: changes) = overlay (Function.update values k value) changes :=
  rfl

theorem overlay_append (values : SettingKey → Scalar) (changes more : List (SettingKey × Scalar)) :
    overlay values (changes ++ more) = overlay (overlay values changes) more :=
  List.foldl_append

theorem overlay_apply (values : SettingKey → Scalar) (changes : List (SettingKey × Scalar))
    (k : SettingKey) : overlay values changes k = (changes.reverse.lookup k).getD (values k) := by
  induction changes generalizing values with
  | nil => rfl
  | cons change changes ih =>
      obtain ⟨k', value⟩ := change
      rw [overlay_cons, ih, List.reverse_cons, List.lookup_append, Option.getD_or]
      congr 1
      rw [lookup_cons_ite, Function.update_apply]
      split <;> rfl

section Sections

variable {part : Section} {s : Setting} {values : SettingKey → Scalar}

theorem SectionHolds.put (h : SectionHolds part s values) {k : SettingKey} {value : Scalar}
    (hk : k.part = part) (haccepts : k.accepts value = true) (origin : Origin) :
    SectionHolds part (Setting.put k.name.toList (.scalar origin value) s)
      (Function.update values k value) where
  isTable := by
    rw [Setting.put_scalar]
    exact ⟨_, _, rfl⟩
  holds k' hk' := by
    rw [Setting.put_scalar, k.lowercase_name]
    by_cases heq : k' = k
    · subst heq
      rw [Function.update_self]
      refine ⟨haccepts, Or.inl ⟨origin, ?_⟩⟩
      rw [Setting.field?_setField, if_pos rfl]
    · -- Another setting of the section has another name there.
      have hname : k'.name.toList ≠ k.name.toList :=
        fun hname => heq (SettingKey.eq_of_name (hk'.trans hk.symm) hname)
      have hold := h.holds k' hk'
      rw [Function.update_of_ne heq]
      refine ⟨hold.accepts, ?_⟩
      rw [Setting.field?_setField, if_neg hname]
      exact hold.field?_eq

/-- The fields of a section are laid over it one after the other. -/
theorem SectionHolds.putAll (h : SectionHolds part s values) {fields : Fields}
    {changes : List (SettingKey × Scalar)} (hvalues : fields.mapM part.value? = some changes) :
    SectionHolds part (Setting.putAll fields s) (overlay values changes) := by
  induction fields generalizing s values changes with
  | nil =>
      obtain rfl := Option.some.inj hvalues
      rw [Setting.putAll_nil]
      exact h
  | cons field fields ih =>
      obtain ⟨⟨k, value⟩, more, hfield, hmore, rfl⟩ := exists_of_mapM_cons hvalues
      obtain ⟨hk, hname, haccepts, origin, hscalar⟩ := Section.value?_eq_some hfield
      rw [Setting.putAll_cons, hname, hscalar, overlay_cons]
      exact ih (h.put hk haccepts origin) hmore

/-- The fields of a section say nothing about other sections. -/
theorem overlay_of_part_ne {fields : Fields} {changes : List (SettingKey × Scalar)}
    (hvalues : fields.mapM part.value? = some changes) {k : SettingKey} (hk : k.part ≠ part) :
    overlay values changes k = values k := by
  induction fields generalizing values changes with
  | nil =>
      obtain rfl := Option.some.inj hvalues
      rfl
  | cons field fields ih =>
      obtain ⟨⟨k', value⟩, more, hfield, hmore, rfl⟩ := exists_of_mapM_cons hvalues
      have hk' := (Section.value?_eq_some hfield).1
      have hne : k ≠ k' := by
        rintro rfl
        exact hk hk'
      rw [overlay_cons, ih hmore, Function.update_of_ne hne]

end Sections

/-! ## Trees -/

/-- Each section of a tree holds the values of its settings. -/
def TreeHolds (tree : Setting) (values : SettingKey → Scalar) : Prop :=
  ∀ part : Section, ∃ s, tree.field? part.key.toList = some s ∧ SectionHolds part s values

theorem treeHolds_defaultTree : TreeHolds Settings.defaultTree ({} : Settings).value := by
  intro part
  have hfield : ∀ k : SettingKey, ∀ s, Settings.defaultTree.field? k.part.key.toList = some s →
      s.Holds k (({} : Settings).value k) := by
    intro k s hs
    cases k with
    | defaultRole =>
        obtain rfl := Option.some.inj hs
        exact ⟨rfl, Or.inr ⟨rfl, rfl⟩⟩
    | _ =>
        obtain rfl := Option.some.inj hs
        exact ⟨rfl, Or.inl ⟨none, rfl⟩⟩
  obtain ⟨fields, hpart⟩ : ∃ fields, Settings.defaultTree.field? part.key.toList =
      some (.table none fields) := by
    cases part <;> exact ⟨_, rfl⟩
  refine ⟨_, hpart, ⟨_, _, rfl⟩, ?_⟩
  rintro k rfl
  exact hfield k _ hpart

namespace TreeHolds

variable {tree : Setting} {values : SettingKey → Scalar}

/-- A section may be replaced where the values of the others stay. -/
theorem setField (h : TreeHolds tree values) {part : Section} {s : Setting}
    {values' : SettingKey → Scalar} (hs : SectionHolds part s values')
    (hframe : ∀ k : SettingKey, k.part ≠ part → values' k = values k) :
    TreeHolds (tree.setField part.key.toList s) values' := by
  intro part'
  rw [Setting.field?_setField]
  by_cases heq : part' = part
  · subst heq
    rw [if_pos rfl]
    exact ⟨s, rfl, hs⟩
  · have hkey : part'.key.toList ≠ part.key.toList := fun hkey => heq (Section.eq_of_key hkey)
    rw [if_neg hkey]
    obtain ⟨s', hs', hholds⟩ := h part'
    refine ⟨s', hs', hholds.isTable, fun k hk => ?_⟩
    rw [hframe k (by rwa [hk])]
    exact hholds.holds k hk

theorem assign (h : TreeHolds tree values) {k : SettingKey} {value : Scalar}
    (haccepts : k.accepts value = true) (origin : Origin) :
    TreeHolds (Setting.assign (.scalar origin value) k.path tree)
      (Function.update values k value) := by
  obtain ⟨s, hs, hholds⟩ := h k.part
  rw [SettingKey.path, Setting.assign_field_field, Section.lowercase_key, hs, Option.getD_some]
  refine h.setField (hholds.put rfl haccepts origin) fun k' hk' => ?_
  refine Function.update_of_ne ?_ value values
  rintro rfl
  exact hk' rfl

/-- Assignments go over a tree one after the other. -/
theorem foldl_assign (h : TreeHolds tree values) {assigned : List (SettingKey × Scalar)}
    (hassigned : ∀ a ∈ assigned, a.1.accepts a.2 = true) :
    TreeHolds ((assigned.map fun a => (a.1.path, Setting.scalar none a.2)).foldl
      (fun tree a => Setting.assign a.2 a.1 tree) tree) (overlay values assigned) := by
  induction assigned generalizing tree values with
  | nil => exact h
  | cons a assigned ih =>
      obtain ⟨haccepts, hassigned⟩ := List.forall_mem_cons.mp hassigned
      exact ih (h.assign haccepts none) hassigned

/-- A field at the top of a file changes what it names. -/
theorem assign_topPath (h : TreeHolds tree values) {field : List Char × Setting}
    {changes : List (SettingKey × Scalar)} (hvalues : topValues? field = some changes) :
    TreeHolds (Setting.assign field.2 (topPath field.1) tree) (overlay values changes) := by
  unfold topValues? at hvalues
  split at hvalues
  · next part origin fields hpart hsection =>
    have hkey := List.find?_some hpart
    obtain ⟨s, hs, hholds⟩ := h part
    rw [← of_decide_eq_true hkey, Section.topPath_key, Setting.assign_field, hsection,
      Setting.put, Section.lowercase_key, hs, Option.getD_some]
    exact h.setField (hholds.putAll hvalues) fun k hk => overlay_of_part_ne hvalues hk
  · obtain ⟨⟨k, value⟩, hfield, rfl⟩ := Option.map_eq_some_iff.mp hvalues
    obtain ⟨hname, haccepts, origin, hscalar⟩ := fullValue?_eq_some hfield
    rw [hname, hscalar, SettingKey.topPath_fullName, overlay_cons, overlay_nil]
    exact h.assign haccepts origin

theorem layer (h : TreeHolds tree values) {fields : Fields}
    {changes : List (List (SettingKey × Scalar))}
    (hvalues : fields.mapM topValues? = some changes) :
    TreeHolds (tree.layer fields) (overlay values changes.flatten) := by
  induction fields generalizing tree values changes with
  | nil =>
      obtain rfl := Option.some.inj hvalues
      exact h
  | cons field fields ih =>
      obtain ⟨first, more, hfield, hmore, rfl⟩ := exists_of_mapM_cons hvalues
      rw [List.flatten_cons, overlay_append]
      exact ih (h.assign_topPath hfield) hmore

end TreeHolds

/-! ## Decoding -/

section Decoding

variable {part : Section} {s : Setting} {values : SettingKey → Scalar} {α : Type}
  {convert : Conversion α} {a : α}

/-- A field with its value, or without one. -/
theorem SectionHolds.field?_eq (h : SectionHolds part s values) {k : SettingKey}
    (hk : k.part = part) (position : Nat) :
    (∃ origin, part.field? ⟨k.name, position⟩ s =
        .ok (some (part.key.toList ++ '.' :: k.name.toList, .scalar origin (values k)))) ∨
      (values k = .nil ∧ part.field? ⟨k.name, position⟩ s = .ok none) := by
  obtain ⟨origin, fields, rfl⟩ := h.isTable
  rcases (h.holds k hk).field?_eq with ⟨o, hlookup⟩ | ⟨hnil, hlookup⟩
  · have hlookup : fields.lookup k.name.toList = some (.scalar o (values k)) := hlookup
    exact Or.inl ⟨o, by rw [Section.field?, hlookup]; rfl⟩
  · have hlookup : fields.lookup k.name.toList = none := hlookup
    exact Or.inr ⟨hnil, by rw [Section.field?, hlookup]; rfl⟩

theorem SectionHolds.decodeOr_eq (h : SectionHolds part s values) {k : SettingKey}
    (hk : k.part = part) (hconvert : ∀ origin, convert (.scalar origin (values k)) = .ok a)
    {default : α} (hdefault : values k = .nil → default = a) (position : Nat) :
    part.decodeOr s k.name position convert default = .ok a := by
  rw [Section.decodeOr]
  rcases h.field?_eq hk position with ⟨origin, hfield⟩ | ⟨hnil, hfield⟩
  · rw [hfield]
    simp only [hconvert]
    rfl
  · rw [hfield, ← hdefault hnil]

theorem SectionHolds.decodeFirst_eq (h : SectionHolds part s values) {k : SettingKey}
    (hk : k.part = part) (hconvert : ∀ origin, convert (.scalar origin (values k)) = .ok a)
    (hvalue : values k ≠ .nil) : part.decodeFirst s k.name convert = .ok a := by
  rcases h.field?_eq hk 0 with ⟨origin, hfield⟩ | ⟨hnil, -⟩
  · simp only [Section.decodeFirst, hfield, hconvert]
    rfl
  · exact absurd hnil hvalue

end Decoding

section Types

variable {k : SettingKey} {value : Scalar}

theorem SettingKey.exists_boolean (hk : k.wanted = .boolean) (h : k.accepts value = true) :
    ∃ b, value = .boolean b := by
  cases value with
  | boolean b => exact ⟨b, rfl⟩
  | _ => cases k <;> cases hk <;> cases h

theorem SettingKey.exists_unsigned (hk : k.wanted = .unsigned) (h : k.accepts value = true) :
    ∃ n : Nat, value = .integer n := by
  cases value with
  | integer n =>
      have hle : 0 ≤ n := by
        simp only [SettingKey.accepts, hk, decide_eq_true_eq] at h
        exact h.1
      exact ⟨n.toNat, by rw [Int.toNat_of_nonneg hle]⟩
  | _ =>
      cases k <;> cases hk
      cases h

theorem SettingKey.exists_string (hk : k.wanted = .string) (hne : k ≠ .defaultRole)
    (h : k.accepts value = true) : ∃ text, value = .string text := by
  cases value with
  | string text => exact ⟨text, rfl⟩
  | nil =>
      simp only [SettingKey.accepts, decide_eq_true_eq] at h
      exact absurd h hne
  | _ => cases k <;> cases hk <;> cases h

theorem SettingKey.exists_role (h : SettingKey.defaultRole.accepts value = true) :
    ∃ role : Option (List Char), value = (role.map Scalar.string).getD .nil := by
  cases value with
  | nil => exact ⟨none, rfl⟩
  | string text => exact ⟨some text, rfl⟩
  | _ => cases h

end Types

/-- Values of the right types are the values of some settings. -/
theorem exists_settings {values : SettingKey → Scalar}
    (h : ∀ k : SettingKey, k.accepts (values k) = true) :
    ∃ settings : Settings, settings.value = values := by
  obtain ⟨stripNewlines, hstripNewlines⟩ := SettingKey.exists_boolean rfl (h .stripNewlines)
  obtain ⟨stripAll, hstripAll⟩ := SettingKey.exists_boolean rfl (h .stripAll)
  obtain ⟨ensureNewline, hensureNewline⟩ := SettingKey.exists_boolean rfl (h .ensureNewline)
  obtain ⟨tabSize, htabSize⟩ := SettingKey.exists_unsigned rfl (h .tabSize)
  obtain ⟨blockClass, hblockClass⟩ := SettingKey.exists_string rfl (by decide) (h .blockClass)
  obtain ⟨classStem, hclassStem⟩ := SettingKey.exists_string rfl (by decide) (h .classStem)
  obtain ⟨separator, hseparator⟩ := SettingKey.exists_string rfl (by decide) (h .separator)
  obtain ⟨menuArrow, hmenuArrow⟩ := SettingKey.exists_string rfl (by decide) (h .menuArrow)
  obtain ⟨defaultRole, hdefaultRole⟩ := SettingKey.exists_role (h .defaultRole)
  refine ⟨{
    source := { stripNewlines, stripAll, ensureNewline, tabSize }
    html := { blockClass, classStem }
    separator
    roles := { menuArrow, defaultRole } }, funext fun k => ?_⟩
  cases k with
  | stripNewlines => exact hstripNewlines.symm
  | stripAll => exact hstripAll.symm
  | ensureNewline => exact hensureNewline.symm
  | tabSize => exact htabSize.symm
  | blockClass => exact hblockClass.symm
  | classStem => exact hclassStem.symm
  | separator => exact hseparator.symm
  | menuArrow => exact hmenuArrow.symm
  | defaultRole => exact hdefaultRole.symm

namespace TreeHolds

variable {tree : Setting}

theorem toUnsigned_natCast (origin : Origin) (n : Nat) :
    Setting.toUnsigned (.scalar origin (.integer n)) = .ok n := by
  rw [Setting.toUnsigned, if_pos (Int.natCast_nonneg n), Int.toNat_natCast]

theorem toText?_role (origin : Origin) (role : Option (List Char)) :
    Setting.toText? (.scalar origin ((role.map Scalar.string).getD .nil)) = .ok role := by
  cases role <;> rfl

theorem decode_eq {settings : Settings} (h : TreeHolds tree settings.value) :
    Settings.decode tree = .ok settings := by
  obtain ⟨lexer, hlexer, hl⟩ := h .lexer
  obtain ⟨html, hhtml, hh⟩ := h .html
  obtain ⟨signature, hsignature, hs⟩ := h .signature
  obtain ⟨roles, hroles, hr⟩ := h .roles
  have hstripNewlines :
      Section.lexer.decodeOr lexer "strip_newlines" 0 Setting.toBoolean false =
        .ok settings.source.stripNewlines :=
    hl.decodeOr_eq (k := .stripNewlines) rfl (fun _ => rfl) nofun 0
  have hstripAll :
      Section.lexer.decodeOr lexer "strip_all" 1 Setting.toBoolean false =
        .ok settings.source.stripAll :=
    hl.decodeOr_eq (k := .stripAll) rfl (fun _ => rfl) nofun 1
  have hensureNewline :
      Section.lexer.decodeOr lexer "ensure_newline" 2 Setting.toBoolean false =
        .ok settings.source.ensureNewline :=
    hl.decodeOr_eq (k := .ensureNewline) rfl (fun _ => rfl) nofun 2
  have htabSize :
      Section.lexer.decodeOr lexer "tab_size" 3 Setting.toUnsigned 0 =
        .ok settings.source.tabSize :=
    hl.decodeOr_eq (k := .tabSize) rfl (fun origin => toUnsigned_natCast origin _) nofun 3
  have hblockClass :
      Section.html.decodeFirst html "css_class" Setting.toText = .ok settings.html.blockClass :=
    hh.decodeFirst_eq (k := .blockClass) rfl (fun _ => rfl) nofun
  have hclassStem :
      Section.html.decodeOr html "class_prefix" 1 Setting.toText [] =
        .ok settings.html.classStem :=
    hh.decodeOr_eq (k := .classStem) rfl (fun _ => rfl) nofun 1
  have hseparator :
      Section.signature.decodeFirst signature "separator" Setting.toText =
        .ok settings.separator :=
    hs.decodeFirst_eq (k := .separator) rfl (fun _ => rfl) nofun
  have hmenuArrow :
      Section.roles.decodeFirst roles "menu_arrow" Setting.toText = .ok settings.roles.menuArrow :=
    hr.decodeFirst_eq (k := .menuArrow) rfl (fun _ => rfl) nofun
  have hdefaultRole :
      Section.roles.decodeOr roles "default_role" 1 Setting.toText? none =
        .ok settings.roles.defaultRole := by
    refine hr.decodeOr_eq (k := .defaultRole) rfl (fun origin => toText?_role origin _) ?_ 1
    intro hnil
    cases hrole : settings.roles.defaultRole with
    | none => rfl
    | some role =>
        rw [Settings.value, hrole] at hnil
        cases hnil
  simp only [Settings.decode, Section.of, hlexer, hhtml, hsignature, hroles, hstripNewlines,
    hstripAll, hensureNewline, htabSize, hblockClass, hclassStem, hseparator, hmenuArrow,
    hdefaultRole, bind, Except.bind]
  rfl

/-- A tree that holds values can be decoded, and the settings have these values. -/
theorem exists_decode {values : SettingKey → Scalar} (h : TreeHolds tree values) :
    ∃ settings, Settings.decode tree = .ok settings ∧ settings.value = values := by
  have haccepts : ∀ k : SettingKey, k.accepts (values k) = true := by
    intro k
    obtain ⟨s, -, hs⟩ := h k.part
    exact (hs.holds k rfl).accepts
  obtain ⟨settings, rfl⟩ := exists_settings haccepts
  exact ⟨settings, h.decode_eq, rfl⟩

end TreeHolds

end GaussMarkup
