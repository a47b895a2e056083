import GaussMarkup.Settings.Loader

/-!
# The nine settings, one by one

Settings come from tables in files and from single assignments. Here each setting
has a key of its own (`SettingKey`), so that what a file or a call sets is a list of
keys with values (`LoaderCall.values?`). Calls with other keys, or with values of
another type, have no such list, nor has a file that gives a setting twice.
-/

namespace GaussMarkup

inductive SettingKey
  | stripNewlines
  | stripAll
  | ensureNewline
  | tabSize
  | blockClass
  | classStem
  | separator
  | menuArrow
  | defaultRole
  deriving DecidableEq, Repr

namespace SettingKey

def all : List SettingKey :=
  [stripNewlines, stripAll, ensureNewline, tabSize, blockClass, classStem, separator, menuArrow,
    defaultRole]

def part : SettingKey → Section
  | stripNewlines | stripAll | ensureNewline | tabSize => .lexer
  | blockClass | classStem => .html
  | separator => .signature
  | menuArrow | defaultRole => .roles

/-- The name of a setting in its section. -/
def name : SettingKey → String
  | stripNewlines => "strip_newlines"
  | stripAll => "strip_all"
  | ensureNewline => "ensure_newline"
  | tabSize => "tab_size"
  | blockClass => "css_class"
  | classStem => "class_prefix"
  | separator => "separator"
  | menuArrow => "menu_arrow"
  | defaultRole => "default_role"

def fullName (k : SettingKey) : List Char :=
  k.part.key.toList ++ '.' :: k.name.toList

def path (k : SettingKey) : KeyPath :=
  [.field k.part.key.toList, .field k.name.toList]

def wanted : SettingKey → Wanted
  | stripNewlines | stripAll | ensureNewline => .boolean
  | tabSize => .unsigned
  | blockClass | classStem | separator | menuArrow | defaultRole => .string

/-- A value is of the type of a setting. Only the default role may be none. -/
def accepts (k : SettingKey) (value : Scalar) : Bool :=
  match k.wanted, value with
  | .boolean, .boolean _ => true
  | .unsigned, .integer n => 0 ≤ n ∧ n ≤ maxUnsigned
  | .string, .string _ => true
  | _, .nil => k = defaultRole
  | _, _ => false

theorem mem_all (k : SettingKey) : k ∈ all := by
  cases k <;> decide

theorem eq_of_name {k k' : SettingKey} (hpart : k.part = k'.part)
    (hname : k.name.toList = k'.name.toList) : k = k' := by
  have h : ∀ k ∈ all, ∀ k' ∈ all, k.part = k'.part → k.name.toList = k'.name.toList → k = k' := by
    decide
  exact h k (mem_all k) k' (mem_all k') hpart hname

theorem lowercase_name (k : SettingKey) : lowercase k.name.toList = k.name.toList := by
  cases k <;> rfl

theorem parse?_fullName (k : SettingKey) : KeyPath.parse? k.fullName = some k.path := by
  cases k <;> rfl

theorem topPath_fullName (k : SettingKey) : topPath k.fullName = k.path := by
  rw [topPath, parse?_fullName, Option.getD_some]

theorem path_injective {k k' : SettingKey} (h : k.path = k'.path) : k = k' := by
  have hinj : ∀ k ∈ all, ∀ k' ∈ all, k.path = k'.path → k = k' := by
    decide
  exact hinj k (mem_all k) k' (mem_all k') h

end SettingKey

namespace Section

def all : List Section :=
  [lexer, html, signature, roles]

theorem mem_all (part : Section) : part ∈ all := by
  cases part <;> decide

theorem eq_of_key {part part' : Section} (h : part.key.toList = part'.key.toList) :
    part = part' := by
  have hinj : ∀ part ∈ all, ∀ part' ∈ all, part.key.toList = part'.key.toList → part = part' := by
    decide
  exact hinj part (mem_all part) part' (mem_all part') h

theorem lowercase_key (part : Section) : lowercase part.key.toList = part.key.toList := by
  cases part <;> rfl

theorem topPath_key (part : Section) : topPath part.key.toList = [.field part.key.toList] := by
  cases part <;> rfl

end Section

def Settings.value (s : Settings) : SettingKey → Scalar
  | .stripNewlines => .boolean s.source.stripNewlines
  | .stripAll => .boolean s.source.stripAll
  | .ensureNewline => .boolean s.source.ensureNewline
  | .tabSize => .integer s.source.tabSize
  | .blockClass => .string s.html.blockClass
  | .classStem => .string s.html.classStem
  | .separator => .string s.separator
  | .menuArrow => .string s.roles.menuArrow
  | .defaultRole => (s.roles.defaultRole.map Scalar.string).getD .nil

/-! ## What files and calls set -/

/-- What a single value sets that stands under the key of a setting. -/
def Setting.valueFor? (s : Setting) (k? : Option SettingKey) : Option (SettingKey × Scalar) :=
  match k?, s with
  | some k, .scalar _ value => if k.accepts value then some (k, value) else none
  | _, _ => none

/-- What a field of a section sets. -/
def Section.value? (part : Section) (field : List Char × Setting) : Option (SettingKey × Scalar) :=
  field.2.valueFor? (SettingKey.all.find? fun k => k.part = part ∧ k.name.toList = field.1)

/-- What a value sets under a full key. -/
def fullValue? (field : List Char × Setting) : Option (SettingKey × Scalar) :=
  field.2.valueFor? (SettingKey.all.find? (·.fullName = field.1))

/-- What a field at the top of a file sets: the fields of a section, or a value
under a full key. -/
def topValues? (field : List Char × Setting) : Option (List (SettingKey × Scalar)) :=
  match Section.all.find? (·.key.toList = field.1), field.2 with
  | some part, .table _ fields => fields.mapM part.value?
  | _, _ => (fullValue? field).map ([·])

/-- What a file sets, if it gives each setting once. A setting can be written in a
section and under its full key; which of the two counts is left open. -/
def SettingsFile.values? (file : SettingsFile) : Option (List (SettingKey × Scalar)) :=
  match file.fields with
  | .ok fields =>
    ((fields.mapM topValues?).map List.flatten).filter fun changes => (changes.map Prod.fst).Nodup
  | .error _ => none

inductive LoaderCall
  | file (file : SettingsFile)
  | assign (key : List Char) (value : Scalar)
  | assignDefaultRole (role : List Char)
  deriving DecidableEq, Repr

namespace LoaderCall

def run (call : LoaderCall) (l : Loader) : Except SettingsError Loader :=
  match call with
  | .file f => .ok (l.addFile f)
  | .assign key value => l.assign key (.scalar none value)
  | .assignDefaultRole role => l.assignDefaultRole role

def isFile : LoaderCall → Bool
  | .file _ => true
  | _ => false

/-- What a call sets, if it sets nothing but the nine settings, under their full
keys in lower case, to values of their types. -/
def values? : LoaderCall → Option (List (SettingKey × Scalar))
  | .file f => f.values?
  | .assign key value => (fullValue? (key, .scalar none value)).map ([·])
  | .assignDefaultRole role => some [(.defaultRole, .string role)]

def changes (call : LoaderCall) : List (SettingKey × Scalar) :=
  call.values?.getD []

/-- The value that a call gives to a setting; the last one counts. -/
def value? (call : LoaderCall) (k : SettingKey) : Option Scalar :=
  call.changes.reverse.lookup k

/-- The value that the last of some calls gives to a setting. -/
def lastValue? (calls : List LoaderCall) (k : SettingKey) : Option Scalar :=
  calls.reverse.findSome? (·.value? k)

/-- The value that a setting has after some calls: that of the last assignment, or
of the last file that sets it, or the default. -/
def layered (calls : List LoaderCall) (k : SettingKey) : Scalar :=
  ((lastValue? (calls.filter (!·.isFile)) k).or (lastValue? (calls.filter (·.isFile)) k)).getD
    (({} : Settings).value k)

/-- The settings that a loader makes of some calls. -/
def build (calls : List LoaderCall) : Except SettingsError Settings :=
  (calls.foldlM (fun l (call : LoaderCall) => call.run l) {}).bind Loader.build

end LoaderCall

section Values

variable {s : Setting} {k? : Option SettingKey} {k : SettingKey} {value : Scalar}
  {field : List Char × Setting}

theorem Setting.valueFor?_eq_some (h : s.valueFor? k? = some (k, value)) :
    k? = some k ∧ k.accepts value = true ∧ ∃ origin, s = .scalar origin value := by
  unfold Setting.valueFor? at h
  split at h
  · split at h
    · next haccepts =>
      obtain ⟨rfl, rfl⟩ := Prod.mk.inj (Option.some.inj h)
      exact ⟨rfl, haccepts, _, rfl⟩
    · cases h
  · cases h

theorem Section.value?_eq_some {part : Section} (h : part.value? field = some (k, value)) :
    k.part = part ∧ field.1 = k.name.toList ∧ k.accepts value = true ∧
      ∃ origin, field.2 = .scalar origin value := by
  obtain ⟨hfind, haccepts, hscalar⟩ := Setting.valueFor?_eq_some h
  have hkey := List.find?_some hfind
  obtain ⟨hpart, hname⟩ := of_decide_eq_true hkey
  exact ⟨hpart, hname.symm, haccepts, hscalar⟩

theorem fullValue?_eq_some (h : fullValue? field = some (k, value)) :
    field.1 = k.fullName ∧ k.accepts value = true ∧ ∃ origin, field.2 = .scalar origin value := by
  obtain ⟨hfind, haccepts, hscalar⟩ := Setting.valueFor?_eq_some h
  have hkey := List.find?_some hfind
  exact ⟨(of_decide_eq_true hkey).symm, haccepts, hscalar⟩

theorem SettingsFile.values?_eq_some {file : SettingsFile} {changes : List (SettingKey × Scalar)}
    (h : file.values? = some changes) :
    ∃ fields parts, file.fields = .ok fields ∧ fields.mapM topValues? = some parts ∧
      changes = parts.flatten ∧ (changes.map Prod.fst).Nodup := by
  unfold SettingsFile.values? at h
  split at h
  · next fields hfields =>
    obtain ⟨hflatten, hnodup⟩ := Option.filter_eq_some_iff.mp h
    obtain ⟨parts, hparts, rfl⟩ := Option.map_eq_some_iff.mp hflatten
    exact ⟨fields, parts, hfields, hparts, rfl, of_decide_eq_true hnodup⟩
  · cases h

end Values

end GaussMarkup
