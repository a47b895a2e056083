import GaussMarkup.Proofs.Settings.Tree

/-!
# Settings in layers

Files and assignments may come in any order. A loader keeps them apart: the files
make a tree, and of the assignments to one setting only the last is kept. What a
loader holds after some calls is stated by `Loader.Reflects`, which each call
preserves. So a setting has the value of the last assignment to it, else that of
the last file that sets it, else its default, and no call changes a setting that
it does not name (`settings_layer_key_by_key`).
-/

namespace GaussMarkup

theorem lookup_filter_of_ne {α β : Type} [BEq α] [LawfulBEq α] [DecidableEq α] {a b : α}
    (h : a ≠ b) (xs : List (α × β)) : (xs.filter (·.1 ≠ b)).lookup a = xs.lookup a := by
  induction xs with
  | nil => rfl
  | cons x xs ih =>
      obtain ⟨c, v⟩ := x
      by_cases hc : c = b
      · subst hc
        rw [List.filter_cons_of_neg (by simp), ih, lookup_cons_ite, if_neg h]
      · rw [List.filter_cons_of_pos (by simpa using hc), lookup_cons_ite, lookup_cons_ite, ih]

namespace LoaderCall

/-! ## The last value of a setting -/

theorem lookup_reverse_changes (calls : List LoaderCall) (k : SettingKey) :
    (calls.flatMap (·.changes)).reverse.lookup k = lastValue? calls k := by
  induction calls with
  | nil => rfl
  | cons call calls ih =>
      rw [List.flatMap_cons, List.reverse_append, List.lookup_append, ih, lastValue?, lastValue?,
        List.reverse_cons, List.findSome?_append]
      congr 1
      rw [List.findSome?_cons, List.findSome?_nil, value?]
      cases call.changes.reverse.lookup k <;> rfl

/-- A call that does not name a setting does not count for its last value. -/
theorem lastValue?_of_value?_eq_none {call : LoaderCall} {k : SettingKey}
    (h : call.value? k = none) (before after : List LoaderCall) :
    lastValue? (before ++ call :: after) k = lastValue? (before ++ after) k := by
  simp [lastValue?, List.findSome?_append, h]

theorem layered_of_value?_eq_none {call : LoaderCall} {k : SettingKey} (h : call.value? k = none)
    (before after : List LoaderCall) :
    layered (before ++ call :: after) k = layered (before ++ after) k := by
  simp only [layered, List.filter_append, List.filter_cons]
  cases hfile : call.isFile with
  | true => simp [lastValue?_of_value?_eq_none h]
  | false => simp [lastValue?_of_value?_eq_none h]

end LoaderCall

/-! ## What a loader holds -/

/-- A loader after some calls: the tree of its files, and its assignments, one for
each setting at most. -/
structure Loader.Reflects (l : Loader) (calls : List LoaderCall) : Prop where
  tree : ∃ tree, l.fileTree = .ok tree ∧
    TreeHolds tree (overlay ({} : Settings).value ((calls.filter (·.isFile)).flatMap (·.changes)))
  assigned : ∃ assigned : List (SettingKey × Scalar),
    l.assignments = assigned.map (fun a => (a.1.path, .scalar none a.2)) ∧
      (∀ a ∈ assigned, a.1.accepts a.2 = true) ∧
      ∀ k, assigned.reverse.lookup k = LoaderCall.lastValue? (calls.filter (!·.isFile)) k

namespace Loader.Reflects

variable {l : Loader} {calls : List LoaderCall}

theorem empty : Loader.Reflects {} [] where
  tree := ⟨_, rfl, treeHolds_defaultTree⟩
  assigned := ⟨[], rfl, List.forall_mem_nil _, fun _ => rfl⟩

theorem addFile (h : l.Reflects calls) {file : SettingsFile}
    {changes : List (SettingKey × Scalar)} (hvalues : file.values? = some changes) :
    (l.addFile file).Reflects (calls ++ [.file file]) where
  tree := by
    obtain ⟨tree, htree, hholds⟩ := h.tree
    obtain ⟨fields, parts, hfields, hparts, rfl, -⟩ := SettingsFile.values?_eq_some hvalues
    refine ⟨tree.layer fields, ?_, ?_⟩
    · rw [fileTree] at htree ⊢
      rw [Loader.addFile, List.foldlM_append, htree]
      simp only [List.foldlM_cons, List.foldlM_nil, hfields, bind, Except.bind]
      rfl
    · have hchanges : (LoaderCall.file file).changes = parts.flatten := by
        rw [LoaderCall.changes, LoaderCall.values?, hvalues, Option.getD_some]
      have hfiles : ((calls ++ [LoaderCall.file file]).filter (·.isFile)).flatMap (·.changes) =
          (calls.filter (·.isFile)).flatMap (·.changes) ++ parts.flatten := by
        simp [LoaderCall.isFile, hchanges]
      rw [hfiles, overlay_append]
      exact hholds.layer hparts
  assigned := by
    have hassign : (calls ++ [LoaderCall.file file]).filter (!·.isFile) =
        calls.filter (!·.isFile) := by
      simp [LoaderCall.isFile]
    rw [hassign]
    exact h.assigned

/-- An assignment comes last, and takes the place of an earlier one to the same
setting. -/
theorem assign (h : l.Reflects calls) (call : LoaderCall) {k : SettingKey} {value : Scalar}
    (hfile : call.isFile = false) (hchanges : call.changes = [(k, value)])
    (haccepts : k.accepts value = true) :
    ∃ l', l.assign k.fullName (.scalar none value) = .ok l' ∧ l'.Reflects (calls ++ [call]) := by
  obtain ⟨assigned, hassigned, htyped, hlast⟩ := h.assigned
  refine ⟨_, by rw [Loader.assign, k.parse?_fullName], ?_, ?_⟩
  · have hfiles : (calls ++ [call]).filter (·.isFile) = calls.filter (·.isFile) := by
      simp [hfile]
    rw [hfiles]
    exact h.tree
  · refine ⟨assigned.filter (·.1 ≠ k) ++ [(k, value)], ?_, ?_, ?_⟩
    · have hfilter : ((fun a : KeyPath × Setting => decide (a.1 ≠ k.path)) ∘
          fun a : SettingKey × Scalar => (a.1.path, Setting.scalar none a.2)) =
            fun a => decide (a.1 ≠ k) := by
        funext a
        have hpath : a.1.path = k.path ↔ a.1 = k := ⟨SettingKey.path_injective, congrArg _⟩
        simp [hpath]
      rw [List.map_append, ← hfilter, ← List.filter_map, ← hassigned]
      rfl
    · intro a ha
      rcases List.mem_append.mp ha with ha | ha
      · exact htyped a ((List.mem_filter.mp ha).1)
      · obtain rfl := List.mem_singleton.mp ha
        exact haccepts
    · intro k'
      have hvalue : call.value? k' = if k' = k then some value else none := by
        rw [LoaderCall.value?, hchanges]
        exact lookup_cons_ite k' k value []
      have hassign : (calls ++ [call]).filter (!·.isFile) = calls.filter (!·.isFile) ++ [call] := by
        simp [hfile]
      rw [hassign, LoaderCall.lastValue?, List.reverse_append, List.reverse_append,
        List.reverse_singleton, List.reverse_singleton, List.singleton_append,
        List.singleton_append, List.findSome?_cons, lookup_cons_ite, hvalue]
      by_cases hk : k' = k
      · rw [if_pos hk, if_pos hk]
      · rw [if_neg hk, if_neg hk, ← List.filter_reverse, lookup_filter_of_ne hk, hlast]
        rfl

theorem run (h : l.Reflects calls) {call : LoaderCall} (hcall : call.values?.isSome = true) :
    ∃ l', call.run l = .ok l' ∧ l'.Reflects (calls ++ [call]) := by
  obtain ⟨changes, hvalues⟩ := Option.isSome_iff_exists.mp hcall
  cases call with
  | file f => exact ⟨l.addFile f, rfl, h.addFile hvalues⟩
  | assign key value =>
      have hchanges : (LoaderCall.assign key value).changes = changes := by
        rw [LoaderCall.changes, hvalues, Option.getD_some]
      obtain ⟨⟨k, value'⟩, hfull, rfl⟩ := Option.map_eq_some_iff.mp hvalues
      obtain ⟨rfl, haccepts, origin, hscalar⟩ := fullValue?_eq_some hfull
      obtain ⟨rfl, rfl⟩ := Setting.scalar.inj hscalar
      exact h.assign (.assign k.fullName value) rfl hchanges haccepts
  | assignDefaultRole role =>
      exact h.assign (.assignDefaultRole role) (k := .defaultRole) rfl rfl rfl

theorem foldlM {l : Loader} {calls more : List LoaderCall} (h : l.Reflects calls)
    (hmore : ∀ call ∈ more, call.values?.isSome = true) :
    ∃ l', more.foldlM (fun l (call : LoaderCall) => call.run l) l = .ok l' ∧
      l'.Reflects (calls ++ more) := by
  induction more generalizing l calls with
  | nil => exact ⟨l, rfl, by rwa [List.append_nil]⟩
  | cons call more ih =>
      obtain ⟨hcall, hmore⟩ := List.forall_mem_cons.mp hmore
      obtain ⟨l', hrun, hl'⟩ := h.run hcall
      obtain ⟨l'', hfold, hl''⟩ := ih hl' hmore
      refine ⟨l'', ?_, by rwa [List.append_assoc] at hl''⟩
      rw [List.foldlM_cons, hrun]
      exact hfold

theorem build (h : l.Reflects calls) :
    ∃ settings, l.build = .ok settings ∧ settings.value = LoaderCall.layered calls := by
  obtain ⟨tree, htree, hholds⟩ := h.tree
  obtain ⟨assigned, hassigned, htyped, hlast⟩ := h.assigned
  obtain ⟨settings, hdecode, hvalue⟩ := (hholds.foldl_assign htyped).exists_decode
  refine ⟨settings, ?_, funext fun k => ?_⟩
  · rw [Loader.build, htree, hassigned]
    exact hdecode
  · rw [hvalue, overlay_apply, hlast, overlay_apply, LoaderCall.lookup_reverse_changes,
      LoaderCall.layered, Option.getD_or]

end Loader.Reflects

theorem LoaderCall.exists_build {calls : List LoaderCall}
    (hcalls : ∀ call ∈ calls, call.values?.isSome = true) :
    ∃ settings, build calls = .ok settings ∧ settings.value = layered calls := by
  obtain ⟨l, hfold, hl⟩ := Loader.Reflects.empty.foldlM hcalls
  obtain ⟨settings, hbuild, hvalue⟩ := hl.build
  refine ⟨settings, ?_, hvalue⟩
  rw [build, hfold]
  exact hbuild

/-- **Settings are layered key by key.** Whatever files and assignments a loader is
given, in any order, as long as they set nothing but the nine settings to values of
their types and no file gives one setting twice, it makes settings of them. Each has the value of the last assignment
to it, else that of the last file that sets it, else its default. A call that does
not name a setting makes no difference to it. -/
theorem settings_layer_key_by_key {calls : List LoaderCall}
    (hcalls : ∀ call ∈ calls, call.values?.isSome = true) :
    ∃ settings, LoaderCall.build calls = .ok settings ∧
      (∀ k, settings.value k = LoaderCall.layered calls k) ∧
      ∀ before call after k, calls = before ++ call :: after → call.value? k = none →
        ∃ settings', LoaderCall.build (before ++ after) = .ok settings' ∧
          settings'.value k = settings.value k := by
  obtain ⟨settings, hsettings, hvalue⟩ := LoaderCall.exists_build hcalls
  refine ⟨settings, hsettings, congrFun hvalue, ?_⟩
  rintro before call after k rfl hnone
  have hothers : ∀ other ∈ before ++ after, other.values?.isSome = true := by
    intro other hother
    refine hcalls other ?_
    rcases List.mem_append.mp hother with h | h
    · exact List.mem_append_left _ h
    · exact List.mem_append_right _ (List.mem_cons_of_mem _ h)
  obtain ⟨settings', hsettings', hvalue'⟩ := LoaderCall.exists_build hothers
  refine ⟨settings', hsettings', ?_⟩
  rw [hvalue, hvalue', LoaderCall.layered_of_value?_eq_none hnone]

/-- An assignment in front of the files, two files that share a section, and a
missing one between them. -/
theorem settings_layer_key_by_key_files :
    let calls : List LoaderCall :=
      [.assign "lexer.tab_size".toList (.integer 2),
        .file ⟨"a.toml".toList, true,
          .text "a.toml".toList "[lexer]\ntab_size = 8\nstrip_all = true\n".toList⟩,
        .file ⟨"p.toml".toList, false, .missing⟩,
        .file ⟨"b.toml".toList, true,
          .text "b.toml".toList "lexer.ensure_newline = true\nroles.menu_arrow = '|'\n".toList⟩]
    (∀ call ∈ calls, call.values?.isSome = true) ∧
      ∃ settings, LoaderCall.build calls = .ok settings ∧
        settings.value .tabSize = .integer 2 ∧ settings.value .stripAll = .boolean true ∧
        settings.value .ensureNewline = .boolean true ∧
        settings.value .menuArrow = .string ['|'] ∧ settings.value .separator = .string [',', ' '] := by
  intro calls
  have hcalls : ∀ call ∈ calls, call.values?.isSome = true := by
    decide +kernel
  obtain ⟨settings, hbuild, hvalue, -⟩ := settings_layer_key_by_key hcalls
  refine ⟨hcalls, settings, hbuild, (hvalue _).trans ?_, (hvalue _).trans ?_, (hvalue _).trans ?_,
    (hvalue _).trans ?_, (hvalue _).trans ?_⟩ <;> decide +kernel

end GaussMarkup
