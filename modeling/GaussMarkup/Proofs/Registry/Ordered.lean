import GaussMarkup.Registry.Ordered
import Mathlib.Data.List.Induction
import Mathlib.Data.List.Nodup
import Mathlib.Logic.Function.Basic

/-!
# Entries after many registrations

Whatever was registered in whatever order, the entries are one for each name, in the
order in which the names were first registered, and the entry of a name is the one that
was registered last under exactly this name.
-/

namespace GaussMarkup

variable {α : Type} (nameOf : α → List Char)

/-- The entries after registering some, one after the other. -/
def registerAllBy (as : List α) : List α :=
  as.foldl (fun entries a => registerBy nameOf a entries) []

/-- The entry that was registered last under exactly this name. -/
def lastNamed? (as : List α) (name : List Char) : Option α :=
  as.findRev? fun a => nameOf a = name

/-- The names in the order in which they were first registered. -/
def namesInOrder (as : List α) : List (List Char) :=
  (as.map nameOf).eraseDups

variable {nameOf} {as : List α} {a : α} {name : List Char}

theorem mem_namesInOrder : name ∈ namesInOrder nameOf as ↔ name ∈ as.map nameOf :=
  List.mem_eraseDups

theorem namesInOrder_concat (as : List α) (a : α) :
    namesInOrder nameOf (as ++ [a]) =
      if nameOf a ∈ namesInOrder nameOf as then namesInOrder nameOf as
      else namesInOrder nameOf as ++ [nameOf a] := by
  rw [namesInOrder, List.map_append, List.eraseDups_append]
  by_cases h : nameOf a ∈ as.map nameOf
  · rw [if_pos (mem_namesInOrder.mpr h)]
    have hnone : ([a].map nameOf).removeAll (as.map nameOf) = [] := by
      simpa [List.removeAll] using h
    rw [hnone, List.eraseDups_nil, List.append_nil]
    rfl
  · rw [if_neg (mt mem_namesInOrder.mp h)]
    have hone : ([a].map nameOf).removeAll (as.map nameOf) = [nameOf a] := by
      simpa [List.removeAll] using h
    rw [hone]
    rfl

theorem nodup_namesInOrder (as : List α) : (namesInOrder nameOf as).Nodup := by
  induction as using List.reverseRecOn with
  | nil => exact List.nodup_nil
  | append_singleton as a ih =>
      rw [namesInOrder_concat]
      split
      · exact ih
      · next h => exact List.concat_eq_append ▸ ih.concat h

theorem lastNamed?_eq_some (h : lastNamed? nameOf as name = some a) :
    a ∈ as ∧ nameOf a = name := by
  rw [lastNamed?, List.findRev?_eq_find?_reverse] at h
  have hname := List.find?_some h
  exact ⟨List.mem_reverse.mp (List.mem_of_find?_eq_some h), by simpa using hname⟩

theorem map_lastNamed? (h : name ∈ namesInOrder nameOf as) :
    (lastNamed? nameOf as name).map nameOf = some name := by
  have hsome : (lastNamed? nameOf as name).isSome := by
    rw [lastNamed?, List.findRev?_eq_find?_reverse]
    simpa using mem_namesInOrder.mp h
  obtain ⟨a, ha⟩ := Option.isSome_iff_exists.mp hsome
  rw [ha, Option.map_some, (lastNamed?_eq_some ha).2]

theorem lastNamed?_concat (as : List α) (a : α) :
    lastNamed? nameOf (as ++ [a]) =
      Function.update (lastNamed? nameOf as) (nameOf a) (some a) := by
  funext name
  simp only [lastNamed?, List.findRev?_eq_find?_reverse, List.reverse_append,
    List.reverse_singleton, List.singleton_append, List.find?_cons, Function.update_apply]
  by_cases h : nameOf a = name
  · simp [h]
  · simp [h, Ne.symm h]

/-- Registering an entry changes what stands for its name, or puts the name at the end. -/
theorem registerBy_filterMap (a : α) {find : List Char → Option α} {names : List (List Char)}
    (hnodup : names.Nodup) (hfind : ∀ name ∈ names, (find name).map nameOf = some name) :
    registerBy nameOf a (names.filterMap find) =
      (if nameOf a ∈ names then names else names ++ [nameOf a]).filterMap
        (Function.update find (nameOf a) (some a)) := by
  induction names with
  | nil => simp [registerBy]
  | cons name names ih =>
      obtain ⟨hnew, hnodup⟩ := List.nodup_cons.mp hnodup
      obtain ⟨hhead, hfind⟩ := List.forall_mem_cons.mp hfind
      obtain ⟨b, hb, hname⟩ := Option.map_eq_some_iff.mp hhead
      rw [List.filterMap_cons_some hb, registerBy, hname]
      by_cases h : name = nameOf a
      · -- the name does not occur again, so behind it nothing changes
        have hkept : names.filterMap (Function.update find (nameOf a) (some a)) =
            names.filterMap find := by
          refine List.filterMap_congr fun other hother => Function.update_of_ne ?_ _ _
          rintro rfl
          exact hnew (h ▸ hother)
        have hhere : Function.update find (nameOf a) (some a) name = some a := by
          rw [h, Function.update_self]
        rw [if_pos h, if_pos (h ▸ List.mem_cons_self), List.filterMap_cons_some hhere, hkept]
      · have hother : Function.update find (nameOf a) (some a) name = some b := by
          rw [Function.update_of_ne h, hb]
        have hmem : nameOf a ∈ name :: names ↔ nameOf a ∈ names := by
          simp [Ne.symm h]
        rw [if_neg h, ih hnodup hfind]
        simp only [hmem]
        split <;> simp [List.filterMap_cons_some hother]

/-- **What a registry holds.** -/
theorem registerAllBy_eq (as : List α) :
    registerAllBy nameOf as =
      (namesInOrder nameOf as).filterMap (lastNamed? nameOf as) := by
  induction as using List.reverseRecOn with
  | nil => rfl
  | append_singleton as a ih =>
      rw [registerAllBy, List.foldl_append, List.foldl_cons, List.foldl_nil,
        ← registerAllBy, ih,
        registerBy_filterMap a (nodup_namesInOrder as) fun _ => map_lastNamed?,
        lastNamed?_concat, namesInOrder_concat]

theorem map_registerAllBy (as : List α) :
    (registerAllBy nameOf as).map nameOf = namesInOrder nameOf as := by
  rw [registerAllBy_eq, List.map_filterMap, List.filterMap_congr fun _ => map_lastNamed?,
    List.filterMap_some]

end GaussMarkup
