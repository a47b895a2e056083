import GaussMarkup.Proofs.Text.Prefixes

/-!
# Texts that say where they end

A value that is written into a longer text can be read back if its text tells what
the value is and where it ends, whatever stands behind it (`SelfDelimiting`). That
is more than to write different values differently, and it is what lasts when texts
are put one behind the other: a list of such texts is read from the front
(`SelfDelimiting.append_inj`), and a list with a closing mark behind it says where it
ends itself (`SelfDelimiting.closed`).
-/

namespace GaussMarkup

/-- Of a text that begins with a written value, the value and what stands behind it
are known. -/
def SelfDelimiting {α : Type} (code : α → List Char) : Prop :=
  ∀ ⦃a b : α⦄ ⦃s t : List Char⦄, code a ++ s = code b ++ t → a = b ∧ s = t

variable {α β : Type} {code : α → List Char} {stop : Char} {s t : List Char}

/-! ## Single values -/

theorem SelfDelimiting.comp (h : SelfDelimiting code) {f : β → α} (hf : Function.Injective f) :
    SelfDelimiting fun b => code (f b) := by
  intro a b s t heq
  obtain ⟨hvalue, hrest⟩ := h heq
  exact ⟨hf hvalue, hrest⟩

/-- Texts of one length end where their length says. -/
theorem selfDelimiting_of_length {n : Nat} (hlength : ∀ a, (code a).length = n)
    (hinj : Function.Injective code) : SelfDelimiting code := by
  intro a b s t heq
  obtain ⟨hcode, hrest⟩ := List.append_inj heq (by rw [hlength, hlength])
  exact ⟨hinj hcode, hrest⟩

theorem append_cons_inj {u v : List Char} (hu : stop ∉ u) (hv : stop ∉ v)
    (h : u ++ stop :: s = v ++ stop :: t) : u = v ∧ s = t := by
  obtain ⟨htake, hdrop⟩ := takeWhile_ne_of_not_mem hu s
  rw [h, (takeWhile_ne_of_not_mem hv t).1] at htake
  rw [h, (takeWhile_ne_of_not_mem hv t).2] at hdrop
  exact ⟨htake.symm, (List.tail_eq_of_cons_eq hdrop).symm⟩

/-- Texts with a mark behind them that none of them holds end at that mark. -/
theorem selfDelimiting_of_stop (hstop : ∀ a, stop ∉ code a) (hinj : Function.Injective code) :
    SelfDelimiting fun a => code a ++ [stop] := by
  intro a b s t heq
  simp only [List.append_assoc, List.singleton_append] at heq
  obtain ⟨hcode, hrest⟩ := append_cons_inj (hstop a) (hstop b) heq
  exact ⟨hinj hcode, hrest⟩

/-! ## Lists of values -/

/-- Two lists of values that are followed by something else than a value. -/
theorem SelfDelimiting.append_inj (h : SelfDelimiting code) {xs ys : List α}
    (hs : ∀ a u, code a ++ u ≠ s) (ht : ∀ a u, code a ++ u ≠ t)
    (heq : xs.flatMap code ++ s = ys.flatMap code ++ t) : xs = ys ∧ s = t := by
  induction xs generalizing ys with
  | nil =>
      cases ys with
      | nil => exact ⟨rfl, heq⟩
      | cons y ys =>
          rw [List.flatMap_cons, List.append_assoc] at heq
          exact absurd heq.symm (hs y _)
  | cons x xs ih =>
      cases ys with
      | nil =>
          rw [List.flatMap_cons, List.append_assoc] at heq
          exact absurd heq (ht x _)
      | cons y ys =>
          rw [List.flatMap_cons, List.flatMap_cons, List.append_assoc, List.append_assoc] at heq
          obtain ⟨rfl, hrest⟩ := h heq
          obtain ⟨rfl, hend⟩ := ih hrest
          exact ⟨rfl, hend⟩

theorem SelfDelimiting.flatMap_injective (h : SelfDelimiting code) (hne : ∀ a, code a ≠ []) :
    Function.Injective fun xs : List α => xs.flatMap code := by
  intro xs ys heq
  have hend : ∀ a u, code a ++ u ≠ [] := fun a u hnil => hne a (List.append_eq_nil_iff.mp hnil).1
  exact (h.append_inj hend hend (congrArg (· ++ []) heq)).1

/-- A list of values ends at a mark with which no value begins. -/
theorem SelfDelimiting.closed (h : SelfDelimiting code)
    (hstop : ∀ a, ∃ c ∈ (code a).head?, c ≠ stop) :
    SelfDelimiting fun xs : List α => xs.flatMap code ++ [stop] := by
  have hend : ∀ (a : α) (u v : List Char), code a ++ u ≠ stop :: v := by
    intro a u v heq
    obtain ⟨c, hc, hne⟩ := hstop a
    rw [Option.mem_def] at hc
    have hhead := congrArg List.head? heq
    rw [List.head?_append, hc] at hhead
    exact hne (Option.some.inj hhead)
  intro xs ys s t heq
  simp only [List.append_assoc, List.singleton_append] at heq
  obtain ⟨hvalues, hrest⟩ :=
    h.append_inj (fun a u => hend a u s) (fun a u => hend a u t) heq
  exact ⟨hvalues, List.tail_eq_of_cons_eq hrest⟩

theorem intercalate_cons (sep x : List Char) (xs : List (List Char)) :
    List.intercalate sep (x :: xs) = x ++ xs.flatMap (sep ++ ·) := by
  induction xs generalizing x with
  | nil => simp
  | cons y xs ih =>
      rw [List.intercalate_cons_cons, ih, List.flatMap_cons, List.append_assoc, List.append_assoc]

/-- So does a list of values with separators, if the text behind the last value does
not begin like a separator. -/
theorem SelfDelimiting.intercalate_inj (h : SelfDelimiting code) {sep stop : Char}
    {seps stops : List Char} (hne : sep ≠ stop) {x y : α} {xs ys : List α}
    (heq : List.intercalate (sep :: seps) ((x :: xs).map code) ++ stop :: stops =
      List.intercalate (sep :: seps) ((y :: ys).map code) ++ stop :: stops) :
    x :: xs = y :: ys := by
  have hsep : SelfDelimiting fun a => sep :: (seps ++ code a) := by
    intro a b s t hab
    simp only [List.cons_append, List.append_assoc, List.cons.injEq, true_and,
      List.append_cancel_left_eq] at hab
    exact h hab
  have hend : ∀ (a : α) (u : List Char), sep :: (seps ++ code a) ++ u ≠ stop :: stops :=
    fun a u hab => hne (List.head_eq_of_cons_eq hab)
  simp only [List.map_cons, intercalate_cons, List.flatMap_map, List.append_assoc,
    List.cons_append] at heq
  obtain ⟨rfl, hrest⟩ := h heq
  rw [(hsep.append_inj hend hend hrest).1]

end GaussMarkup
