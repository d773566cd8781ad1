/-
**Two walks of first come, first served, side by side.**

A list is walked twice: as it is, and after each element has been replaced by a counterpart or moved.
Here is what the two walks have in common.

* `rel_find?`, `forall₂_firsts` — what is found is the counterpart of what is found; and where two
  elements share a key exactly when their counterparts do, so is what is kept.
* `reportEach_of_forall₂` — where the keys of the counterparts are the images of the keys under an
  injective map, elements that are reported alike give the same reports.
* `reportEach_perm` — where elements with one key keep their order, the reports are a permutation. Of
  two elements with one key it is the later that is reported as repeated, so the order is needed.
-/

import Mathlib.Data.List.Forall2
import PipelineGraph.Proofs.FirstCome

namespace PipelineGraph

variable {α β γ δ κ ι : Type}

/-! ### Counterparts -/

section Counterparts

variable {counterpart : α → γ → Prop} {xs : List α} {ys : List γ}

/-- **What is found is the counterpart of what is found**, where the two searches agree. -/
theorem rel_find? {p : α → Bool} {q : γ → Bool} (same : ∀ {x y}, counterpart x y → p x = q y)
    (pairs : List.Forall₂ counterpart xs ys) :
    Option.Rel counterpart (xs.find? p) (ys.find? q) := by
  induction pairs with
  | nil => exact .none
  | @cons x y xs ys here _ ih =>
    rw [List.find?_cons, List.find?_cons, ← same here]
    cases p x with
    | true => exact .some here
    | false => exact ih

/-- What a partial map makes of the counterparts is the image of what another makes of the
elements. -/
theorem filterMap_eq_map_of_forall₂ {f : α → Option β} {g : γ → Option δ} {image : β → δ}
    (pairs : List.Forall₂ (fun x y => g y = (f x).map image) xs ys) :
    ys.filterMap g = (xs.filterMap f).map image := by
  induction pairs with
  | nil => rfl
  | @cons x y xs ys here _ ih =>
    rw [List.filterMap_cons, List.filterMap_cons, here, ih]
    cases f x <;> rfl

/-- Something holds of all elements when it holds of all counterparts. -/
theorem forall_mem_iff_of_forall₂ {p : α → Prop} {q : γ → Prop}
    (pairs : List.Forall₂ (fun x y => p x ↔ q y) xs ys) : (∀ x ∈ xs, p x) ↔ ∀ y ∈ ys, q y := by
  induction pairs with
  | nil => simp
  | cons here _ ih => rw [List.forall_mem_cons, List.forall_mem_cons, here, ih]

/-- Elements with their positions, beside the counterparts that stand there. -/
theorem forall₂_zipIdx (pairs : List.Forall₂ counterpart xs ys) :
    List.Forall₂ (fun (pair : α × Nat) y => counterpart pair.1 y ∧ ys[pair.2]? = some y)
      xs.zipIdx ys := by
  have walk : ∀ before : List γ, List.Forall₂
      (fun (pair : α × Nat) y => counterpart pair.1 y ∧ (before ++ ys)[pair.2]? = some y)
      (xs.zipIdx before.length) ys := by
    induction pairs with
    | nil => exact fun _ => .nil
    | @cons x y xs ys here _ ih =>
      intro before
      have later := ih (before ++ [y])
      rw [List.length_append, List.append_assoc] at later
      rw [List.zipIdx_cons]
      exact .cons ⟨here, by simp⟩ later
  exact walk []

/-- **What is kept are the counterparts of what is kept**, where the same elements share a key. -/
theorem forall₂_firsts [DecidableEq κ] [DecidableEq ι] {key : α → κ} {other : γ → ι}
    (alike : ∀ {x x' y y'}, counterpart x y → counterpart x' y' →
      (key x = key x' ↔ other y = other y'))
    (pairs : List.Forall₂ counterpart xs ys) :
    List.Forall₂ counterpart (firsts key xs) (firsts other ys) := by
  induction pairs with
  | nil => exact .nil
  | @cons x y xs ys here _ ih =>
    rw [firsts_cons, firsts_cons]
    refine .cons here (List.rel_filter (fun x' y' later => ?_) ih)
    show decide (key x' ≠ key x) = true ↔ decide (other y' ≠ other y) = true
    rw [decide_eq_true_eq, decide_eq_true_eq]
    exact not_congr (alike later here)

end Counterparts

/-! ### Counterparts in reports -/

/-- **Counterparts that are reported alike give the same reports**, where their keys are the images of
the keys under an injective map. -/
theorem reportEach_of_forall₂ [DecidableEq κ] [DecidableEq ι] {key : α → κ} {other : γ → ι}
    {image : κ → ι} (injective : Function.Injective image) {report : Bool → α → List β}
    {report' : Bool → γ → List β} {xs : List α} {ys : List γ}
    (pairs : List.Forall₂ (fun x y => other y = image (key x) ∧
      ∀ repeated, report repeated x = report' repeated y) xs ys) :
    reportEach key report xs = reportEach other report' ys := by
  have walk : ∀ taken : List κ,
      reportAfter key report taken xs = reportAfter other report' (taken.map image) ys := by
    induction pairs with
    | nil => exact fun _ => rfl
    | @cons x y xs ys here _ ih =>
      obtain ⟨keys, alike⟩ := here
      intro taken
      have told : decide (other y ∈ taken.map image) = decide (key x ∈ taken) :=
        decide_eq_decide.mpr (by rw [keys, List.mem_map_of_injective injective])
      rw [reportAfter, reportAfter, told, alike, ih (key x :: taken), List.map_cons, keys]
  rw [reportEach_eq_reportAfter, reportEach_eq_reportAfter]
  exact walk []

/-! ### Another order -/

section Order

open scoped List

variable [DecidableEq κ] {key : α → κ}

/-- Two neighbours with different keys may change places. -/
theorem filter_swap {x y : α} (different : key x ≠ key y) (before after : List α) (k : κ) :
    ((before ++ y :: x :: after).filter fun z => key z = k) =
      (before ++ x :: y :: after).filter fun z => key z = k := by
  rw [List.filter_append, List.filter_append]
  by_cases here : key x = k
  · have other : key y ≠ k := fun same => different (here.trans same.symm)
    simp [here, other]
  · simp [List.filter_cons, here]

/-- An element comes first among those with its key: the elements before it have other keys, and the
other elements with each key are in the same order again. -/
theorem exists_split_of_order {x : α} {rest ys : List α}
    (order : ∀ k, ((x :: rest).filter fun y => key y = k) = ys.filter fun y => key y = k) :
    ∃ before after, ys = before ++ x :: after ∧ (∀ y ∈ before, key y ≠ key x) ∧
      ∀ k, (rest.filter fun y => key y = k) = (before ++ after).filter fun y => key y = k := by
  have first := (order (key x)).symm
  rw [List.filter_cons, if_pos (decide_eq_true rfl), List.filter_eq_cons_iff] at first
  obtain ⟨before, after, rfl, others, _, same⟩ := first
  have absent : ∀ y ∈ before, key y ≠ key x := fun y inside alike =>
    others y inside (decide_eq_true alike)
  refine ⟨before, after, rfl, absent, fun k => ?_⟩
  rw [List.filter_append]
  by_cases here : key x = k
  · subst here
    rw [List.filter_eq_nil_iff.mpr others, List.nil_append, same]
  · have sorted := order k
    rwa [List.filter_append, List.filter_cons_of_neg (by simpa using here),
      List.filter_cons_of_neg (by simpa using here)] at sorted

/-- Whatever is taken already, where elements with one key keep their order the reports of the walk are a
permutation. -/
theorem reportAfter_perm (report : Bool → α → List β) {xs : List α} :
    ∀ (ys : List α) (taken : List κ),
      (∀ k, (xs.filter fun x => key x = k) = ys.filter fun x => key x = k) →
        (reportAfter key report taken xs).Perm (reportAfter key report taken ys) := by
  -- By induction on the walk as it is. Its first element is moved to the front of the other walk, past
  -- elements with other keys: neither it nor they are told anything else for that.
  induction xs with
  | nil =>
    intro ys taken order
    have none : ys = [] := List.eq_nil_iff_forall_not_mem.mpr fun y inside =>
      List.filter_eq_nil_iff.mp (order (key y)).symm y inside (decide_eq_true rfl)
    rw [none]
  | cons x rest ih =>
    intro ys taken order
    obtain ⟨before, after, rfl, absent, later⟩ := exists_split_of_order order
    have told : decide (key x ∈ before.map key ++ taken) = decide (key x ∈ taken) := by
      rw [decide_eq_decide, List.mem_append, List.mem_map]
      exact or_iff_right fun ⟨y, inside, same⟩ => absent y inside same
    have unmoved : reportAfter key report (key x :: taken) before =
        reportAfter key report taken before :=
      reportAfter_congr key report before _ _ fun y inside => by
        rw [List.mem_cons, or_iff_right (absent y inside)]
    have swapped : reportAfter key report (before.map key ++ key x :: taken) after =
        reportAfter key report (key x :: (before.map key ++ taken)) after :=
      reportAfter_congr key report after _ _ fun y _ => by
        simp only [List.mem_cons, List.mem_append]
        exact or_left_comm
    calc reportAfter key report taken (x :: rest)
        = report (key x ∈ taken) x ++ reportAfter key report (key x :: taken) rest := rfl
      _ ~ report (key x ∈ taken) x ++ reportAfter key report (key x :: taken) (before ++ after) :=
        (ih _ _ later).append_left _
      _ = report (key x ∈ taken) x ++ (reportAfter key report taken before ++
            reportAfter key report (key x :: (before.map key ++ taken)) after) := by
        rw [reportAfter_append, unmoved, swapped]
      _ ~ reportAfter key report taken before ++ (report (key x ∈ taken) x ++
            reportAfter key report (key x :: (before.map key ++ taken)) after) := by
        rw [← List.append_assoc, ← List.append_assoc]
        exact List.perm_append_comm.append_right _
      _ = reportAfter key report taken (before ++ x :: after) := by
        rw [reportAfter_append, reportAfter, told]

/-- **Where elements with one key keep their order, the reports are a permutation.** -/
theorem reportEach_perm (report : Bool → α → List β) {xs ys : List α}
    (order : ∀ k, (xs.filter fun x => key x = k) = ys.filter fun x => key x = k) :
    (reportEach key report xs).Perm (reportEach key report ys) := by
  rw [reportEach_eq_reportAfter, reportEach_eq_reportAfter]
  exact reportAfter_perm report ys [] order

end Order

end PipelineGraph
