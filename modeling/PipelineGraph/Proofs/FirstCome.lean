/-
**What is kept and what is reported when the first of a key stands.**

`firsts` and `repeats` are computed in one walk that carries what came before. Here they are described
without the walk.

* `firstOccurrences key xs` — the elements at the positions whose key stands at no earlier position.
  `firsts_eq_firstOccurrences` says that these are the elements kept.
* `laterOccurrences key xs` — the others. `map_fst_repeats` says that these are the elements reported,
  and `find?_of_mem_repeats` that each is reported with the first of its key.
* `firsts_append` — of a list in two parts, the first part is kept as it would be alone, and of the
  second what is kept alone and has a new key. Filters and maps that respect the keys, look-ups by key
  and the removal of a repeated element follow from it.
* `repeats_eq_nil_iff` — nothing is reported exactly when the keys are pairwise distinct, and then
  everything is kept (`firsts_eq_self`).
* `reportEach key report xs` — what is reported of each element, told whether its key stands at an
  earlier position. `reportEach_eq` says that the walk tells just that, `reportEach_eq_flatMap` that so
  does a walk over other elements with the same keys, and `reportEach_eq_reportAfter` that a walk needs
  to carry no more than the keys that are taken.
-/

import Mathlib.Data.List.Nodup
import PipelineGraph.Repeats

namespace PipelineGraph

variable {α β κ : Type} [DecidableEq κ]

/-- **The elements at the positions whose key stands at no earlier position**, in order. -/
def firstOccurrences (key : α → κ) (xs : List α) : List α :=
  (xs.zipIdx.filter fun (x, position) => key x ∉ (xs.take position).map key).map Prod.fst

/-- **The elements at the positions whose key stands at an earlier position**, in order. -/
def laterOccurrences (key : α → κ) (xs : List α) : List α :=
  (xs.zipIdx.filter fun (x, position) => key x ∈ (xs.take position).map key).map Prod.fst

/-! ### The walk -/

section Walk

variable (key : α → κ)

/-- **Each position is paired with the first element of its key among those before it.** -/
theorem withEarlierFrom_eq_map_zipIdx (xs : List α) :
    ∀ before : List α, withEarlierFrom key before xs =
      (xs.zipIdx before.length).map fun (x, position) =>
        (x, ((before ++ xs).take position).find? fun earlier => key earlier = key x) := by
  induction xs with
  | nil => exact fun _ => rfl
  | cons x rest ih =>
    intro before
    rw [withEarlierFrom, ih, List.zipIdx_cons, List.map_cons]
    simp

theorem withEarlierFrom_append (ys xs : List α) :
    ∀ before : List α, withEarlierFrom key before (xs ++ ys) =
      withEarlierFrom key before xs ++ withEarlierFrom key (before ++ xs) ys := by
  induction xs with
  | nil =>
    intro before
    simp [withEarlierFrom]
  | cons x rest ih =>
    intro before
    simp [withEarlierFrom, ih]

/-- The walk sees what came before only through look-ups by key. -/
theorem withEarlierFrom_congr (xs : List α) :
    ∀ before other : List α,
      (∀ k, (before.find? fun earlier => key earlier = k) =
        other.find? fun earlier => key earlier = k) →
      withEarlierFrom key before xs = withEarlierFrom key other xs := by
  induction xs with
  | nil => exact fun _ _ _ => rfl
  | cons x rest ih =>
    intro before other same
    rw [withEarlierFrom, withEarlierFrom, same, ih (before ++ [x]) (other ++ [x])]
    intro k
    rw [List.find?_append, List.find?_append, same]

/-- Two keys that agree on which elements are alike make the same walk. -/
theorem withEarlierFrom_of_alike {ι : Type} [DecidableEq ι] {key : α → κ} {other : α → ι}
    (alike : ∀ x y, key x = key y ↔ other x = other y) (xs : List α) :
    ∀ before : List α, withEarlierFrom key before xs = withEarlierFrom other before xs := by
  induction xs with
  | nil => exact fun _ => rfl
  | cons x rest ih =>
    intro before
    rw [withEarlierFrom, withEarlierFrom, ih]
    simp only [alike]

/-- After some elements have passed, what is kept is what is kept alone, less the keys they took. -/
theorem unpreceded_withEarlierFrom (xs : List α) :
    ∀ before : List α, unpreceded (withEarlierFrom key before xs) =
      (firsts key xs).filter fun x => key x ∉ before.map key := by
  induction xs with
  | nil => exact fun _ => rfl
  | cons x rest ih =>
    intro before
    have alone : firsts key (x :: rest) =
        x :: (firsts key rest).filter fun later => key later ∉ [x].map key := by
      rw [firsts, withEarlier, unpreceded_withEarlierFrom_cons, if_neg (by simp), List.nil_append, ih]
    have both : ∀ later, (decide (key later ∉ (before ++ [x]).map key)) =
        (decide (key later ∉ before.map key) && decide (key later ∉ [x].map key)) := by
      intro later
      simp only [List.map_append, List.mem_append, not_or, Bool.decide_and]
    rw [unpreceded_withEarlierFrom_cons, ih, alone, List.filter_cons, List.filter_filter]
    simp only [both]
    by_cases taken : key x ∈ before.map key
    · -- the tail already leaves out the key of `x`
      rw [if_pos (List.mem_map.mp taken), if_neg (by simpa using taken)]
    · rw [if_neg (fun old => taken (List.mem_map.mpr old)), if_pos (by simpa using taken)]

end Walk

/-! ### What is kept -/

section Kept

variable (key : α → κ)

/-- **The elements kept are those at which their key stands first.** -/
theorem firsts_eq_firstOccurrences (xs : List α) : firsts key xs = firstOccurrences key xs := by
  have absent : ∀ (x : α) (earlier : List α),
      (earlier.find? fun other => key other = key x).isNone =
        decide (key x ∉ earlier.map key) := by
    intro x earlier
    rw [Bool.eq_iff_iff, Option.isNone_iff_eq_none, List.find?_eq_none]
    simp
  rw [firsts, withEarlier, withEarlierFrom_eq_map_zipIdx, unpreceded, firstOccurrences,
    List.filterMap_map, ← List.filterMap_eq_map, List.filterMap_filter]
  refine List.filterMap_congr fun pair _ => ?_
  simp only [Function.comp_apply, List.nil_append, absent]

theorem firstOccurrences_keys_nodup (xs : List α) : ((firstOccurrences key xs).map key).Nodup := by
  rw [← firsts_eq_firstOccurrences]
  exact (firsts_pairwise key xs).map _ fun _ _ different => different

theorem firsts_cons (x : α) (rest : List α) :
    firsts key (x :: rest) = x :: (firsts key rest).filter fun later => key later ≠ key x := by
  rw [firsts, withEarlier, unpreceded_withEarlierFrom_cons, if_neg (by simp),
    unpreceded_withEarlierFrom]
  simp

/-- **Of a list in two parts, the first is kept as it is alone, the second less the keys taken.** -/
theorem firsts_append (xs ys : List α) :
    firsts key (xs ++ ys) =
      firsts key xs ++ (firsts key ys).filter fun y => key y ∉ xs.map key := by
  rw [firsts, withEarlier, withEarlierFrom_append, unpreceded, List.filterMap_append, List.nil_append]
  exact congrArg _ (unpreceded_withEarlierFrom key ys xs)

theorem firsts_sublist (xs : List α) : (firsts key xs).Sublist xs := by
  induction xs with
  | nil => exact List.Sublist.refl _
  | cons x rest ih =>
    rw [firsts_cons]
    exact (List.filter_sublist.trans ih).cons_cons x

/-- An element is kept where no earlier one is beside it. -/
theorem mem_firsts_iff {xs : List α} {x : α} :
    x ∈ firsts key xs ↔ (x, none) ∈ withEarlier key xs := by
  rw [firsts, unpreceded, List.mem_filterMap]
  constructor
  · rintro ⟨⟨y, earlier⟩, inside, kept⟩
    cases earlier with
    | none => exact Option.some.inj kept ▸ inside
    | some first => cases kept
  · exact fun inside => ⟨_, inside, rfl⟩

theorem mem_of_mem_firsts {xs : List α} {x : α} (kept : x ∈ firsts key xs) : x ∈ xs :=
  (firsts_sublist key xs).subset kept

/-- **Each key is looked up alike in the list and in what is kept of it.** -/
theorem find?_firsts (k : κ) (xs : List α) :
    ((firsts key xs).find? fun x => key x = k) = xs.find? fun x => key x = k := by
  induction xs with
  | nil => rfl
  | cons x rest ih =>
    rw [firsts_cons, List.find?_cons, List.find?_cons, List.find?_filter, ← ih]
    by_cases here : key x = k
    · simp [here]
    · have later : ∀ y, (key y ≠ key x ∧ key y = k) ↔ key y = k :=
        fun y => ⟨fun both => both.2, fun same => ⟨fun old => here (old ▸ same), same⟩⟩
      simp only [here, decide_false, decide_eq_true_eq, later]

/-- Leaving out all elements with certain keys can be done before or after. -/
theorem firsts_filter (p : κ → Bool) (xs : List α) :
    ((firsts key xs).filter fun x => p (key x)) = firsts key (xs.filter fun x => p (key x)) := by
  induction xs with
  | nil => rfl
  | cons x rest ih =>
    rw [firsts_cons, List.filter_cons, List.filter_cons, List.filter_filter]
    by_cases stays : p (key x) = true
    · rw [if_pos stays, if_pos stays, firsts_cons, ← ih, List.filter_filter]
      simp only [Bool.and_comm]
    · rw [if_neg stays, if_neg stays, ← ih]
      refine List.filter_congr fun later _ => ?_
      by_cases same : key later = key x
      · simp [same, stays]
      · simp [same]

theorem firsts_map (f : β → α) (xs : List β) :
    firsts key (xs.map f) = (firsts (fun x => key (f x)) xs).map f := by
  induction xs with
  | nil => rfl
  | cons x rest ih =>
    rw [List.map_cons, firsts_cons, firsts_cons, ih, List.map_cons, List.filter_map]
    rfl

/-- Two keys that agree on which elements are alike keep the same elements. -/
theorem firsts_congr {ι : Type} [DecidableEq ι] {key : α → κ} {other : α → ι}
    (alike : ∀ x y, key x = key y ↔ other x = other y) (xs : List α) :
    firsts key xs = firsts other xs := by
  rw [firsts, firsts, withEarlier, withEarlier, withEarlierFrom_of_alike alike]

/-- **A repeated element leaves no trace in what is kept.** -/
theorem firsts_append_cons_of_mem {before after : List α} {x : α}
    (taken : key x ∈ before.map key) :
    firsts key (before ++ x :: after) = firsts key (before ++ after) := by
  rw [firsts_append, firsts_append, firsts_cons, List.filter_cons, if_neg (by simpa using taken),
    List.filter_filter]
  congr 1
  refine List.filter_congr fun later _ => ?_
  by_cases same : key later = key x
  · simpa [same] using taken
  · simp [same]

theorem firsts_eq_self {xs : List α} (distinct : (xs.map key).Nodup) : firsts key xs = xs := by
  induction xs with
  | nil => rfl
  | cons x rest ih =>
    rw [List.map_cons, List.nodup_cons] at distinct
    rw [firsts_cons, ih distinct.2, List.filter_eq_self.mpr]
    intro later inside
    exact decide_eq_true fun same => distinct.1 (same ▸ List.mem_map_of_mem inside)

/-- The keys that are kept are the first occurrences among all keys. -/
theorem filterMap_firsts (key : α → Option κ) (xs : List α) :
    (firsts key xs).filterMap key = firsts id (xs.filterMap key) := by
  induction xs with
  | nil => rfl
  | cons x rest ih =>
    rw [firsts_cons, List.filterMap_cons, List.filterMap_cons, List.filterMap_filter]
    cases found : key x with
    | none =>
      refine (List.filterMap_congr fun later _ => ?_).trans ih
      cases key later <;> rfl
    | some k =>
      show k :: _ = firsts id (k :: _)
      rw [firsts_cons, ← ih, List.filter_filterMap]
      refine congrArg _ (List.filterMap_congr fun later _ => ?_)
      cases key later with
      | none => rfl
      | some other => by_cases same : other = k <;> simp [same, Option.filter]

end Kept

/-! ### What is reported -/

section Reported

variable (key : α → κ)

theorem length_withEarlierFrom (xs : List α) :
    ∀ before : List α, (withEarlierFrom key before xs).length = xs.length := by
  intro before
  rw [withEarlierFrom_eq_map_zipIdx, List.length_map, List.length_zipIdx]

/-- Where of two partial maps exactly one is defined on each element, their images make up the list. -/
theorem length_filterMap_add_length_filterMap {γ : Type} {f : α → Option β} {g : α → Option γ}
    {xs : List α} (split : ∀ x ∈ xs, (g x).isSome = !(f x).isSome) :
    (xs.filterMap f).length + (xs.filterMap g).length = xs.length := by
  rw [List.length_filterMap_eq_countP, List.length_filterMap_eq_countP,
    List.length_eq_countP_add_countP fun x => (f x).isSome]
  congr 1
  refine List.countP_congr fun x inside => ?_
  simp [split x inside]

/-- **Each element is either kept or reported.** -/
theorem length_firsts_add_length_repeats (xs : List α) :
    (firsts key xs).length + (repeats key xs).length = xs.length := by
  have walk := length_withEarlierFrom key xs []
  rw [← walk]
  refine length_filterMap_add_length_filterMap fun pair _ => ?_
  obtain ⟨x, earlier⟩ := pair
  cases earlier <;> rfl

/-- **Nothing is reported exactly when no key occurs twice.** -/
theorem repeats_eq_nil_iff (xs : List α) : repeats key xs = [] ↔ (xs.map key).Nodup := by
  have total := length_firsts_add_length_repeats key xs
  constructor
  · intro silent
    have all : firsts key xs = xs := by
      refine (firsts_sublist key xs).eq_of_length ?_
      rw [silent, List.length_nil] at total
      exact total
    rw [← all]
    exact (firsts_pairwise key xs).map _ fun _ _ different => different
  · intro distinct
    rw [firsts_eq_self key distinct] at total
    exact List.length_eq_zero_iff.mp (by omega)

/-- No key is taken exactly when no element is paired with an earlier one. -/
theorem nodup_iff_withEarlier (xs : List α) :
    (xs.map key).Nodup ↔ ∀ pair ∈ withEarlier key xs, pair.2 = none := by
  rw [← repeats_eq_nil_iff, repeats, List.filterMap_eq_nil_iff]
  simp only [Option.map_eq_none_iff]

/-- A repeated element is never looked up. -/
theorem find?_append_singleton_of_mem {before : List α} {x : α} (taken : key x ∈ before.map key)
    (k : κ) : ((before ++ [x]).find? fun y => key y = k) = before.find? fun y => key y = k := by
  rw [List.find?_append]
  by_cases same : key x = k
  · obtain ⟨first, old, agrees⟩ := List.mem_map.mp taken
    have found : (before.find? fun earlier => key earlier = k).isSome :=
      List.find?_isSome.mpr ⟨first, old, by simp [agrees, same]⟩
    rw [Option.or_of_isSome found]
  · simp [same]

/-- **A repeated element is paired with the first of its key and changes no other pair.** -/
theorem withEarlier_append_cons_of_mem {before : List α} {x : α}
    (taken : key x ∈ before.map key) (after : List α) :
    withEarlier key (before ++ x :: after) =
      withEarlier key before ++
        (x, before.find? fun earlier => key earlier = key x) :: withEarlierFrom key before after := by
  rw [withEarlier, withEarlierFrom_append, withEarlierFrom, List.nil_append]
  exact congrArg _ (congrArg _
    (withEarlierFrom_congr key after _ _ (find?_append_singleton_of_mem key taken)))

/-- **Less a repeated element, its report is missing and no other.** -/
theorem repeats_append_cons_of_mem {before : List α} {x : α} (taken : key x ∈ before.map key)
    (after : List α) :
    ∃ first later, repeats key (before ++ x :: after) = repeats key before ++ (x, first) :: later ∧
      repeats key (before ++ after) = repeats key before ++ later := by
  obtain ⟨earlier, old, same⟩ := List.mem_map.mp taken
  have there : (before.find? fun earlier => key earlier = key x).isSome :=
    List.find?_isSome.mpr ⟨earlier, old, decide_eq_true same⟩
  obtain ⟨first, found⟩ := Option.isSome_iff_exists.mp there
  have split : withEarlier key (before ++ after) =
      withEarlier key before ++ withEarlierFrom key before after :=
    withEarlierFrom_append key after before []
  refine ⟨first, (withEarlierFrom key before after).filterMap fun pair =>
    pair.2.map fun first => (pair.1, first), ?_, ?_⟩
  · rw [repeats, withEarlier_append_cons_of_mem key taken, found, List.filterMap_append]
    rfl
  · rw [repeats, split, List.filterMap_append]
    rfl

end Reported

/-! ### What is reported of each element -/

section Each

variable (key : α → κ) (report : Bool → α → List β)

/-- **What is reported of each element**, told whether its key stands at an earlier position. -/
def reportEach (xs : List α) : List β :=
  xs.zipIdx.flatMap fun (x, position) => report (key x ∈ (xs.take position).map key) x

/-- The walk tells whether a key stands at an earlier position. -/
theorem reportEach_eq (xs : List α) :
    reportEach key report xs =
      (withEarlier key xs).flatMap fun pair => report pair.2.isSome pair.1 := by
  have told : ∀ (x : α) (earlier : List α), decide (key x ∈ earlier.map key) =
      (earlier.find? fun other => key other = key x).isSome := by
    intro x earlier
    rw [Bool.eq_iff_iff, List.find?_isSome]
    simp
  rw [withEarlier, withEarlierFrom_eq_map_zipIdx, List.flatMap_map, reportEach]
  simp only [told, List.nil_append, List.length_nil]

/-- **A walk over other elements with the same keys**, which gives what is reported of these, gives the
same reports. -/
theorem reportEach_eq_flatMap {γ : Type} {other : γ → κ} {give : γ × Option γ → List β} {xs : List α}
    {ys : List γ} (alike : List.Forall₂ (fun x y => key x = other y ∧
      ∀ earlier : Option γ, report earlier.isSome x = give (y, earlier)) xs ys) :
    reportEach key report xs = (withEarlier other ys).flatMap give := by
  have walk : ∀ (before : List α) (before' : List γ), before.map key = before'.map other →
      ((withEarlierFrom key before xs).flatMap fun pair => report pair.2.isSome pair.1) =
        (withEarlierFrom other before' ys).flatMap give := by
    induction alike with
    | nil => exact fun _ _ _ => rfl
    | @cons x y xs ys first _ ih =>
      intro before before' keys
      obtain ⟨same, gives⟩ := first
      have told : (before.find? fun earlier => key earlier = key x).isSome =
          (before'.find? fun earlier => other earlier = other y).isSome := by
        rw [Bool.eq_iff_iff, List.find?_isSome, List.find?_isSome]
        simp only [decide_eq_true_eq, ← List.mem_map, keys, same]
      rw [withEarlierFrom, withEarlierFrom, List.flatMap_cons, List.flatMap_cons, told, gives,
        ih (before ++ [x]) (before' ++ [y]) (by rw [List.map_append, List.map_append, keys,
          List.map_singleton, List.map_singleton, same])]
  rw [reportEach_eq]
  exact walk [] [] rfl

/-- Elements reported one by one where their key is taken. -/
theorem map_repeats (report : α → β) (xs : List α) :
    ((repeats key xs).map fun pair => report pair.1) =
      reportEach key (fun repeated x => if repeated then [report x] else []) xs := by
  rw [reportEach_eq, repeats]
  induction withEarlier key xs with
  | nil => rfl
  | cons pair rest ih =>
    obtain ⟨x, earlier⟩ := pair
    rw [List.filterMap_cons, List.flatMap_cons, ← ih]
    cases earlier <;> rfl

/-- **The elements reported are those at which their key does not stand first.** -/
theorem map_fst_repeats (xs : List α) :
    (repeats key xs).map Prod.fst = laterOccurrences key xs := by
  rw [map_repeats key fun x => x, reportEach, laterOccurrences]
  induction xs.zipIdx with
  | nil => rfl
  | cons pair rest ih =>
    obtain ⟨x, position⟩ := pair
    rw [List.flatMap_cons, ih, List.filter_cons]
    dsimp only
    by_cases taken : key x ∈ (xs.take position).map key
    · rw [if_pos (decide_eq_true taken), if_pos (decide_eq_true taken)]
      rfl
    · rw [if_neg (mt of_decide_eq_true taken), if_neg (mt of_decide_eq_true taken)]
      rfl

/-- **An element is reported with the first of its key in the whole list.** -/
theorem find?_of_mem_repeats {xs : List α} {x first : α} (reported : (x, first) ∈ repeats key xs) :
    (xs.find? fun other => key other = key x) = some first := by
  rw [repeats, withEarlier, withEarlierFrom_eq_map_zipIdx, List.filterMap_map] at reported
  obtain ⟨⟨y, position⟩, _, paired⟩ := List.mem_filterMap.mp reported
  obtain ⟨found, earlier, same⟩ := Option.map_eq_some_iff.mp paired
  cases same
  exact (List.take_prefix position xs).find?_eq_some earlier

/-- Where no key stands twice, each element is told so. -/
theorem reportEach_of_nodup {xs : List α} (distinct : (xs.map key).Nodup) :
    reportEach key report xs = xs.flatMap (report false) := by
  have alone : ∀ pair ∈ withEarlier key xs, report pair.2.isSome pair.1 = report false pair.1 := by
    intro pair inside
    rw [(nodup_iff_withEarlier key xs).mp distinct pair inside]
    rfl
  have elements : (withEarlier key xs).map Prod.fst = xs := by
    rw [withEarlier, withEarlierFrom_eq_map_zipIdx, List.map_map]
    exact List.zipIdx_map_fst 0 xs
  rw [reportEach_eq, List.flatMap_congr alone, ← List.flatMap_map, elements]

/-- What is reported depends on what is reported of the elements. -/
theorem reportEach_congr {report report' : Bool → α → List β} {xs : List α}
    (same : ∀ x ∈ xs, ∀ repeated, report repeated x = report' repeated x) :
    reportEach key report xs = reportEach key report' xs :=
  List.flatMap_congr fun _ inside => same _ (List.fst_mem_of_mem_zipIdx inside) _

theorem mem_reportEach {xs : List α} {y : β} (reported : y ∈ reportEach key report xs) :
    ∃ x ∈ xs, ∃ repeated, y ∈ report repeated x := by
  obtain ⟨⟨x, position⟩, inside, isReport⟩ := List.mem_flatMap.mp reported
  exact ⟨x, List.fst_mem_of_mem_zipIdx inside, _, isReport⟩

/-- What is reported of each element when some keys are taken before the first. -/
def reportAfter (taken : List κ) : List α → List β
  | [] => []
  | x :: rest => report (key x ∈ taken) x ++ reportAfter (key x :: taken) rest

theorem reportAfter_cons {taken : List κ} {x : α} {repeated : Bool}
    (told : repeated = true ↔ key x ∈ taken) (rest : List α) :
    reportAfter key report taken (x :: rest) =
      report repeated x ++ reportAfter key report (key x :: taken) rest := by
  rw [reportAfter, Bool.eq_iff_iff.mpr (decide_eq_true_iff.trans told.symm)]

/-- Only whether a key is taken counts, and only for the elements that are there. -/
theorem reportAfter_congr (xs : List α) :
    ∀ taken taken' : List κ, (∀ x ∈ xs, key x ∈ taken ↔ key x ∈ taken') →
      reportAfter key report taken xs = reportAfter key report taken' xs := by
  induction xs with
  | nil => exact fun _ _ _ => rfl
  | cons x rest ih =>
    intro taken taken' same
    have here : decide (key x ∈ taken) = decide (key x ∈ taken') :=
      decide_eq_decide.mpr (same x List.mem_cons_self)
    rw [reportAfter, reportAfter, here, ih (key x :: taken) (key x :: taken')]
    intro later inside
    rw [List.mem_cons, List.mem_cons, same later (List.mem_cons_of_mem x inside)]

theorem reportAfter_append (xs ys : List α) :
    ∀ taken : List κ, reportAfter key report taken (xs ++ ys) =
      reportAfter key report taken xs ++ reportAfter key report (xs.map key ++ taken) ys := by
  induction xs with
  | nil => exact fun _ => rfl
  | cons x rest ih =>
    intro taken
    rw [List.cons_append, reportAfter, reportAfter, ih, List.append_assoc]
    refine congrArg _ (congrArg _ (reportAfter_congr key report ys _ _ fun later _ => ?_))
    simp only [List.map_cons, List.cons_append, List.mem_cons, List.mem_append]
    exact or_left_comm

/-- **Each element is told whether its key is taken by one before it.** -/
theorem reportEach_eq_reportAfter (xs : List α) :
    reportEach key report xs = reportAfter key report [] xs := by
  have walk : ∀ (rest before : List α) (taken : List κ),
      (∀ k, k ∈ before.map key ↔ k ∈ taken) →
        ((withEarlierFrom key before rest).flatMap fun pair => report pair.2.isSome pair.1) =
          reportAfter key report taken rest := by
    intro rest
    induction rest with
    | nil => exact fun _ _ _ => rfl
    | cons x rest ih =>
      intro before taken same
      have told : (before.find? fun earlier => key earlier = key x).isSome =
          decide (key x ∈ taken) := by
        rw [Bool.eq_iff_iff, List.find?_isSome, decide_eq_true_eq, ← same, List.mem_map]
        simp only [decide_eq_true_eq]
      rw [withEarlierFrom, List.flatMap_cons, told, reportAfter, ih (before ++ [x]) (key x :: taken)]
      intro k
      rw [List.map_append, List.mem_append, List.map_singleton, List.mem_singleton, List.mem_cons,
        same, or_comm]
  rw [reportEach_eq]
  exact walk xs [] [] fun _ => Iff.rfl

theorem map_reportEach {δ : Type} (image : β → δ) (xs : List α) :
    (reportEach key report xs).map image =
      reportEach key (fun repeated x => (report repeated x).map image) xs :=
  List.map_flatMap ..

end Each

/-! ### Look-ups -/

/-- Where keys are pairwise distinct, an element is found by its key. -/
theorem find?_of_pairwise {key : α → κ} {xs : List α}
    (distinct : xs.Pairwise fun x y => key x ≠ key y) {x : α} (inside : x ∈ xs) :
    (xs.find? fun y => key y = key x) = some x := by
  induction xs with
  | nil => cases inside
  | cons y rest ih =>
    rw [List.pairwise_cons] at distinct
    rw [List.find?_cons]
    rcases List.mem_cons.mp inside with rfl | later
    · simp
    · simpa [distinct.1 x later] using ih distinct.2 later

/-- A key that no element has is not found. -/
theorem find?_eq_none_of_ne {key : α → κ} {xs : List α} {k : κ} (others : ∀ x ∈ xs, k ≠ key x) :
    (xs.find? fun x => key x = k) = none := by
  rw [List.find?_eq_none]
  intro x inside isKey
  exact others x inside (of_decide_eq_true isKey).symm

/-- Where keys are pairwise distinct, the one with a key is the one that is found. -/
theorem filter_eq_toList_find? {key : α → κ} {xs : List α}
    (distinct : xs.Pairwise fun x y => key x ≠ key y) (k : κ) :
    (xs.filter fun x => key x = k) = (xs.find? fun x => key x = k).toList := by
  induction xs with
  | nil => rfl
  | cons x rest ih =>
    rw [List.pairwise_cons] at distinct
    rw [List.filter_cons, List.find?_cons, ih distinct.2]
    by_cases here : key x = k
    · have gone : (rest.find? fun y => key y = k) = none :=
        find?_eq_none_of_ne fun y inside => here ▸ distinct.1 y inside
      simp [here, gone]
    · simp [here]

/-- **Where keys are pairwise distinct, look-ups do not depend on the order.** -/
theorem find?_of_perm {key : α → κ} {xs ys : List α} (perm : ys.Perm xs)
    (distinct : (xs.map key).Nodup) (k : κ) :
    (ys.find? fun x => key x = k) = xs.find? fun x => key x = k := by
  have found : ∀ zs : List α, (zs.map key).Nodup → ∀ x,
      (zs.find? fun y => key y = k) = some x ↔ x ∈ zs ∧ key x = k := by
    intro zs distinct x
    constructor
    · intro first
      exact ⟨List.mem_of_find?_eq_some first, by simpa using List.find?_some first⟩
    · rintro ⟨inside, rfl⟩
      exact find?_of_pairwise (List.pairwise_map.mp distinct) inside
  refine Option.ext fun x => ?_
  rw [found xs distinct, found ys ((perm.map key).nodup_iff.mpr distinct), perm.mem_iff]

/-- **Where keys are pairwise distinct, a partial map that keeps keys may be applied before or after a
look-up.** -/
theorem find?_filterMap_of_pairwise {key : α → κ} {image : β → κ} {f : α → Option β}
    (keeps : ∀ x y, f x = some y → image y = key x) {xs : List α}
    (distinct : xs.Pairwise fun x y => key x ≠ key y) (k : κ) :
    ((xs.filterMap f).find? fun y => image y = k) = (xs.find? fun x => key x = k).bind f := by
  induction xs with
  | nil => rfl
  | cons x rest ih =>
    rw [List.pairwise_cons] at distinct
    have later := ih distinct.2
    rw [List.find?_cons]
    by_cases here : key x = k
    · have gone : (rest.find? fun y => key y = k) = none :=
        find?_eq_none_of_ne fun y inside => here ▸ distinct.1 y inside
      rw [gone] at later
      cases found : f x with
      | none => simpa [here, found] using later
      | some y => simp [here, found, keeps x y found]
    · cases found : f x with
      | none => simpa [here, found] using later
      | some y => simpa [here, found, keeps x y found] using later

end PipelineGraph
