/-
**First come, first served.**

Several parts of the program let the first of several things with the same key stand and report the
others. `withEarlier` pairs each element of a list with the first element before it that has its key,
if there is one; `firsts` keeps the elements that have none. Main statements: `firsts_pairwise`, no two
elements that are kept share a key, and `exists_firsts`, every key is kept by someone.
-/

namespace PipelineGraph

variable {α κ : Type} [DecidableEq κ]

/-- `withEarlier` on the rest of a list whose beginning is `before`. -/
def withEarlierFrom (key : α → κ) (before : List α) : List α → List (α × Option α)
  | [] => []
  | x :: rest =>
    (x, before.find? fun earlier => key earlier = key x) ::
      withEarlierFrom key (before ++ [x]) rest

/-- Each element with the first element before it that has the same key. -/
def withEarlier (key : α → κ) (xs : List α) : List (α × Option α) := withEarlierFrom key [] xs

/-- The elements that have no earlier one beside them. -/
def unpreceded (pairs : List (α × Option α)) : List α :=
  pairs.filterMap fun (x, earlier) => if earlier.isNone then some x else none

/-- The elements that have no earlier element with their key. -/
def firsts (key : α → κ) (xs : List α) : List α := unpreceded (withEarlier key xs)

/-- The later elements, each with the first element that has its key. -/
def repeats (key : α → κ) (xs : List α) : List (α × α) :=
  (withEarlier key xs).filterMap fun (x, earlier) => earlier.map fun first => (x, first)

/-- An element is kept when nothing before it has its key. -/
theorem unpreceded_withEarlierFrom_cons (key : α → κ) (before rest : List α) (x : α) :
    unpreceded (withEarlierFrom key before (x :: rest)) =
      if ∃ earlier ∈ before, key earlier = key x then
        unpreceded (withEarlierFrom key (before ++ [x]) rest)
      else x :: unpreceded (withEarlierFrom key (before ++ [x]) rest) := by
  by_cases taken : ∃ earlier ∈ before, key earlier = key x
  · simp [unpreceded, withEarlierFrom, taken]
  · have absent : (before.find? fun earlier => key earlier = key x) = none := by
      simpa using taken
    rw [if_neg taken, withEarlierFrom, absent]
    rfl

/-- Nothing that is kept has the key of something before. -/
theorem key_ne_of_mem_unpreceded (key : α → κ) (xs : List α) :
    ∀ before : List α, ∀ kept ∈ unpreceded (withEarlierFrom key before xs),
      ∀ earlier ∈ before, key earlier ≠ key kept := by
  induction xs with
  | nil => intro before kept inside; simp [unpreceded, withEarlierFrom] at inside
  | cons x rest hypothesis =>
    intro before kept inside earlier old
    rw [unpreceded_withEarlierFrom_cons] at inside
    split at inside
    · exact hypothesis _ kept inside earlier (List.mem_append_left _ old)
    · rename_i fresh
      rcases List.mem_cons.mp inside with rfl | later
      · exact fun same => fresh ⟨earlier, old, same⟩
      · exact hypothesis _ kept later earlier (List.mem_append_left _ old)

/-- What is kept of the rest of a list has keys that are pairwise distinct. -/
theorem unpreceded_pairwise (key : α → κ) (xs : List α) :
    ∀ before : List α, (unpreceded (withEarlierFrom key before xs)).Pairwise
      fun x y => key x ≠ key y := by
  induction xs with
  | nil => intro before; simp [unpreceded, withEarlierFrom]
  | cons x rest hypothesis =>
    intro before
    rw [unpreceded_withEarlierFrom_cons]
    split
    · exact hypothesis _
    · refine List.pairwise_cons.mpr ⟨fun y later => ?_, hypothesis _⟩
      exact key_ne_of_mem_unpreceded key rest _ y later x (by simp)

/-- No two elements that are kept share a key. -/
theorem firsts_pairwise (key : α → κ) (xs : List α) :
    (firsts key xs).Pairwise fun x y => key x ≠ key y :=
  unpreceded_pairwise key xs []

/-- Every key of the rest of a list is kept by someone, or was there before. -/
theorem exists_unpreceded (key : α → κ) (xs : List α) :
    ∀ before : List α, ∀ x ∈ xs, (∃ earlier ∈ before, key earlier = key x) ∨
      ∃ kept ∈ unpreceded (withEarlierFrom key before xs), key kept = key x := by
  induction xs with
  | nil => intro before x inside; simp at inside
  | cons y rest hypothesis =>
    intro before x inside
    rw [unpreceded_withEarlierFrom_cons]
    have first : x = y → (∃ earlier ∈ before, key earlier = key x) ∨
        ∃ kept ∈ y :: unpreceded (withEarlierFrom key (before ++ [y]) rest), key kept = key x :=
      fun same => .inr ⟨y, by simp, by rw [same]⟩
    split
    · rename_i taken
      obtain ⟨earlier, old, same⟩ := taken
      rcases List.mem_cons.mp inside with rfl | later
      · exact .inl ⟨earlier, old, same⟩
      · rcases hypothesis (before ++ [y]) x later with ⟨other, old', same'⟩ | kept
        · rcases List.mem_append.mp old' with old' | here
          · exact .inl ⟨other, old', same'⟩
          · rw [List.mem_singleton.mp here] at same'
            exact .inl ⟨earlier, old, same.trans same'⟩
        · exact .inr kept
    · rcases List.mem_cons.mp inside with here | later
      · exact first here
      · rcases hypothesis (before ++ [y]) x later with ⟨other, old, same⟩ | ⟨kept, late, same⟩
        · rcases List.mem_append.mp old with old | here
          · exact .inl ⟨other, old, same⟩
          · rw [List.mem_singleton.mp here] at same
            exact .inr ⟨y, by simp, same⟩
        · exact .inr ⟨kept, List.mem_cons_of_mem _ late, same⟩

/-- Every key is kept by someone. -/
theorem exists_firsts (key : α → κ) (xs : List α) (x : α) (inside : x ∈ xs) :
    ∃ kept ∈ firsts key xs, key kept = key x := by
  rcases exists_unpreceded key xs [] x inside with ⟨_, old, _⟩ | kept
  · simp at old
  · exact kept

end PipelineGraph
