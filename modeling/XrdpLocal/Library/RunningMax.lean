import Mathlib.Data.List.Induction
import Mathlib.Order.Bounds.Basic
/-!
# Running maxima and minima

A loop that keeps the largest value of `f` seen so far, starting from `a`,
ends with the greatest of `a` and the values of `f`; likewise for the
smallest.
-/

namespace RunningMax

variable {ι α : Type*} [LinearOrder α]

def runningMax (f : ι → α) (a : α) (l : List ι) : α :=
  l.foldl (fun acc i => max acc (f i)) a

def runningMin (f : ι → α) (a : α) (l : List ι) : α :=
  l.foldl (fun acc i => min acc (f i)) a

@[simp] theorem runningMax_nil (f : ι → α) (a : α) : runningMax f a [] = a := rfl

@[simp] theorem runningMin_nil (f : ι → α) (a : α) : runningMin f a [] = a := rfl

theorem runningMax_concat (f : ι → α) (a : α) (l : List ι) (i : ι) :
    runningMax f a (l ++ [i]) = max (runningMax f a l) (f i) := by
  simp [runningMax]

theorem runningMin_concat (f : ι → α) (a : α) (l : List ι) (i : ι) :
    runningMin f a (l ++ [i]) = min (runningMin f a l) (f i) := by
  simp [runningMin]

theorem runningMax_map {κ : Type*} (g : κ → ι) (f : ι → α) (a : α) (l : List κ) :
    runningMax f a (l.map g) = runningMax (fun k => f (g k)) a l := by
  simp [runningMax, List.foldl_map]

theorem isGreatest_runningMax (f : ι → α) (a : α) (l : List ι) :
    IsGreatest (insert a (f '' {i | i ∈ l})) (runningMax f a l) := by
  induction l using List.reverseRecOn with
  | nil => simp
  | append_singleton l i ih =>
      have hset : insert a (f '' {j | j ∈ l ++ [i]}) = insert (f i) (insert a (f '' {j | j ∈ l})) := by
        ext v
        simp only [List.mem_append, List.mem_singleton, Set.mem_insert_iff, Set.mem_image,
          Set.mem_ofPred_eq]
        grind
      rw [hset, runningMax_concat, max_comm]
      exact ih.insert (f i)

theorem isLeast_runningMin (f : ι → α) (a : α) (l : List ι) :
    IsLeast (insert a (f '' {i | i ∈ l})) (runningMin f a l) :=
  isGreatest_runningMax (fun i => OrderDual.toDual (f i)) (OrderDual.toDual a) l

theorem le_runningMax_init (f : ι → α) (a : α) (l : List ι) : a ≤ runningMax f a l :=
  (isGreatest_runningMax f a l).2 (Set.mem_insert a _)

theorem le_runningMax (f : ι → α) (a : α) {l : List ι} {i : ι} (hi : i ∈ l) :
    f i ≤ runningMax f a l :=
  (isGreatest_runningMax f a l).2 (Set.mem_insert_of_mem a ⟨i, hi, rfl⟩)

theorem runningMax_le_iff {f : ι → α} {a b : α} {l : List ι} :
    runningMax f a l ≤ b ↔ a ≤ b ∧ ∀ i ∈ l, f i ≤ b := by
  constructor
  · intro hle
    exact ⟨(le_runningMax_init f a l).trans hle, fun i hi => (le_runningMax f a hi).trans hle⟩
  · rintro ⟨ha, hl⟩
    rcases (isGreatest_runningMax f a l).1 with hinit | ⟨i, hi, hvalue⟩
    · exact hinit.trans_le ha
    · exact hvalue.symm.trans_le (hl i hi)

theorem le_runningMax_iff {f : ι → α} {a b : α} {l : List ι} :
    b ≤ runningMax f a l ↔ b ≤ a ∨ ∃ i ∈ l, b ≤ f i := by
  constructor
  · intro hle
    rcases (isGreatest_runningMax f a l).1 with hinit | ⟨i, hi, hvalue⟩
    · exact .inl (hle.trans_eq hinit)
    · exact .inr ⟨i, hi, hle.trans_eq hvalue.symm⟩
  · rintro (ha | ⟨i, hi, hle⟩)
    · exact ha.trans (le_runningMax_init f a l)
    · exact hle.trans (le_runningMax f a hi)

end RunningMax
