import Mathlib.Data.List.Basic
/-!
# Counting loops

`for (i = 0; i < n; i++)` is a fold over `List.range n`. A loop whose states
are known in closed form, one for each value of the counter, runs exactly when
every iteration does.
-/

namespace Loops

variable {σ : Type*}

def storeAt {α : Type*} (cells : List α) (i : Nat) (v : α) : Option (List α) :=
  if i < cells.length then some (cells.set i v) else none

theorem storeAt_append_replicate {α : Type*} (l : List α) (k : Nat) (z v : α) :
    storeAt (l ++ List.replicate (k + 1) z) l.length v =
      some (l ++ [v] ++ List.replicate k z) := by
  rw [storeAt, if_pos (by simp), List.set_append_right _ _ (Nat.le_refl _), Nat.sub_self,
    List.replicate_succ, List.set_cons_zero]
  simp

/-- The rule for a loop that may fail: `state i` is the state before iteration
`i`, which goes through when `ok i` holds. -/
theorem foldlM_range_eq_some_iff {step : σ → Nat → Option σ} {state : Nat → σ}
    {ok : Nat → Prop} {n : Nat} {t : σ}
    (hok : ∀ i < n, ok i → step (state i) i = some (state (i + 1)))
    (hfail : ∀ i < n, ¬ ok i → step (state i) i = none) :
    (List.range n).foldlM step (state 0) = some t ↔ (∀ i < n, ok i) ∧ t = state n := by
  induction n generalizing t with
  | zero => simp [eq_comm]
  | succ n ih =>
      have ih' := fun t => ih (t := t) (fun i hi => hok i (by omega)) fun i hi => hfail i (by omega)
      rw [List.range_succ, List.foldlM_append, Option.bind_eq_bind, Option.bind_eq_some_iff]
      simp only [ih', List.foldlM_cons, List.foldlM_nil, Option.bind_eq_bind, Option.pure_def]
      constructor
      · rintro ⟨s, ⟨hall, rfl⟩, hstep⟩
        by_cases hn : ok n
        · refine ⟨fun i hi => ?_, ?_⟩
          · rcases Nat.lt_succ_iff_lt_or_eq.mp hi with hlt | rfl
            · exact hall i hlt
            · exact hn
          · simpa [hok n (by omega) hn, eq_comm] using hstep
        · simp [hfail n (by omega) hn] at hstep
      · rintro ⟨hall, rfl⟩
        refine ⟨state n, ⟨fun i hi => hall i (by omega), rfl⟩, ?_⟩
        simp [hok n (by omega) (hall n (by omega))]

theorem foldlM_range_eq {step : σ → Nat → Option σ} {state : Nat → σ} {n : Nat}
    (hstep : ∀ i < n, step (state i) i = some (state (i + 1))) :
    (List.range n).foldlM step (state 0) = some (state n) := by
  have hiff : (List.range n).foldlM step (state 0) = some (state n) ↔
      (∀ i < n, True) ∧ state n = state n :=
    foldlM_range_eq_some_iff (fun i hi _ => hstep i hi) fun _ _ hnot => absurd trivial hnot
  exact hiff.mpr ⟨fun _ _ => trivial, rfl⟩

theorem mapM_eq_map {α β : Type*} {f : α → Option β} {g : α → β} {l : List α}
    (h : ∀ a ∈ l, f a = some (g a)) : l.mapM f = some (l.map g) := by
  induction l with
  | nil => rfl
  | cons a l ih =>
      rw [List.mapM_cons, h a List.mem_cons_self, ih fun b hb => h b (List.mem_cons_of_mem a hb)]
      rfl

end Loops
