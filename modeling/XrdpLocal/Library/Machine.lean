import Mathlib.Data.List.Basic
/-!
# Executable state machines

A machine is a start state and a partial step function. Concurrent programs
fit this shape by letting an action name the thread that moves and the choice
it makes, so that one list of actions is one interleaving.

Besides reachability and forward simulation, the module relates a property of
the visited states to a condition on the steps taken: `Machine.sharp` turns
"steps that meet the condition stay inside the property" and "a step that
misses it leaves the property" into an equivalence about every run.
-/

namespace StateMachine

/-- A start state and the effect of each action; `none` means the action is
disabled. -/
structure Machine (σ α : Type*) where
  start : σ
  step : σ → α → Option σ

namespace Machine

variable {σ α τ β : Type*} (M : Machine σ α)

def run : σ → List α → Option σ
  | s, [] => some s
  | s, a :: as => (M.step s a).bind fun s' => run s' as

/-- States reached from the start by steps that all meet `ok`. -/
inductive ReachableBy (ok : σ → α → Prop) : σ → Prop
  | start : ReachableBy ok M.start
  | step {s s' : σ} {a : α} (hreach : ReachableBy ok s) (hok : ok s a)
      (hstep : M.step s a = some s') : ReachableBy ok s'

abbrev Reachable : σ → Prop := M.ReachableBy fun _ _ => True

/-- `P` holds of every state that the run of the actions visits. -/
def Always (P : σ → Prop) : σ → List α → Prop
  | s, [] => P s
  | s, a :: as => P s ∧ ∀ s', M.step s a = some s' → Always P s' as

/-- Every step that the run of the actions takes meets `ok`. -/
def StepsMeet (ok : σ → α → Prop) : σ → List α → Prop
  | _, [] => True
  | s, a :: as => ∀ s', M.step s a = some s' → ok s a ∧ StepsMeet ok s' as

def CanReach (P : σ → Prop) (s : σ) : Prop :=
  ∃ as s', M.run s as = some s' ∧ P s'

/-- Steps that meet `ok` keep `P`, and any other step can be continued to a
state outside `P`. -/
structure Guards (ok : σ → α → Prop) (P : σ → Prop) : Prop where
  safe : ∀ {s}, M.ReachableBy ok s → P s
  needed : ∀ {s s' a}, M.ReachableBy ok s → M.step s a = some s' → ¬ ok s a →
    M.CanReach (fun t => ¬ P t) s'

variable {M}

@[simp] theorem run_nil (s : σ) : M.run s [] = some s := rfl

@[simp] theorem run_cons (s : σ) (a : α) (as : List α) :
    M.run s (a :: as) = (M.step s a).bind fun s' => M.run s' as := rfl

theorem run_append (s : σ) (as bs : List α) :
    M.run s (as ++ bs) = (M.run s as).bind fun s' => M.run s' bs := by
  induction as generalizing s with
  | nil => rfl
  | cons a as ih =>
      cases hstep : M.step s a with
      | none => simp [hstep]
      | some s' => simp [hstep, ih]

theorem run_cons_of_step {s s' : σ} {a : α} (hstep : M.step s a = some s')
    (as : List α) : M.run s (a :: as) = M.run s' as := by
  simp [hstep]

/-! ## Reachability -/

section Reachability

variable {ok : σ → α → Prop}

theorem ReachableBy.mono {ok' : σ → α → Prop} (himp : ∀ s a, ok s a → ok' s a)
    {s : σ} (hreach : M.ReachableBy ok s) : M.ReachableBy ok' s := by
  induction hreach with
  | start => exact .start
  | step _ hok hstep ih => exact .step ih (himp _ _ hok) hstep

theorem ReachableBy.reachable {s : σ} (hreach : M.ReachableBy ok s) :
    M.Reachable s :=
  hreach.mono fun _ _ _ => trivial

/-- Invariant rule. The step case may use that its source is reachable, and
with it every invariant proved before. -/
theorem ReachableBy.invariant {I : σ → Prop} (hstart : I M.start)
    (hinv : ∀ {s s' a}, M.ReachableBy ok s → I s → ok s a →
      M.step s a = some s' → I s')
    {s : σ} (hreach : M.ReachableBy ok s) : I s := by
  induction hreach with
  | start => exact hstart
  | step hreach hok hstep ih => exact hinv hreach ih hok hstep

theorem ReachableBy.run {s s' : σ} {as : List α} (hreach : M.ReachableBy ok s)
    (hok : M.StepsMeet ok s as) (hrun : M.run s as = some s') :
    M.ReachableBy ok s' := by
  induction as generalizing s with
  | nil =>
      obtain rfl : s = s' := by simpa using hrun
      exact hreach
  | cons a as ih =>
      simp only [run_cons, Option.bind_eq_some_iff] at hrun
      obtain ⟨t, hstep, hrest⟩ := hrun
      obtain ⟨hoka, hokas⟩ := hok t hstep
      exact ih (hreach.step hoka hstep) hokas hrest

theorem stepsMeet_true (s : σ) (as : List α) :
    M.StepsMeet (fun _ _ => True) s as := by
  induction as generalizing s with
  | nil => trivial
  | cons a as ih => exact fun s' _ => ⟨trivial, ih s'⟩

instance stepsMeetDecidable [∀ s a, Decidable (ok s a)] (s : σ) (as : List α) :
    Decidable (M.StepsMeet ok s as) :=
  match as with
  | [] => .isTrue trivial
  | a :: as =>
      match hstep : M.step s a with
      | none => .isTrue fun s' hs' => by rw [hstep] at hs'; cases hs'
      | some t =>
          have := stepsMeetDecidable t as
          decidable_of_iff (ok s a ∧ M.StepsMeet ok t as) (by
            constructor
            · intro hmeet s' hs'
              rw [hstep, Option.some.injEq] at hs'
              rwa [← hs']
            · exact fun hmeet => hmeet t hstep)

theorem reachable_of_run {s : σ} {as : List α}
    (hrun : M.run M.start as = some s) : M.Reachable s :=
  ReachableBy.run .start (stepsMeet_true _ _) hrun

/-- Refute an invariant by executing a run whose last state breaks it. -/
theorem not_always_of_run {P : σ → Prop} (as : List α)
    (hrun : ∃ s, M.run M.start as = some s ∧ ¬ P s) :
    ¬ ∀ s, M.Reachable s → P s := by
  obtain ⟨s, hrun, hnot⟩ := hrun
  exact fun hall => hnot (hall s (reachable_of_run hrun))

theorem CanReach.of_run {P : σ → Prop} {s s' : σ} {as : List α}
    (hrun : M.run s as = some s') (hreach : M.CanReach P s') :
    M.CanReach P s := by
  obtain ⟨bs, t, hbs, ht⟩ := hreach
  exact ⟨as ++ bs, t, by rw [run_append, hrun]; exact hbs, ht⟩

theorem CanReach.of_step {P : σ → Prop} {s s' : σ} {a : α}
    (hstep : M.step s a = some s') (hreach : M.CanReach P s') :
    M.CanReach P s :=
  .of_run (show M.run s [a] = some s' by simp [hstep]) hreach

theorem CanReach.here {P : σ → Prop} {s : σ} (h : P s) : M.CanReach P s :=
  ⟨[], s, rfl, h⟩

theorem invariant_of_run {I : σ → Prop}
    (hinv : ∀ {s s' a}, I s → ok s a → M.step s a = some s' → I s') {s t : σ} {as : List α}
    (hrun : M.run s as = some t) (hmeet : M.StepsMeet ok s as) (h : I s) : I t := by
  induction as generalizing s with
  | nil =>
      obtain rfl : s = t := by simpa using hrun
      exact h
  | cons a as ih =>
      simp only [run_cons, Option.bind_eq_some_iff] at hrun
      obtain ⟨s', hstep, hrest⟩ := hrun
      obtain ⟨hok, hmeet'⟩ := hmeet s' hstep
      exact ih hrest hmeet' (hinv h hok hstep)

/-- Ranking rule. If every reachable state short of the goal has a step of a
chosen kind that lowers the rank, then such steps lead to the goal from all of
them. -/
theorem ReachableBy.reaches_of_rank {next : σ → α → Prop} (hnext : ∀ s a, next s a → ok s a)
    {Goal : σ → Prop} (rank : σ → Nat)
    (hprogress : ∀ s, M.ReachableBy ok s → ¬ Goal s →
      ∃ a s', next s a ∧ M.step s a = some s' ∧ rank s' < rank s)
    {s : σ} (hreach : M.ReachableBy ok s) :
    ∃ as t, M.run s as = some t ∧ M.StepsMeet next s as ∧ Goal t := by
  induction hn : rank s using Nat.strongRecOn generalizing s with
  | ind n ih =>
      by_cases hgoal : Goal s
      · exact ⟨[], s, rfl, trivial, hgoal⟩
      · obtain ⟨a, s', ha, hstep, hlt⟩ := hprogress s hreach hgoal
        have hreach' := hreach.step (hnext s a ha) hstep
        obtain ⟨as, t, hrun, hmeet, ht⟩ := ih (rank s') (hn ▸ hlt) hreach' rfl
        refine ⟨a :: as, t, ?_, ?_, ht⟩
        · rw [run_cons, hstep]
          exact hrun
        · intro u hu
          obtain rfl : s' = u := by rw [hstep] at hu; exact Option.some.inj hu
          exact ⟨ha, hmeet⟩

end Reachability

/-! ## Properties of states against conditions on steps -/

theorem always_head {P : σ → Prop} {s : σ} {as : List α}
    (h : M.Always P s as) : P s := by
  cases as with
  | nil => exact h
  | cons a as => exact h.1

/-- If steps that meet `ok` never leave `P` and the first step that misses it
does, then a run keeps `P` exactly when all its steps meet `ok`. -/
theorem sharp {ok : σ → α → Prop} {P : σ → Prop}
    (hsafe : ∀ s, M.ReachableBy ok s → P s)
    (hleave : ∀ s s' a, M.ReachableBy ok s → M.step s a = some s' →
      ¬ ok s a → ¬ P s') (as : List α) :
    M.Always P M.start as ↔ M.StepsMeet ok M.start as := by
  suffices h : ∀ s, M.ReachableBy ok s →
      (M.Always P s as ↔ M.StepsMeet ok s as) from h _ .start
  induction as with
  | nil => exact fun s hs => ⟨fun _ => trivial, fun _ => hsafe s hs⟩
  | cons a as ih =>
      intro s hs
      constructor
      · rintro ⟨_, hrest⟩ s' hstep
        have hok : ok s a := by
          by_contra hmiss
          exact hleave s s' a hs hstep hmiss (always_head (hrest s' hstep))
        exact ⟨hok, (ih s' (hs.step hok hstep)).mp (hrest s' hstep)⟩
      · intro hmeet
        refine ⟨hsafe s hs, fun s' hstep => ?_⟩
        obtain ⟨hok, hrest⟩ := hmeet s' hstep
        exact (ih s' (hs.step hok hstep)).mpr hrest

/-! ## Forward simulation -/

/-- `R` relates the states of `M` to those of `N` so that every step of `M`
that meets `ok` is matched by a run of `N`, possibly an empty one, whose steps
meet `ok'`. -/
structure Simulation (M : Machine σ α) (N : Machine τ β)
    (ok : σ → α → Prop) (ok' : τ → β → Prop) (R : σ → τ → Prop) : Prop where
  start : R M.start N.start
  step : ∀ {s s' a t}, M.ReachableBy ok s → R s t → ok s a →
    M.step s a = some s' →
    ∃ bs t', N.run t bs = some t' ∧ N.StepsMeet ok' t bs ∧ R s' t'

theorem Simulation.reachable {N : Machine τ β} {ok : σ → α → Prop}
    {ok' : τ → β → Prop} {R : σ → τ → Prop} (sim : Simulation M N ok ok' R)
    {s : σ} (hreach : M.ReachableBy ok s) : ∃ t, N.ReachableBy ok' t ∧ R s t := by
  induction hreach with
  | start => exact ⟨N.start, .start, sim.start⟩
  | step hreach hok hstep ih =>
      obtain ⟨t, ht, hR⟩ := ih
      obtain ⟨bs, t', hrun, hmeet, hR'⟩ := sim.step hreach hR hok hstep
      exact ⟨t', ht.run hmeet hrun, hR'⟩

end Machine

end StateMachine
