import Mathlib.Data.List.Nodup
/-!
# Ledgers of resources

A ledger records which resources a program has acquired and released and which
are live. Programs are state transformers on ledgers that may throw, and what
they did before an exception stays done.

An object whose constructor acquires resources is all or nothing when a
constructor that throws leaves nothing live, and a destructor after one that
returns releases everything once. The destructor of an object is a list of
releases, and `settled_releaseAll` compares that list with what the object
holds.
-/

/-- `live` holds the most recent resource first, the other two are in the order
of the calls. A release counts whether or not the resource is live. -/
structure Ledger (R : Type) where
  live : List R := []
  acquired : List R := []
  released : List R := []
  deriving DecidableEq, Repr

namespace Ledger

variable {R α ε : Type}

/-- Nothing is live, and everything acquired was released once. -/
structure Settled [DecidableEq R] (ledger : Ledger R) : Prop where
  live : ledger.live = []
  once : ∀ r ∈ ledger.acquired, ledger.released.count r = 1

/-- The ledger of a program that has released nothing and holds these
resources, the most recent first. -/
def holding (held : List R) : Ledger R := ⟨held, held.reverse, []⟩

def acquire (ledger : Ledger R) (r : R) : Ledger R :=
  { ledger with live := r :: ledger.live, acquired := ledger.acquired ++ [r] }

@[simp] theorem acquire_holding (held : List R) (r : R) :
    (holding held).acquire r = holding (r :: held) := by
  simp [holding, acquire]

@[simp] theorem live_holding (held : List R) : (holding held).live = held := rfl

@[simp] theorem acquired_holding (held : List R) : (holding held).acquired = held.reverse := rfl

@[simp] theorem released_holding (held : List R) : (holding held).released = [] := rfl

section Release

variable [DecidableEq R]

def release (ledger : Ledger R) (r : R) : Ledger R :=
  { ledger with live := ledger.live.erase r, released := ledger.released ++ [r] }

@[simp] theorem live_release (ledger : Ledger R) (r : R) :
    (ledger.release r).live = ledger.live.erase r := rfl

theorem released_release (ledger : Ledger R) (r : R) :
    (ledger.release r).released = ledger.released ++ [r] := rfl

def releaseAll (ledger : Ledger R) (rs : List R) : Ledger R := rs.foldl release ledger

@[simp] theorem releaseAll_nil (ledger : Ledger R) : ledger.releaseAll [] = ledger := rfl

@[simp] theorem releaseAll_cons (ledger : Ledger R) (r : R) (rs : List R) :
    ledger.releaseAll (r :: rs) = (ledger.release r).releaseAll rs := rfl

theorem releaseAll_append (ledger : Ledger R) (rs rs' : List R) :
    ledger.releaseAll (rs ++ rs') = (ledger.releaseAll rs).releaseAll rs' :=
  List.foldl_append

theorem live_releaseAll (ledger : Ledger R) (rs : List R) :
    (ledger.releaseAll rs).live = ledger.live.diff rs := by
  induction rs generalizing ledger with
  | nil => rfl
  | cons r rs ih => rw [releaseAll_cons, ih, List.diff_cons, release]

theorem acquired_releaseAll (ledger : Ledger R) (rs : List R) :
    (ledger.releaseAll rs).acquired = ledger.acquired := by
  induction rs generalizing ledger with
  | nil => rfl
  | cons r rs ih => rw [releaseAll_cons, ih, release]

theorem released_releaseAll (ledger : Ledger R) (rs : List R) :
    (ledger.releaseAll rs).released = ledger.released ++ rs := by
  induction rs generalizing ledger with
  | nil => simp
  | cons r rs ih => rw [releaseAll_cons, ih, release, List.append_assoc, List.singleton_append]

/-- Releases of distinct resources, those held among them. -/
theorem settled_releaseAll {held rs : List R} (hheld : held.Nodup) (hrs : rs.Nodup)
    (hsub : held ⊆ rs) : ((holding held).releaseAll rs).Settled where
  live := by
    rw [live_releaseAll, live_holding, List.eq_nil_iff_forall_not_mem]
    intro r hmem
    obtain ⟨hlive, hkept⟩ := hheld.mem_sdiff_iff.mp hmem
    exact hkept (hsub hlive)
  once := by
    intro r hmem
    rw [acquired_releaseAll, acquired_holding, List.mem_reverse] at hmem
    rw [released_releaseAll, released_holding, List.nil_append]
    exact List.count_eq_one_of_mem hrs (hsub hmem)

end Release

/-! ## Programs -/

@[simp] theorem run_throw (e : ε) (ledger : Ledger R) :
    (throw e : EStateM ε (Ledger R) α).run ledger = .error e ledger := rfl

@[simp] theorem run_map_throw {β : Type} (f : α → β) (e : ε) (ledger : Ledger R) :
    (f <$> (throw e : EStateM ε (Ledger R) α)).run ledger = .error e ledger := rfl

/-- A call with this outcome, which acquires a resource or none. -/
def attempt (outcome : α) (resource : Option R) : EStateM ε (Ledger R) α := do
  match resource with
  | none => pure outcome
  | some r => modify fun ledger => ledger.acquire r; pure outcome

@[simp] theorem run_attempt (outcome : α) (resource : Option R) (held : List R) :
    (attempt outcome resource : EStateM ε (Ledger R) α).run (holding held) =
      .ok outcome (holding (resource.toList ++ held)) := by
  cases resource with
  | none => rfl
  | some r =>
      show EStateM.Result.ok outcome ((holding held).acquire r) = _
      rw [acquire_holding]
      rfl

def ThrewClean (result : EStateM.Result ε (Ledger R) α) : Prop :=
  match result with
  | .ok _ _ => False
  | .error _ ledger => ledger.live = []

def AllOrNothing [DecidableEq R] (construct : EStateM ε (Ledger R) α)
    (destroy : α → EStateM ε (Ledger R) Unit) : Prop :=
  match construct.run (holding []) with
  | .ok a ledger => ∃ after, (destroy a).run ledger = .ok () after ∧ after.Settled
  | .error _ ledger => ledger.live = []

section AllOrNothing

variable [DecidableEq R] {construct : EStateM ε (Ledger R) α}
  {destroy : α → EStateM ε (Ledger R) Unit}

theorem allOrNothing_of_threwClean (h : ThrewClean (construct.run (holding []))) :
    AllOrNothing construct destroy := by
  unfold ThrewClean at h
  unfold AllOrNothing
  split at h
  · exact h.elim
  · exact h

theorem allOrNothing_of_return {a : α} {held rs : List R}
    (hrun : construct.run (holding []) = .ok a (holding held))
    (hdestroy : (destroy a).run (holding held) = .ok () ((holding held).releaseAll rs))
    (hheld : held.Nodup) (hrs : rs.Nodup) (hsub : held ⊆ rs) :
    AllOrNothing construct destroy := by
  rw [AllOrNothing, hrun]
  exact ⟨_, hdestroy, settled_releaseAll hheld hrs hsub⟩

end AllOrNothing

end Ledger
