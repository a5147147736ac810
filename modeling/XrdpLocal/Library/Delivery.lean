import XrdpLocal.Library.Machine
import Mathlib.Algebra.Order.Group.Multiset
/-!
# Delivery through a queue with a bypass

Events are pushed to the tail of a queue and delivered from its head, or they
bypass the queue and are delivered at once. Three histories record such a
path: everything produced, what still waits, and everything delivered.

Nothing is ever lost or duplicated (`conserved`). Order is a different matter:
a class of events that never bypasses stays in order (`inOrder_of_class`), all
of them do while every bypass finds the queue empty (`inOrder_of_idle`), and a
bypass past a waiting event of another value cannot be undone
(`not_prefix_of_overtake`).
-/

namespace StateMachine

structure Delivery (ε : Type*) where
  produced : List ε
  pending : List ε
  delivered : List ε

namespace Delivery

variable {ε : Type*}

inductive Move (ε : Type*)
  | push (e : ε)
  | deliver
  | bypass (e : ε)

def step (d : Delivery ε) : Move ε → Option (Delivery ε)
  | .push e =>
      some { d with produced := d.produced ++ [e], pending := d.pending ++ [e] }
  | .deliver =>
      match d.pending with
      | [] => none
      | e :: rest => some { d with pending := rest, delivered := d.delivered ++ [e] }
  | .bypass e =>
      some { d with produced := d.produced ++ [e], delivered := d.delivered ++ [e] }

def machine (ε : Type*) : Machine (Delivery ε) (Move ε) where
  start := ⟨[], [], []⟩
  step := step

/-- No event is lost or duplicated. -/
def Conserved (d : Delivery ε) : Prop :=
  (d.delivered : Multiset ε) + d.pending = d.produced

/-- Everything delivered, then everything waiting, is what was produced. -/
def InOrder (d : Delivery ε) : Prop :=
  d.delivered ++ d.pending = d.produced

def restrict (p : ε → Bool) (d : Delivery ε) : Delivery ε :=
  ⟨d.produced.filter p, d.pending.filter p, d.delivered.filter p⟩

theorem step_cases {d d' : Delivery ε} {m : Move ε} (hstep : d.step m = some d') :
    (∃ e, m = .push e ∧ d' = ⟨d.produced ++ [e], d.pending ++ [e], d.delivered⟩) ∨
    (∃ e rest, m = .deliver ∧ d.pending = e :: rest ∧
      d' = ⟨d.produced, rest, d.delivered ++ [e]⟩) ∨
    (∃ e, m = .bypass e ∧ d' = ⟨d.produced ++ [e], d.pending, d.delivered ++ [e]⟩) := by
  cases m with
  | push e => exact .inl ⟨e, rfl, by simpa [step] using hstep.symm⟩
  | deliver =>
      cases hpending : d.pending with
      | nil => simp [step, hpending] at hstep
      | cons e rest =>
          refine .inr (.inl ⟨e, rest, rfl, rfl, ?_⟩)
          simpa [step, hpending] using hstep.symm
  | bypass e => exact .inr (.inr ⟨e, rfl, by simpa [step] using hstep.symm⟩)

theorem conserved {d : Delivery ε} (hreach : (machine ε).Reachable d) :
    d.Conserved := by
  refine hreach.invariant (I := Conserved) (by rfl) ?_
  intro d d' m _ ih _ hstep
  unfold Conserved at ih ⊢
  obtain ⟨e, _, rfl⟩ | ⟨e, rest, _, hpending, rfl⟩ | ⟨e, _, rfl⟩ := step_cases hstep
  · simp only [← Multiset.coe_add, ← ih, add_assoc]
  · rw [← ih, hpending, ← Multiset.cons_coe, ← Multiset.coe_add, add_assoc,
      Multiset.coe_singleton, Multiset.singleton_add]
  · rw [← Multiset.coe_add, ← Multiset.coe_add, ← ih]
    exact add_right_comm _ _ _

/-- A class of events that never bypasses the queue is delivered in order. -/
theorem inOrder_of_class {p : ε → Bool} {d : Delivery ε}
    (hreach : (machine ε).ReachableBy (fun _ m => ∀ e, m = .bypass e → p e = false) d) :
    (d.restrict p).InOrder := by
  refine hreach.invariant (I := fun d => (d.restrict p).InOrder) (by rfl) ?_
  intro d d' m _ ih hok hstep
  simp only [InOrder, restrict] at ih ⊢
  obtain ⟨e, _, rfl⟩ | ⟨e, rest, _, hpending, rfl⟩ | ⟨e, hm, rfl⟩ := step_cases hstep
  · simp only [List.filter_append, ← ih, List.append_assoc]
  · rw [← ih, hpending, List.filter_append, List.append_assoc, ← List.filter_append,
      List.singleton_append]
  · simp [List.filter_append, hok e hm, ih]

theorem inOrder_of_idle {d : Delivery ε}
    (hreach : (machine ε).ReachableBy
      (fun d m => ∀ e, m = .bypass e → d.pending = []) d) : d.InOrder := by
  refine hreach.invariant (I := InOrder) (by rfl) ?_
  intro d d' m _ ih hok hstep
  simp only [InOrder] at ih ⊢
  obtain ⟨e, _, rfl⟩ | ⟨e, rest, _, hpending, rfl⟩ | ⟨e, hm, rfl⟩ := step_cases hstep
  · rw [← ih, List.append_assoc]
  · rw [← ih, hpending, List.append_assoc, List.singleton_append]
  · rw [← ih, hok e hm, List.append_nil, List.append_nil]

theorem InOrder.isPrefix {d : Delivery ε} (h : d.InOrder) :
    d.delivered <+: d.produced :=
  ⟨d.pending, h⟩

/-- Delivering `e` ahead of a waiting event of another value breaks the order:
the delivered history is no longer a prefix of the produced one. -/
theorem not_prefix_of_overtake {d : Delivery ε} (h : d.InOrder) {w e : ε}
    {rest : List ε} (hpending : d.pending = w :: rest) (hne : e ≠ w) :
    ¬ d.delivered ++ [e] <+: d.produced ++ [e] := by
  rw [← h, hpending, List.append_assoc, List.prefix_append_right_inj]
  intro hpre
  rw [List.cons_append, List.cons_prefix_cons] at hpre
  exact hne hpre.1

end Delivery

end StateMachine
