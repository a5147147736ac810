import Mathlib.Data.List.Basic
/-!
# Traces

A trace lists what has happened, oldest first. `Each` states what must have
happened before an entry; it is kept entry by entry as the trace grows.
-/

namespace Trace

variable {ε : Type*} {ok : List ε → ε → Prop} {trace suffix : List ε}

def Each (ok : List ε → ε → Prop) (trace : List ε) : Prop :=
  ∀ before e after, trace = before ++ e :: after → ok before e

theorem each_nil : Each ok [] := by
  intro before e after h
  cases before <;> cases h

theorem Each.concat (h : Each ok trace) {e : ε} (he : ok trace e) : Each ok (trace ++ [e]) := by
  intro before e' after heq
  rcases List.eq_nil_or_concat after with rfl | ⟨after, last, rfl⟩
  · obtain ⟨rfl, hlast⟩ := List.append_inj' heq rfl
    obtain rfl := List.singleton_inj.mp hlast
    exact he
  · rw [List.concat_eq_append, ← List.cons_append, ← List.append_assoc] at heq
    exact h before e' after (List.append_inj' heq rfl).1

theorem Each.of_isPrefix {longer : List ε} (h : Each ok longer) (hinit : trace <+: longer) :
    Each ok trace := by
  obtain ⟨rest, rfl⟩ := hinit
  intro before e after heq
  exact h before e (after ++ rest) (by rw [heq, List.append_assoc, List.cons_append])

theorem each_cons {e : ε} :
    Each ok (e :: trace) ↔ ok [] e ∧ Each (fun before => ok (e :: before)) trace := by
  constructor
  · intro h
    exact ⟨h [] e trace rfl, fun before e' after heq => h (e :: before) e' after (by rw [heq]; rfl)⟩
  · rintro ⟨hfirst, hrest⟩ before e' after heq
    rcases before with _ | ⟨first, before⟩
    · obtain ⟨rfl, -⟩ := List.cons.inj heq
      exact hfirst
    · obtain ⟨rfl, htail⟩ := List.cons.inj heq
      exact hrest before e' after htail

theorem Each.append (h : Each ok trace) (hsuffix : ∀ e ∈ suffix, ∀ before, ok before e) :
    Each ok (trace ++ suffix) := by
  induction suffix generalizing trace with
  | nil => rwa [List.append_nil]
  | cons e suffix ih =>
      obtain ⟨he, hrest⟩ := List.forall_mem_cons.mp hsuffix
      rw [List.append_cons]
      exact ih (h.concat (he trace)) hrest

end Trace
