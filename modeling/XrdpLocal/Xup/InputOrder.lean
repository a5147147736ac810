import XrdpLocal.Xup.InputPath
import Mathlib.Data.List.Chain
/-!
# Loss, duplication and order of input events

With a non-null `mod_event` every input event is delivered once, and the kinds
that go through `xrdp_events` stay in order among themselves. The order of all
events is another matter: moves and presses overtake whatever is still queued.
`always_ordered_iff` says exactly when that does not show.
-/

namespace XrdpLocal.Xup.InputPath

open StateMachine

/-! ## The refinement -/

structure Wf (s : State) : Prop where
  modEvent : s.mod.modEvent = true
  sorted : ∀ op ∈ s.handler, op.Sorted
  queued : ∀ event ∈ s.pending, event.msg.queued = true
  calls : s.produced ++ s.handler.map InputOp.event = s.calls.flatMap Handler.events

theorem wf_start (supported : Bool) : Wf (machine true supported).start := by
  constructor
  · rfl
  · simp [machine]
  · simp [machine, State.pending, Drain.popped]
  · rfl

theorem wf_step {s s' : State} {a : Action} (hwf : Wf s) (hstep : step s a = some s') :
    Wf s' := by
  have hmod : s'.mod.modEvent = true := by rw [modEvent_step hstep, hwf.modEvent]
  have hcalls := hwf.calls
  have hsorted := hwf.sorted
  have hqueued := hwf.queued
  rcases step_cases hwf.modEvent hstep with
    ⟨h, _, hidle, hops, hcall, hdel⟩ | ⟨event, rest, _, hh, hrest, hcall, hdel⟩ |
    ⟨event, rest, _, hh, hrest, hcall, hdel⟩ | ⟨_, hh, hcall, hdel⟩ |
    ⟨_, hh, hcall, hdel⟩
  · simp only [State.delivery, Delivery.mk.injEq] at hdel
    refine ⟨hmod, ?_, by rw [hdel.2.1]; exact hqueued, ?_⟩
    · rw [hops]
      exact h.sorted_ops
    · rw [hidle, List.map_nil, List.append_nil] at hcalls
      rw [hops, hcall, hdel.1, hcalls, List.flatMap_append]
      simp [Handler.events]
  · simp only [Delivery.step, State.delivery, Option.some.injEq, Delivery.mk.injEq] at hdel
    rw [hh] at hcalls hsorted
    refine ⟨hmod, ?_, by rw [← hdel.2.1]; exact hqueued, ?_⟩
    · rw [hrest]
      exact fun op hop => hsorted op (List.mem_cons_of_mem _ hop)
    · rw [hrest, hcall, ← hdel.1, ← hcalls]
      simp [InputOp.event]
  · simp only [Delivery.step, State.delivery, Option.some.injEq, Delivery.mk.injEq] at hdel
    rw [hh] at hcalls hsorted
    refine ⟨hmod, ?_, ?_, ?_⟩
    · rw [hrest]
      exact fun op hop => hsorted op (List.mem_cons_of_mem _ hop)
    · have hevent : event.msg.queued = true := hsorted (.enqueue event) (by simp)
      rw [← hdel.2.1]
      simpa [or_imp, forall_and, hevent] using hqueued
    · rw [hrest, hcall, ← hdel.1, ← hcalls]
      simp [InputOp.event]
  · simp only [State.delivery, Delivery.mk.injEq] at hdel
    exact ⟨hmod, by rwa [hh], by rwa [hdel.2.1], by rw [hh, hcall, hdel.1, hcalls]⟩
  · have hpending : ∀ event ∈ s'.pending, event ∈ s.pending := by
      cases hp : s.pending with
      | nil => simp [Delivery.step, State.delivery, hp] at hdel
      | cons head rest =>
          simp only [Delivery.step, State.delivery, hp, Option.some.injEq,
            Delivery.mk.injEq] at hdel
          rw [← hdel.2.1]
          exact fun event hevent => List.mem_cons_of_mem _ hevent
    have hproduced : s'.produced = s.produced := by
      cases hp : s.pending with
      | nil => simp [Delivery.step, State.delivery, hp] at hdel
      | cons head rest =>
          simp only [Delivery.step, State.delivery, hp, Option.some.injEq,
            Delivery.mk.injEq] at hdel
          exact hdel.1.symm
    exact ⟨hmod, by rwa [hh], fun event hevent => hqueued event (hpending event hevent),
      by rw [hh, hcall, hproduced, hcalls]⟩

theorem wf_of_reachable {supported : Bool} {ok : State → Action → Prop} {s : State}
    (hreach : (machine true supported).ReachableBy ok s) : Wf s := by
  refine hreach.invariant (I := Wf) (wf_start supported) ?_
  exact fun _ hwf _ hstep => wf_step hwf hstep

/-- The input path refines `Delivery`, and its bypasses satisfy whatever
`ok` guarantees of the direct `mod_event` calls. -/
theorem refines_delivery {supported : Bool} {ok : State → Action → Prop}
    {Q : Delivery XrdpEvent → XrdpEvent → Prop}
    (hdirect : ∀ s event rest, Wf s → ok s .handlerStep →
      s.handler = .modEvent event :: rest → Q s.delivery event) :
    Machine.Simulation (machine true supported) (Delivery.machine XrdpEvent) ok
      (fun d m => ∀ event, m = .bypass event → Q d event)
      (fun s d => d = s.delivery) := by
  refine ⟨rfl, ?_⟩
  intro s s' a d hreach hd hok hstep
  subst d
  have hwf := wf_of_reachable hreach
  have hone : ∀ m, s.delivery.step m = some s'.delivery →
      (∀ event, m = .bypass event → Q s.delivery event) →
      ∃ bs t', (Delivery.machine XrdpEvent).run s.delivery bs = some t' ∧
        (Delivery.machine XrdpEvent).StepsMeet
          (fun d m => ∀ event, m = .bypass event → Q d event) s.delivery bs ∧
        t' = s'.delivery := by
    intro m hm hQ
    refine ⟨[m], s'.delivery, ?_, fun _ _ => ⟨hQ, trivial⟩, rfl⟩
    simpa [Delivery.machine] using hm
  have hnone : s'.delivery = s.delivery →
      ∃ bs t', (Delivery.machine XrdpEvent).run s.delivery bs = some t' ∧
        (Delivery.machine XrdpEvent).StepsMeet
          (fun d m => ∀ event, m = .bypass event → Q d event) s.delivery bs ∧
        t' = s'.delivery :=
    fun heq => ⟨[], s.delivery, rfl, trivial, heq.symm⟩
  rcases step_cases hwf.modEvent hstep with
    ⟨_, _, _, _, _, hdel⟩ | ⟨event, rest, ha, hh, _, _, hdel⟩ |
    ⟨event, rest, _, _, _, _, hdel⟩ | ⟨_, _, _, hdel⟩ | ⟨_, _, _, hdel⟩
  · exact hnone hdel
  · subst a
    apply hone _ hdel
    intro e he
    obtain rfl : event = e := by simpa using he
    exact hdirect s event rest hwf hok hh
  · exact hone _ hdel nofun
  · exact hnone hdel
  · exact hone _ hdel nofun

/-! ## Nothing is lost or duplicated -/

theorem delivery_conserved {supported : Bool} {s : State}
    (hreach : (machine true supported).Reachable s) : s.delivery.Conserved := by
  have hsim := @refines_delivery supported (fun _ _ => True) (fun _ _ => True)
    (fun _ _ _ _ _ _ => trivial)
  obtain ⟨d, hd, hR⟩ := hsim.reachable hreach
  subst d
  exact Delivery.conserved hd.reachable

theorem queued_inOrder {supported : Bool} {s : State}
    (hreach : (machine true supported).Reachable s) :
    (s.delivery.restrict fun event => event.msg.queued).InOrder := by
  have hsim := @refines_delivery supported (fun _ _ => True)
    (fun _ event => event.msg.queued = false) (fun s event rest hwf _ hh => by
      have hop : InputOp.modEvent event ∈ s.handler := by simp [hh]
      exact hwf.sorted _ hop)
  obtain ⟨d, hd, hR⟩ := hsim.reachable hreach
  subst d
  exact Delivery.inOrder_of_class hd

/-- In every reachable state the events sent, popped and queued are together
the events produced, the queued kinds are in order, and the events produced
are those of the handler calls, up to what the running handler has left. -/
theorem input_events_conserved (supported : Bool) {s : State}
    (hreach : (machine true supported).Reachable s) :
    (s.sent : Multiset XrdpEvent) + s.drain.popped + s.mod.xrdpEvents = s.produced ∧
    s.sent.filter (fun event => event.msg.queued) ++ s.drain.popped ++ s.mod.xrdpEvents =
      s.produced.filter (fun event => event.msg.queued) ∧
    s.produced ++ s.handler.map InputOp.event = s.calls.flatMap Handler.events ∧
    ∀ h : Handler, h.events.map (fun event => event.msg.kind) = h.expected := by
  have hwf := wf_of_reachable hreach
  refine ⟨?_, ?_, hwf.calls, Handler.kinds_events⟩
  · have hcons := delivery_conserved hreach
    rw [Delivery.Conserved] at hcons
    simpa [State.delivery, State.pending, ← Multiset.coe_add, add_assoc] using hcons
  · have horder := queued_inOrder hreach
    have hpending : s.pending.filter (fun event => event.msg.queued) = s.pending :=
      List.filter_eq_self.mpr hwf.queued
    simp only [Delivery.InOrder, Delivery.restrict, State.delivery, hpending] at horder
    rw [← horder, State.pending, List.append_assoc]

/-- Twelve steps in: a press has been sent, its release has been popped, and
the press and release of a scroll and a key press are still queued. -/
theorem input_events_conserved_mid_pass :
    ∃ s, (machine true false).Reachable s ∧
      s.drain.popped = [⟨.wmLButtonUp, 3, 4, 0, 0⟩] ∧ s.mod.xrdpEvents.length = 3 ∧
      (s.sent : Multiset XrdpEvent) + s.drain.popped + s.mod.xrdpEvents = s.produced ∧
      s.sent.filter (fun event => event.msg.queued) ++ s.drain.popped ++ s.mod.xrdpEvents =
        s.produced.filter (fun event => event.msg.queued) ∧
      s.produced ++ s.handler.map InputOp.event = s.calls.flatMap Handler.events ∧
      ∀ h : Handler, h.events.map (fun event => event.msg.kind) = h.expected := by
  have hrun : ∃ s, (machine true false).run (machine true false).start
      [.call (.mouseDown 3 4 1), .handlerStep, .call (.mouseUp 3 4 1), .handlerStep,
        .call (.mouseDown 3 4 77), .call (.scrollVertical 3 4 (-1)), .handlerStep,
        .process, .drainStep, .handlerStep, .call (.keyDown 38), .handlerStep] = some s ∧
      s.drain.popped = [⟨.wmLButtonUp, 3, 4, 0, 0⟩] ∧ s.mod.xrdpEvents.length = 3 :=
    ⟨_, rfl, rfl, rfl⟩
  obtain ⟨s, hrun, hpopped, hlength⟩ := hrun
  have hreach := Machine.reachable_of_run hrun
  exact ⟨s, hreach, hpopped, hlength, input_events_conserved false hreach⟩

/-! ## Order -/

/-- In the events whose message is `down` or `up` the two alternate. -/
def Alternates (down up : Msg) (events : List XrdpEvent) : Prop :=
  ((events.map XrdpEvent.msg).filter fun msg => msg = down ∨ msg = up).IsChain (· ≠ ·)

instance (down up : Msg) (events : List XrdpEvent) : Decidable (Alternates down up events) := by
  unfold Alternates
  infer_instance

/-- The `mod_event` calls are a prefix of the events produced, and a button
whose presses and releases alternate in the latter alternates in the former. -/
def Ordered (s : State) : Prop :=
  s.sent <+: s.produced ∧
  ∀ button down up, mouseDownMsg button = some down → mouseUpMsg button = some up →
    Alternates down up s.produced → Alternates down up s.sent

/-- A direct `mod_event` call finds the queue empty and no popped event on its
way. -/
def DirectWhenIdle (s : State) (a : Action) : Prop :=
  a = .handlerStep → ∀ event rest, s.handler = .modEvent event :: rest → s.pending = []

theorem Alternates.of_isPrefix {down up : Msg} {xs ys : List XrdpEvent}
    (hpre : xs <+: ys) (h : Alternates down up ys) : Alternates down up xs := by
  unfold Alternates at h ⊢
  have hfilter := (hpre.map XrdpEvent.msg).filter
    fun msg => decide (msg = down ∨ msg = up)
  exact h.infix hfilter.isInfix

theorem ordered_of_isPrefix {s : State} (hpre : s.sent <+: s.produced) : Ordered s :=
  ⟨hpre, fun _ _ _ _ _ h => h.of_isPrefix hpre⟩

theorem inOrder_of_directWhenIdle {supported : Bool} {s : State}
    (hreach : (machine true supported).ReachableBy DirectWhenIdle s) :
    s.delivery.InOrder := by
  have hsim := @refines_delivery supported DirectWhenIdle (fun d _ => d.pending = [])
    (fun s event rest _ hok hh => hok rfl event rest hh)
  obtain ⟨d, hd, hR⟩ := hsim.reachable hreach
  subst d
  exact Delivery.inOrder_of_idle hd

/-- A direct call past a waiting event breaks the order for good: the waiting
event is of a queued kind, so it is not the one that overtakes it. -/
theorem not_ordered_of_overtake {s s' : State} {a : Action} (hwf : Wf s)
    (horder : s.delivery.InOrder) (hstep : step s a = some s')
    (hmiss : ¬ DirectWhenIdle s a) : ¬ Ordered s' := by
  simp only [DirectWhenIdle, Classical.not_imp, not_forall] at hmiss
  obtain ⟨rfl, event, rest, hh, hpending⟩ := hmiss
  obtain ⟨waiting, more, hcons⟩ := List.exists_cons_of_ne_nil hpending
  have hdirect : event.msg.queued = false := by
    have hop : InputOp.modEvent event ∈ s.handler := by simp [hh]
    exact hwf.sorted _ hop
  have hwaiting : waiting.msg.queued = true := hwf.queued waiting (by simp [hcons])
  have hne : event ≠ waiting := by
    intro heq
    rw [heq, hwaiting] at hdirect
    exact absurd hdirect (by decide)
  have hs' : s'.sent = s.sent ++ [event] ∧ s'.produced = s.produced ++ [event] := by
    simp only [step, hh, hwf.modEvent, if_true, Option.some.injEq] at hstep
    rw [← hstep]
    exact ⟨rfl, rfl⟩
  intro hordered
  have hpre := hordered.1
  rw [hs'.1, hs'.2] at hpre
  exact Delivery.not_prefix_of_overtake horder hcons hne hpre

/-- A run delivers the input events in order exactly when each of its direct
`mod_event` calls finds nothing queued and nothing popped. -/
theorem always_ordered_iff (supported : Bool) (as : List Action) :
    (machine true supported).Always Ordered (machine true supported).start as ↔
      (machine true supported).StepsMeet DirectWhenIdle (machine true supported).start as := by
  apply Machine.sharp
  · intro s hreach
    exact ordered_of_isPrefix (inOrder_of_directWhenIdle hreach).isPrefix
  · intro s s' a hreach hstep hmiss
    exact not_ordered_of_overtake (wf_of_reachable hreach)
      (inOrder_of_directWhenIdle hreach) hstep hmiss

/-- A double click without a pass of `process_xrdp_events` in between: the
second press reaches the server before the first release. -/
theorem not_always_ordered : ¬ ∀ s, (machine true true).Reachable s → Ordered s := by
  apply Machine.not_always_of_run
    [.call (.mouseDown 5 5 1), .handlerStep, .call (.mouseUp 5 5 1), .handlerStep,
      .call (.mouseDown 5 5 1), .handlerStep]
  refine ⟨_, rfl, fun hordered => ?_⟩
  have halternates := hordered.2 1 .wmLButtonDown .wmLButtonUp rfl rfl
  exact absurd halternates (by decide)

end XrdpLocal.Xup.InputPath
