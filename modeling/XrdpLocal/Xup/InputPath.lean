import XrdpLocal.Library.Delivery
import XrdpLocal.Xup.Events
/-!
# The input path as a two-thread machine

The Qt thread runs one handler at a time; the communicator thread runs passes
of `process_xrdp_events`. A queue push, a queue pop and a `mod_event` call are
one step each, and the two threads interleave in any way.

The machine refines `Delivery`: a push is a push, sending a popped event is a
delivery, and the direct `mod_event` calls of `event_mouse_move` and
`event_mouse_down` are bypasses. The results about losing, duplicating and
reordering input events are read off that refinement.
-/

namespace XrdpLocal.Xup.InputPath

open StateMachine

inductive Drain
  | outside
  | loop
  | send (event : XrdpEvent)
  | request
  deriving DecidableEq

def Drain.popped : Drain → List XrdpEvent
  | .send event => [event]
  | _ => []

/-- The shared members, the rest of the running handler, the communicator's
program point, and the histories: handler calls, events produced, events given
to `mod_event`, and notifications given to `mod_send_dma_buf_notify`. -/
structure State where
  mod : XrdpModState
  handler : List InputOp := []
  drain : Drain := .outside
  calls : List Handler := []
  produced : List XrdpEvent := []
  sent : List XrdpEvent := []
  notified : List DmaBufNotify := []

inductive Action
  | call (h : Handler)
  | handlerStep
  | requestDmaBuf
  | process
  | drainStep

/-- One step of either thread. The Qt thread calls a handler, or
`request_dma_buf`, only when no handler is running. -/
def step (s : State) : Action → Option State
  | .call h =>
      match s.handler with
      | [] => some { s with handler := h.ops, calls := s.calls ++ [h] }
      | _ :: _ => none
  | .handlerStep =>
      match s.handler with
      | [] => none
      | .modEvent event :: rest =>
          -- the direct handlers do not test the pointer they call
          if s.mod.modEvent then
            some { s with
              handler := rest
              produced := s.produced ++ [event]
              sent := s.sent ++ [event] }
          else none
      | .enqueue event :: rest =>
          some { s with
            mod := s.mod.enqueueXrdpEvent event
            handler := rest
            produced := s.produced ++ [event] }
  | .requestDmaBuf =>
      match s.handler with
      | [] => some { s with mod := s.mod.requestDmaBuf }
      | _ :: _ => none
  | .process =>
      match s.drain with
      | .outside => some { s with drain := .loop }
      | _ => none
  | .drainStep =>
      match s.drain with
      | .outside => none
      | .loop =>
          match s.mod.xrdpEvents with
          | [] => some { s with drain := .request }
          | event :: rest =>
              some { s with mod := { s.mod with xrdpEvents := rest }, drain := .send event }
      | .send event =>
          some { s with
            drain := .loop
            sent := if s.mod.modEvent then s.sent ++ [event] else s.sent }
      | .request =>
          if s.mod.doRequestDmaBuf then
            some { s with
              mod := { s.mod with doRequestDmaBuf := false }
              drain := .outside
              notified := s.notified ++ [.requestActivate] }
          else some { s with drain := .outside }

def machine (modEvent supported : Bool) : Machine State Action where
  start := { mod := ⟨modEvent, supported, [], false⟩ }
  step := step

def State.pending (s : State) : List XrdpEvent := s.drain.popped ++ s.mod.xrdpEvents

def State.delivery (s : State) : Delivery XrdpEvent :=
  ⟨s.produced, s.pending, s.sent⟩

/-- What a step does to the running handler, the handler calls and the
histories, when `mod_event` is there. -/
theorem step_cases {s s' : State} {a : Action} (hmod : s.mod.modEvent = true)
    (hstep : step s a = some s') :
    (∃ h, a = .call h ∧ s.handler = [] ∧ s'.handler = h.ops ∧
      s'.calls = s.calls ++ [h] ∧ s'.delivery = s.delivery) ∨
    (∃ event rest, a = .handlerStep ∧ s.handler = .modEvent event :: rest ∧
      s'.handler = rest ∧ s'.calls = s.calls ∧
      s.delivery.step (.bypass event) = some s'.delivery) ∨
    (∃ event rest, a = .handlerStep ∧ s.handler = .enqueue event :: rest ∧
      s'.handler = rest ∧ s'.calls = s.calls ∧
      s.delivery.step (.push event) = some s'.delivery) ∨
    (a ≠ .handlerStep ∧ s'.handler = s.handler ∧ s'.calls = s.calls ∧
      s'.delivery = s.delivery) ∨
    (a = .drainStep ∧ s'.handler = s.handler ∧ s'.calls = s.calls ∧
      s.delivery.step .deliver = some s'.delivery) := by
  cases a with
  | call h =>
      cases hh : s.handler with
      | nil =>
          obtain rfl : _ = s' := by simpa [step, hh] using hstep
          exact .inl ⟨h, rfl, rfl, rfl, rfl, rfl⟩
      | cons op rest => simp [step, hh] at hstep
  | handlerStep =>
      rcases hh : s.handler with _ | ⟨_ | _, rest⟩
      · simp [step, hh] at hstep
      case cons.modEvent event =>
        obtain rfl : _ = s' := by simpa [step, hh, hmod] using hstep
        exact .inr (.inl ⟨event, rest, rfl, rfl, rfl, rfl, rfl⟩)
      case cons.enqueue event =>
        obtain rfl : _ = s' := by simpa [step, hh] using hstep
        refine .inr (.inr (.inl ⟨event, rest, rfl, rfl, rfl, rfl, ?_⟩))
        simp [State.delivery, State.pending, Delivery.step,
          xrdpEvents_enqueueXrdpEvent hmod]
  | requestDmaBuf =>
      cases hh : s.handler with
      | nil =>
          obtain rfl : _ = s' := by simpa [step, hh] using hstep
          refine .inr (.inr (.inr (.inl ⟨by simp, by simp, rfl, ?_⟩)))
          simp [State.delivery, State.pending]
      | cons op rest => simp [step, hh] at hstep
  | process =>
      cases hd : s.drain with
      | outside =>
          obtain rfl : _ = s' := by simpa [step, hd] using hstep
          refine .inr (.inr (.inr (.inl ⟨by simp, rfl, rfl, ?_⟩)))
          simp [State.delivery, State.pending, hd, Drain.popped]
      | loop | send | request => simp [step, hd] at hstep
  | drainStep =>
      refine .inr (.inr (.inr ?_))
      cases hd : s.drain with
      | outside => simp [step, hd] at hstep
      | loop =>
          refine .inl ⟨by simp, ?_⟩
          cases hq : s.mod.xrdpEvents with
          | nil =>
              obtain rfl : _ = s' := by simpa [step, hd, hq] using hstep
              exact ⟨rfl, rfl, by simp [State.delivery, State.pending, hd, Drain.popped]⟩
          | cons event rest =>
              obtain rfl : _ = s' := by simpa [step, hd, hq] using hstep
              exact ⟨rfl, rfl,
                by simp [State.delivery, State.pending, hd, hq, Drain.popped]⟩
      | send event =>
          obtain rfl : _ = s' := by simpa [step, hd, hmod] using hstep
          refine .inr ⟨rfl, rfl, rfl, ?_⟩
          simp [State.delivery, State.pending, hd, Drain.popped, Delivery.step]
      | request =>
          refine .inl ⟨by simp, ?_⟩
          by_cases hreq : s.mod.doRequestDmaBuf
          · obtain rfl : _ = s' := by simpa [step, hd, hreq] using hstep
            exact ⟨rfl, rfl, by simp [State.delivery, State.pending, hd, Drain.popped]⟩
          · obtain rfl : _ = s' := by simpa [step, hd, hreq] using hstep
            exact ⟨rfl, rfl, by simp [State.delivery, State.pending, hd, Drain.popped]⟩

theorem modEvent_step {s s' : State} {a : Action} (hstep : step s a = some s') :
    s'.mod.modEvent = s.mod.modEvent := by
  cases a with
  | call h | requestDmaBuf =>
      cases hh : s.handler <;> simp [step, hh] at hstep
      subst s'
      simp
  | handlerStep =>
      rcases hh : s.handler with _ | ⟨_ | _, rest⟩ <;> simp [step, hh] at hstep
      case cons.modEvent => rw [← hstep.2]
      case cons.enqueue => simp [← hstep]
  | process =>
      cases hd : s.drain <;> simp [step, hd] at hstep
      rw [← hstep]
  | drainStep =>
      cases hd : s.drain <;> simp only [step, hd, reduceCtorEq] at hstep
      case loop => split at hstep <;> cases hstep <;> rfl
      case send => cases hstep; rfl
      case request => split at hstep <;> cases hstep <;> rfl

end XrdpLocal.Xup.InputPath
