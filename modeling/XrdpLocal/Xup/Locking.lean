import XrdpLocal.Library.Machine
import XrdpLocal.Xup.Events
/-!
# Who is inside libxup, and who is inside the queue

The loop of `xup_communicator_thread_func` and the handlers of the Qt thread,
with every call into libxup and every access to `xrdp_events` as an interval
that is entered and left. The loop brackets its part with
`xup_communicator_mutex`; the handlers never touch the mutex.
-/

namespace XrdpLocal.Xup.Locking

open StateMachine

inductive Access
  | libxup
  | queue
  deriving DecidableEq

def access : InputOp → Access
  | .modEvent _ => .libxup
  | .enqueue _ => .queue

/-- Program points of `xup_communicator_thread_func`, of the
`process_xrdp_events` it calls, and of the server callbacks that
`mod_check_wait_objs` calls, as far as these call libxup again. -/
inductive LoopPc
  | testRunning
  | lock
  | callWaitObjs
  | inWaitObjs
  | inCallback
  | unlockClosed
  | exitQt
  | callEmpty
  | inEmpty
  | callFront
  | inFront
  | callPop (event : XrdpEvent)
  | inPop (event : XrdpEvent)
  | callModEvent (event : XrdpEvent)
  | inModEvent
  | testRequest
  | inRequest
  | unlock
  | sleep
  | ended
  deriving DecidableEq

/-- What the communicator thread is inside of. `mod_check_wait_objs` stays
entered while it runs a callback. -/
def LoopPc.inside : LoopPc → Option Access
  | .inWaitObjs | .inCallback | .inModEvent | .inRequest => some .libxup
  | .inEmpty | .inFront | .inPop _ => some .queue
  | _ => none

def LoopPc.locked : LoopPc → Bool
  | .testRunning | .lock | .sleep | .exitQt | .ended => false
  | _ => true

def LoopPc.draining : LoopPc → Bool
  | .callEmpty | .inEmpty | .callFront | .inFront | .callPop _ | .inPop _
  | .callModEvent _ | .inModEvent => true
  | _ => false

/-- `busy` is the effect the Qt thread has entered and not yet left. -/
structure State where
  mod : XrdpModState
  mutexHeld : Bool := false
  running : Bool := true
  handler : List InputOp := []
  busy : Option InputOp := none
  loop : LoopPc := .testRunning

/-- `loop` is the next statement of the communicator thread. The other two
actions of that thread are choices of libxup: to run a callback that calls
libxup, and to return from `mod_check_wait_objs`. -/
inductive Action
  | call (h : Handler)
  | qtEnter
  | qtLeave
  | requestDmaBuf
  | stopRunning
  | loop
  | callback
  | waitObjsReturns (closed : Bool)

def loopStep (s : State) : Option State :=
  match s.loop with
  | .testRunning => some { s with loop := if s.running then .lock else .ended }
  | .lock => if s.mutexHeld then none else some { s with mutexHeld := true, loop := .callWaitObjs }
  | .callWaitObjs => some { s with loop := .inWaitObjs }
  | .inWaitObjs => none
  | .inCallback => some { s with loop := .inWaitObjs }
  | .unlockClosed => some { s with mutexHeld := false, loop := .exitQt }
  | .exitQt => some { s with loop := .ended }
  | .callEmpty => some { s with loop := .inEmpty }
  | .inEmpty =>
      some { s with loop := if s.mod.xrdpEvents.isEmpty then .testRequest else .callFront }
  | .callFront => some { s with loop := .inFront }
  | .inFront =>
      match s.mod.xrdpEvents with
      | [] => none
      | event :: _ => some { s with loop := .callPop event }
  | .callPop event => some { s with loop := .inPop event }
  | .inPop event =>
      some { s with
        mod := { s.mod with xrdpEvents := s.mod.xrdpEvents.tail }
        loop := .callModEvent event }
  | .callModEvent _ => some { s with loop := if s.mod.modEvent then .inModEvent else .callEmpty }
  | .inModEvent => some { s with loop := .callEmpty }
  | .testRequest =>
      if s.mod.doRequestDmaBuf then
        some { s with mod := { s.mod with doRequestDmaBuf := false }, loop := .inRequest }
      else some { s with loop := .unlock }
  | .inRequest => some { s with loop := .unlock }
  | .unlock => some { s with mutexHeld := false, loop := .sleep }
  | .sleep => some { s with loop := .testRunning }
  | .ended => none

/-- The Qt thread enters the next effect of its handler. A queuing handler
returns early when `mod_event` is null; a direct one calls the null pointer,
which ends the run. -/
def qtEnter (s : State) : Option State :=
  match s.busy, s.handler with
  | none, op :: rest =>
      if s.mod.modEvent then some { s with handler := rest, busy := some op }
      else
        match op with
        | .modEvent _ => none
        | .enqueue _ => some { s with handler := rest }
  | _, _ => none

def qtLeave (s : State) : Option State :=
  match s.busy with
  | none => none
  | some (.modEvent _) => some { s with busy := none }
  | some (.enqueue event) => some { s with mod := s.mod.enqueueXrdpEvent event, busy := none }

def step (s : State) : Action → Option State
  | .call h =>
      match s.busy, s.handler with
      | none, [] => some { s with handler := h.ops }
      | _, _ => none
  | .qtEnter => qtEnter s
  | .qtLeave => qtLeave s
  | .requestDmaBuf =>
      match s.busy, s.handler with
      | none, [] => some { s with mod := s.mod.requestDmaBuf }
      | _, _ => none
  | .stopRunning => some { s with running := false }
  | .loop => loopStep s
  | .callback =>
      match s.loop with
      | .inWaitObjs => some { s with loop := .inCallback }
      | _ => none
  | .waitObjsReturns closed =>
      match s.loop with
      | .inWaitObjs => some { s with loop := if closed then .unlockClosed else .callEmpty }
      | _ => none

def machine (modEvent supported : Bool) : Machine State Action where
  start := { mod := ⟨modEvent, supported, [], false⟩ }
  step := step

/-- The threads are never both inside libxup or both inside the queue. -/
def Exclusive (s : State) : Prop :=
  ∀ x, s.loop.inside = some x → s.busy.map access ≠ some x

/-- A move or a known press is sent while the mutex is free, a push happens
outside the loop of `process_xrdp_events`, and the communicator thread neither
locks during such a send nor starts that loop during such a push. -/
def Disciplined (s : State) : Action → Prop
  | .qtEnter =>
      (s.handler.head?.map access = some .libxup → s.mutexHeld = false) ∧
      (s.handler.head?.map access = some .queue → s.loop.draining = false)
  | .loop => s.loop = .lock → s.busy.map access ≠ some .libxup
  | .waitObjsReturns false => s.busy.map access ≠ some .queue
  | _ => True

instance (s : State) (a : Action) : Decidable (Disciplined s a) := by
  unfold Disciplined
  split <;> infer_instance

/-- The mutex is held between `lock` and `unlock`, a direct send happens only
outside that part, and a push only outside the draining loop. -/
structure Separated (s : State) : Prop where
  mutex : s.mutexHeld = s.loop.locked
  send : s.busy.map access = some .libxup → s.loop.locked = false
  push : s.busy.map access = some .queue → s.loop.draining = false

theorem LoopPc.locked_of_inside_libxup {pc : LoopPc} (h : pc.inside = some .libxup) :
    pc.locked = true := by
  cases pc <;> first | rfl | cases h

theorem LoopPc.draining_of_inside_queue {pc : LoopPc} (h : pc.inside = some .queue) :
    pc.draining = true := by
  cases pc <;> first | rfl | cases h

theorem Separated.exclusive {s : State} (h : Separated s) : Exclusive s := by
  intro x hinside hbusy
  cases x with
  | libxup =>
      have hlocked := LoopPc.locked_of_inside_libxup hinside
      rw [h.send hbusy] at hlocked
      exact absurd hlocked (by decide)
  | queue =>
      have hdraining := LoopPc.draining_of_inside_queue hinside
      rw [h.push hbusy] at hdraining
      exact absurd hdraining (by decide)

/-- What a statement of the communicator thread does: take the mutex, release
it, or stay on its side of the mutex without starting the draining loop. -/
theorem loopStep_cases {s s' : State} (hstep : loopStep s = some s') :
    s'.busy = s.busy ∧
    ((s.loop = .lock ∧ s'.loop = .callWaitObjs ∧ s'.mutexHeld = true) ∨
      (s'.mutexHeld = false ∧ s'.loop.locked = false ∧ s'.loop.draining = false) ∨
      (s'.mutexHeld = s.mutexHeld ∧ s'.loop.locked = s.loop.locked ∧
        (s'.loop.draining = true → s.loop.draining = true))) := by
  cases hpc : s.loop <;> simp only [loopStep, hpc, reduceCtorEq] at hstep
  case lock =>
    split at hstep <;> cases hstep
    exact ⟨rfl, .inl ⟨rfl, rfl, rfl⟩⟩
  case unlockClosed | unlock =>
    cases hstep
    exact ⟨rfl, .inr (.inl ⟨rfl, rfl, rfl⟩)⟩
  case testRunning =>
    cases hstep
    refine ⟨rfl, .inr (.inr ⟨rfl, ?_, ?_⟩)⟩ <;> cases s.running <;>
        simp [LoopPc.locked, LoopPc.draining]
  case inEmpty =>
    cases hstep
    refine ⟨rfl, .inr (.inr ⟨rfl, ?_, fun _ => rfl⟩)⟩
    cases s.mod.xrdpEvents <;> rfl
  case inFront =>
    split at hstep <;> cases hstep
    exact ⟨rfl, .inr (.inr ⟨rfl, rfl, fun _ => rfl⟩)⟩
  case callModEvent =>
    cases hstep
    refine ⟨rfl, .inr (.inr ⟨rfl, ?_, fun _ => rfl⟩)⟩
    cases s.mod.modEvent <;> rfl
  case testRequest =>
    split at hstep <;> cases hstep <;>
      exact ⟨rfl, .inr (.inr ⟨rfl, rfl, fun h => h⟩)⟩
  all_goals
    cases hstep
    exact ⟨rfl, .inr (.inr ⟨rfl, rfl, fun h => h⟩)⟩

theorem separated_start (modEvent supported : Bool) :
    Separated (machine modEvent supported).start :=
  ⟨rfl, nofun, nofun⟩

theorem separated_step {s s' : State} {a : Action} (hsep : Separated s)
    (hok : Disciplined s a) (hstep : step s a = some s') : Separated s' := by
  cases a with
  | call h | requestDmaBuf =>
      simp only [step] at hstep
      split at hstep <;> cases hstep
      exact ⟨hsep.mutex, hsep.send, hsep.push⟩
  | stopRunning =>
      cases hstep
      exact ⟨hsep.mutex, hsep.send, hsep.push⟩
  | qtEnter =>
      simp only [step, qtEnter] at hstep
      split at hstep
      case h_2 => cases hstep
      case h_1 op rest hbusy hhandler =>
        simp only [Disciplined, hhandler, List.head?_cons, Option.map_some,
          Option.some.injEq] at hok
        split at hstep
        · cases hstep
          refine ⟨hsep.mutex, fun hsend => ?_, fun hpush => ?_⟩
          · rw [← hsep.mutex]
            exact hok.1 (by simpa using hsend)
          · exact hok.2 (by simpa using hpush)
        · cases op <;> cases hstep
          exact ⟨hsep.mutex, hsep.send, hsep.push⟩
  | qtLeave =>
      simp only [step, qtLeave] at hstep
      split at hstep <;> cases hstep <;> exact ⟨hsep.mutex, nofun, nofun⟩
  | loop =>
      obtain ⟨hbusy, hcases⟩ := loopStep_cases hstep
      rcases hcases with ⟨hlock, hloop, hheld⟩ | ⟨hheld, hlocked, hdraining⟩ |
        ⟨hheld, hlocked, hdraining⟩
      · refine ⟨by rw [hheld, hloop]; rfl, fun hsend => ?_, fun _ => by rw [hloop]; rfl⟩
        rw [hbusy] at hsend
        exact absurd hsend (hok hlock)
      · exact ⟨by rw [hheld, hlocked], fun _ => hlocked, fun _ => hdraining⟩
      · refine ⟨by rw [hheld, hlocked, hsep.mutex], fun hsend => ?_, fun hpush => ?_⟩
        · rw [hlocked]
          exact hsep.send (by rwa [← hbusy])
        · have hnot := hsep.push (by rwa [← hbusy])
          cases hd : s'.loop.draining with
          | false => rfl
          | true => rw [hdraining hd] at hnot; exact hnot
  | callback =>
      simp only [step] at hstep
      split at hstep <;> cases hstep
      rename_i hpc
      refine ⟨by rw [hsep.mutex, hpc]; rfl, fun hsend => ?_, fun _ => rfl⟩
      have hlocked := hsep.send hsend
      rw [hpc] at hlocked
      exact hlocked
  | waitObjsReturns closed =>
      simp only [step] at hstep
      split at hstep <;> cases hstep
      rename_i hpc
      have hsend : s.busy.map access ≠ some .libxup := by
        intro hsend
        have hlocked := hsep.send hsend
        rw [hpc] at hlocked
        cases hlocked
      have hmutex := hsep.mutex
      rw [hpc] at hmutex
      cases closed with
      | true => exact ⟨hmutex, fun h => absurd h hsend, fun _ => rfl⟩
      | false => exact ⟨hmutex, fun h => absurd h hsend, fun h => absurd h hok⟩

/-- In every run whose steps keep the discipline, no two threads are inside
libxup or inside the queue at once. -/
theorem exclusive_of_disciplined (modEvent supported : Bool) {s : State}
    (hreach : (machine modEvent supported).ReachableBy Disciplined s) : Exclusive s := by
  have hsep : Separated s := by
    refine hreach.invariant (I := Separated) (separated_start modEvent supported) ?_
    exact fun _ hsep hok hstep => separated_step hsep hok hstep
  exact hsep.exclusive

/-- A press goes out between two passes, and its release is pushed while
`mod_check_wait_objs` runs. -/
theorem exclusive_press_and_release :
    ∃ s, (machine true true).ReachableBy Disciplined s ∧
      s.loop.inside = some .libxup ∧ s.busy.map access = some .queue ∧ Exclusive s := by
  let actions : List Action :=
    [.call (.mouseDown 1 2 1), .qtEnter, .qtLeave, .loop, .loop, .loop,
      .call (.mouseUp 1 2 1), .qtEnter]
  have hrun : ∃ s, (machine true true).run (machine true true).start actions = some s ∧
      s.loop.inside = some .libxup ∧ s.busy.map access = some .queue :=
    ⟨_, rfl, rfl, rfl⟩
  obtain ⟨s, hrun, hinside, hbusy⟩ := hrun
  have hreach : (machine true true).ReachableBy Disciplined s :=
    Machine.ReachableBy.run .start (by decide) hrun
  exact ⟨s, hreach, hinside, hbusy, exclusive_of_disciplined true true hreach⟩

/-- The mouse moves while the communicator thread is in
`mod_check_wait_objs`: both threads are inside libxup. -/
theorem not_always_exclusive : ¬ ∀ s, (machine true true).Reachable s → Exclusive s := by
  apply Machine.not_always_of_run
    [.loop, .loop, .loop, .call (.mouseMove 10 20), .qtEnter]
  exact ⟨_, rfl, fun hexcl => hexcl .libxup rfl rfl⟩

end XrdpLocal.Xup.Locking
