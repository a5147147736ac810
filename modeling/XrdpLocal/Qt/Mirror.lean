import Mathlib.Data.Rat.Floor
import XrdpLocal.Qt.Input
/-!
# The server mirrors the user

The window turns the events of Qt into handler calls one event at a time, while
the communicator thread drains the queue. In every reachable state the server
has got the messages of some of the user's events, and of the next event a
part. This holds of the queued messages in every interleaving, and of all
messages while the direct calls find the queue empty.
-/

namespace XrdpLocal.Input

open Keys StateMachine
open XrdpLocal.Xup

/-! ## The machine -/

/-- The input path below the window: the handlers that the window has still to
call for the last event, and all events. -/
structure Session (K : Type) where
  path : InputPath.State
  todo : List Handler := []
  events : List (QtEvent K) := []

inductive Action (K : Type)
  | event (event : QtEvent K)
  | call
  | path (action : InputPath.Action)

section Session

variable {K : Type} [Ring K] [LinearOrder K] [FloorRing K]

/-- Qt delivers an event when the window is done with the one before. All calls
of handlers are calls of the window. -/
def Session.step (s : Session K) : Action K → Option (Session K)
  | .event event =>
      match s.todo, s.path.handler with
      | [], [] => some { s with todo := event.handlers, events := s.events ++ [event] }
      | _, _ => none
  | .call =>
      match s.todo with
      | [] => none
      | handler :: todo =>
          (InputPath.step s.path (.call handler)).map fun path =>
            { s with path := path, todo := todo }
  | .path (.call _) => none
  | .path action => (InputPath.step s.path action).map fun path => { s with path := path }

def session (K : Type) [Ring K] [LinearOrder K] [FloorRing K] (supported : Bool) :
    Machine (Session K) (Action K) where
  start := { path := (InputPath.machine true supported).start }
  step := Session.step

/-- Everything that the user has done has reached the server. -/
structure Session.Quiet (s : Session K) : Prop where
  todo : s.todo = []
  handler : s.path.handler = []
  pending : s.path.pending = []

def OnPath (ok : InputPath.State → InputPath.Action → Prop) (s : Session K) : Action K → Prop
  | .path action => ok s.path action
  | _ => True

theorem step_cases {s s' : Session K} {a : Action K} (hstep : s.step a = some s') :
    (∃ event, a = .event event ∧ s.todo = [] ∧ s.path.handler = [] ∧
      s' = { s with todo := event.handlers, events := s.events ++ [event] }) ∨
    (∃ handler todo path, a = .call ∧ s.todo = handler :: todo ∧
      InputPath.step s.path (.call handler) = some path ∧
      s' = { s with path := path, todo := todo }) ∨
    (∃ action path, a = .path action ∧ (∀ handler, action ≠ .call handler) ∧
      InputPath.step s.path action = some path ∧ s' = { s with path := path }) := by
  cases a with
  | event event =>
      cases htodo : s.todo with
      | nil =>
          cases hhandler : s.path.handler with
          | nil =>
              refine .inl ⟨event, rfl, rfl, rfl, ?_⟩
              simpa [Session.step, htodo, hhandler] using hstep.symm
          | cons op rest => simp [Session.step, htodo, hhandler] at hstep
      | cons handler todo => simp [Session.step, htodo] at hstep
  | call =>
      cases htodo : s.todo with
      | nil => simp [Session.step, htodo] at hstep
      | cons handler todo =>
          simp only [Session.step, htodo, Option.map_eq_some_iff] at hstep
          obtain ⟨path, hpath, rfl⟩ := hstep
          exact .inr (.inl ⟨handler, todo, path, rfl, rfl, hpath, rfl⟩)
  | path action =>
      have hother (hne : ∀ handler, action ≠ .call handler)
          (h : (InputPath.step s.path action).map (fun path => { s with path := path }) =
            some s') : ∃ path, InputPath.step s.path action = some path ∧
              s' = { s with path := path } := by
        obtain ⟨path, hpath, rfl⟩ := Option.map_eq_some_iff.mp h
        exact ⟨path, hpath, rfl⟩
      refine .inr (.inr ⟨action, ?_⟩)
      cases action with
      | call handler => simp [Session.step] at hstep
      | handlerStep | requestDmaBuf | process | drainStep =>
          obtain ⟨path, hpath, rfl⟩ := hother (by simp) hstep
          exact ⟨path, rfl, by simp, hpath, rfl⟩

/-! ## Calls -/

theorem calls_of_step {s s' : InputPath.State} {a : InputPath.Action}
    (hmod : s.mod.modEvent = true) (hstep : InputPath.step s a = some s')
    (hne : ∀ handler, a ≠ .call handler) : s'.calls = s.calls := by
  rcases InputPath.step_cases hmod hstep with
    ⟨handler, ha, _⟩ | ⟨_, _, _, _, _, hcalls, _⟩ | ⟨_, _, _, _, _, hcalls, _⟩ |
    ⟨_, _, hcalls, _⟩ | ⟨_, _, hcalls, _⟩
  · exact absurd ha (hne handler)
  all_goals exact hcalls

theorem calls_of_call {s s' : InputPath.State} {handler : Handler}
    (hstep : InputPath.step s (.call handler) = some s') : s'.calls = s.calls ++ [handler] := by
  cases hidle : s.handler with
  | nil =>
      simp only [InputPath.step, hidle, Option.some.injEq] at hstep
      rw [← hstep]
  | cons op rest => simp [InputPath.step, hidle] at hstep

section Runs

variable {supported : Bool} {ok : InputPath.State → InputPath.Action → Prop}
  (hcall : ∀ s handler, ok s (.call handler)) {s : Session K}
  (hreach : (session K supported).ReachableBy (OnPath ok) s)

include hcall hreach

theorem path_of_reachable : (InputPath.machine true supported).ReachableBy ok s.path := by
  induction hreach with
  | start => exact .start
  | step _ hok hstep ih =>
      obtain ⟨_, _, _, _, rfl⟩ | ⟨handler, _, _, _, _, hpath, rfl⟩ | ⟨_, _, rfl, _, hpath, rfl⟩ :=
        step_cases hstep
      · exact ih
      · exact ih.step (hcall _ handler) hpath
      · exact ih.step hok hpath

theorem handlers_of_reachable :
    s.path.calls ++ s.todo = s.events.flatMap QtEvent.handlers := by
  induction hreach with
  | start => rfl
  | @step s s' a hreach hok hstep ih =>
      have hmod := (InputPath.wf_of_reachable (path_of_reachable hcall hreach)).modEvent
      obtain ⟨event, _, htodo, _, rfl⟩ | ⟨handler, todo, path, _, htodo, hpath, rfl⟩ |
        ⟨action, path, rfl, hne, hpath, rfl⟩ := step_cases hstep
      · rw [htodo, List.append_nil] at ih
        rw [List.flatMap_append, ← ih, List.flatMap_singleton]
      · rw [htodo] at ih
        rw [calls_of_call hpath, List.append_assoc]
        exact ih
      · rw [calls_of_step hmod hpath hne]
        exact ih

theorem messages_of_reachable :
    s.path.produced ++ (s.path.handler.map InputOp.event ++ s.todo.flatMap Handler.events) =
      s.events.flatMap QtEvent.messages := by
  have hcalls := (InputPath.wf_of_reachable (path_of_reachable hcall hreach)).calls
  calc s.path.produced ++ (s.path.handler.map InputOp.event ++ s.todo.flatMap Handler.events)
      = s.path.calls.flatMap Handler.events ++ s.todo.flatMap Handler.events := by
        rw [← List.append_assoc, hcalls]
    _ = (s.events.flatMap QtEvent.handlers).flatMap Handler.events := by
        rw [← List.flatMap_append, handlers_of_reachable hcall hreach]
    _ = s.events.flatMap QtEvent.messages := List.flatMap_assoc

end Runs

/-! ## The server -/

def Session.read (p : XrdpEvent → Bool) (s : Session K) : List (Signal (Int × Int) XrdpEvent) :=
  (s.path.sent.filter p).map signal

def userSignals (events : List (QtEvent K)) : List (Signal Int Act) :=
  events.flatMap QtEvent.signals

def userKeys (events : List (QtEvent K)) : Set Int :=
  {key | .down key ∈ userSignals events ∨ .up key ∈ userSignals events}

def userHeld (events : List (QtEvent K)) : Finset (Int × Int) :=
  (held ∅ (userSignals events)).image keyParams

/-- The messages of a class for what the user does with the mouse, each with
the codes of the keys that the user then holds. -/
def userActs (p : XrdpEvent → Bool) (events : List (QtEvent K)) :
    List (Finset (Int × Int) × XrdpEvent) :=
  (observed ∅ (userSignals events)).flatMap fun seen =>
    (seen.2.messages.filter p).map fun message => (seen.1.image keyParams, message)

/-- The server has got the messages of a class for the user's `earlier` events,
and of the event after these at most a part. -/
structure InStep (p : XrdpEvent → Bool) (s : Session K) (earlier : List (QtEvent K)) : Prop where
  past : earlier <+: s.events
  part : ∃ part, s.path.sent.filter p = (earlier.flatMap QtEvent.messages).filter p ++ part ∧
    (part = [] ∨ ∃ next, earlier ++ [next] <+: s.events ∧ part <+: next.messages.filter p)
  /-- The server holds the keys that the user held then. -/
  keys : held ∅ (s.read p) = userHeld earlier
  /-- All acts up to then have reached the server, and whatever has reached it
  did so in order and with the right keys. -/
  done : userActs p earlier <+: observed ∅ (s.read p)
  acts : observed ∅ (s.read p) <+: userActs p s.events
  quiet : s.Quiet → earlier = s.events

section Reading

variable {p : XrdpEvent → Bool} (hp : HasKeys p)

include hp

theorem signal_flatMap (events : List (QtEvent K)) :
    ((events.flatMap QtEvent.messages).filter p).map signal =
      (userSignals events).flatMap (spelled p) := by
  simp only [List.filter_flatMap, List.map_flatMap, signal_messages hp, userSignals,
    List.flatMap_assoc]

/-- The server reads no key in a proper part of an event. -/
theorem signal_part {event : QtEvent K} {part : List XrdpEvent}
    (hpart : part <+: event.messages.filter p) (hne : part ≠ event.messages.filter p) :
    part.map signal = part.map .other := by
  have hmouse (h : event.signals = event.acts.map .other) :
      part.map signal = part.map .other := by
    apply List.map_congr_left
    intro message hmessage
    have hmem := List.mem_of_mem_filter (hpart.subset hmessage)
    rw [messages_of_signals_eq h] at hmem
    obtain ⟨act, _, hact⟩ := List.mem_flatMap.mp hmem
    exact signal_of_ne_key (kind_messages_act act message hact)
  have hkey {message : XrdpEvent} (h : event.messages = [message])
      (hkind : message.msg.kind = .key) : part.map signal = part.map .other := by
    rw [h, List.filter_cons_of_pos (hp _ hkind), List.filter_nil] at hpart hne
    rcases List.prefix_cons_iff.mp hpart with rfl | ⟨rest, rfl, hrest⟩
    · rfl
    · rw [List.prefix_nil.mp hrest] at hne
      exact absurd rfl hne
  cases event with
  | mousePress | mouseRelease | mouseMove | wheel => exact hmouse rfl
  | keyPress code => exact hkey (messages_keyPress code) rfl
  | keyRelease code => exact hkey (messages_keyRelease code) rfl

variable {events : List (QtEvent K)} (hkeys : ¬ (101 ∈ userKeys events ∧ 135 ∈ userKeys events))

include hkeys

/-- What a server knows that has read all messages of the events. -/
theorem reads_events :
    held ∅ (((events.flatMap QtEvent.messages).filter p).map signal) = userHeld events ∧
      observed ∅ (((events.flatMap QtEvent.messages).filter p).map signal) =
        userActs p events := by
  have hinj : Set.InjOn keyParams (userKeys events) := (injOn_keyParams_iff _).mpr hkeys
  have hwithin : ∀ signal ∈ userSignals events, signal.Within (userKeys events) := by
    intro signal hsignal
    cases signal with
    | down key => exact .inl hsignal
    | up key => exact .inr hsignal
    | other act => trivial
  rw [signal_flatMap hp]
  have hstart : ∀ key ∈ (∅ : Finset Int), key ∈ userKeys events := by simp
  exact reads_transcribe (fun act => act.messages.filter p) hinj hstart hwithin

end Reading

theorem userKeys_mono {earlier events : List (QtEvent K)} (h : earlier <+: events) :
    userKeys earlier ⊆ userKeys events := by
  have hsub := (h.flatMap QtEvent.signals).subset
  intro key hkey
  exact hkey.imp (@hsub _) (@hsub _)

theorem inStep_of_inOrder {supported : Bool} {ok : InputPath.State → InputPath.Action → Prop}
    (hcall : ∀ s handler, ok s (.call handler)) {p : XrdpEvent → Bool} (hp : HasKeys p)
    {s : Session K} (hreach : (session K supported).ReachableBy (OnPath ok) s)
    (horder : (s.path.delivery.restrict p).InOrder)
    (hkeys : ¬ (101 ∈ userKeys s.events ∧ 135 ∈ userKeys s.events)) :
    ∃ earlier, InStep p s earlier := by
  have hall := reads_events hp hkeys
  have hmessages := messages_of_reachable hcall hreach
  have hsent : s.path.sent.filter p ++ s.path.pending.filter p = s.path.produced.filter p := horder
  have hgot : s.path.sent.filter p <+: (s.events.flatMap QtEvent.messages).filter p := by
    refine ⟨s.path.pending.filter p ++
      (s.path.handler.map InputOp.event ++ s.todo.flatMap Handler.events).filter p, ?_⟩
    rw [← List.append_assoc, hsent, ← List.filter_append, hmessages]
  have hacts : observed ∅ (s.read p) <+: userActs p s.events := by
    rw [← hall.2]
    exact observed_isPrefix ∅ (hgot.map signal)
  by_cases hwhole : s.path.sent.filter p = (s.events.flatMap QtEvent.messages).filter p
  · refine ⟨s.events, List.prefix_refl _, ?_, ?_, ?_, hacts, fun _ => rfl⟩
    · exact ⟨[], by rw [hwhole, List.append_nil], .inl rfl⟩
    · rw [Session.read, hwhole]
      exact hall.1
    · rw [Session.read, hwhole, hall.2]
  · rw [List.filter_flatMap] at hgot hwhole
    obtain ⟨earlier, next, part, hpast, hpart, hne, heq⟩ :=
      (part_flatMap_cases hgot).resolve_left hwhole
    have hearlier : earlier <+: s.events := (List.prefix_append earlier [next]).trans hpast
    have hkeys' : ¬ (101 ∈ userKeys earlier ∧ 135 ∈ userKeys earlier) := fun h =>
      hkeys ⟨userKeys_mono hearlier h.1, userKeys_mono hearlier h.2⟩
    have hread : s.read p =
        ((earlier.flatMap QtEvent.messages).filter p).map signal ++ part.map .other := by
      rw [Session.read, heq, List.map_append, signal_part hp hpart hne, List.filter_flatMap]
    have hbefore := reads_events hp hkeys'
    refine ⟨earlier, hearlier, ?_, ?_, ?_, hacts, ?_⟩
    · refine ⟨part, ?_, .inr ⟨next, hpast, hpart⟩⟩
      rw [heq, List.filter_flatMap]
    · rw [hread, held_append, held_map_other, hbefore.1]
    · rw [hread, observed_append, hbefore.2]
      exact List.prefix_append _ _
    · intro hquiet
      rw [hquiet.handler, hquiet.todo, List.map_nil, List.flatMap_nil, List.append_nil,
        List.append_nil] at hmessages
      rw [hquiet.pending, List.filter_nil, List.append_nil, hmessages,
        List.filter_flatMap] at hsent
      exact absurd hsent hwhole

theorem queued_of_kind_key {msg : Msg} (h : msg.kind = .key) : msg.queued = true := by
  cases msg <;> simp [Msg.kind] at h <;> rfl

theorem hasKeys_queued : HasKeys fun message => message.msg.queued :=
  fun _ hkind => queued_of_kind_key hkind

theorem onPath_of_reachable {supported : Bool} {s : Session K}
    (hreach : (session K supported).Reachable s) :
    (session K supported).ReachableBy (OnPath fun _ _ => True) s := by
  apply hreach.mono
  intro s a _
  cases a <;> trivial

theorem exists_inStep_queued {supported : Bool} {s : Session K}
    (hreach : (session K supported).Reachable s)
    (hkeys : ¬ (101 ∈ userKeys s.events ∧ 135 ∈ userKeys s.events)) :
    ∃ earlier, InStep (fun message => message.msg.queued) s earlier := by
  have hpath := path_of_reachable (fun _ _ => trivial) (onPath_of_reachable hreach)
  exact inStep_of_inOrder (fun _ _ => trivial) hasKeys_queued (onPath_of_reachable hreach)
    (InputPath.queued_inOrder hpath) hkeys

/-! ## Catching up -/

def drainRank : InputPath.Drain → Nat
  | .outside => 2
  | .loop => 1
  | .send _ => 4
  | .request => 3

/-- An upper bound of the steps to quiet, with all that a step can cause. -/
def Session.rank (s : Session K) : Nat :=
  (s.todo.map fun handler => 5 * handler.ops.length + 1).sum + 5 * s.path.handler.length +
    4 * s.path.mod.xrdpEvents.length + drainRank s.path.drain

def Still (_ : Session K) : Action K → Prop
  | .event _ => False
  | _ => True

theorem length_enqueueXrdpEvent_le (st : XrdpModState) (message : XrdpEvent) :
    (st.enqueueXrdpEvent message).xrdpEvents.length ≤ st.xrdpEvents.length + 1 := by
  unfold XrdpModState.enqueueXrdpEvent
  split
  · simp
  · exact Nat.le_succ _

theorem progress_handler {s : Session K} (hmod : s.path.mod.modEvent = true)
    (hhandler : s.path.handler ≠ []) :
    ∃ a s', Still s a ∧ s.step a = some s' ∧ s'.rank < s.rank := by
  refine ⟨.path .handlerStep, ?_⟩
  cases hops : s.path.handler with
  | nil => exact absurd hops hhandler
  | cons op rest =>
      cases op with
      | modEvent message =>
          refine ⟨_, trivial, by simp [Session.step, InputPath.step, hops, hmod]; rfl, ?_⟩
          simp only [Session.rank, hops, List.length_cons]
          omega
      | enqueue message =>
          have hlen := length_enqueueXrdpEvent_le s.path.mod message
          refine ⟨_, trivial, by simp [Session.step, InputPath.step, hops]; rfl, ?_⟩
          simp only [Session.rank, hops, List.length_cons]
          omega

theorem progress_todo {s : Session K} (hhandler : s.path.handler = []) (htodo : s.todo ≠ []) :
    ∃ a s', Still s a ∧ s.step a = some s' ∧ s'.rank < s.rank := by
  refine ⟨.call, ?_⟩
  cases hcalls : s.todo with
  | nil => exact absurd hcalls htodo
  | cons handler todo =>
      refine ⟨_, trivial, by simp [Session.step, InputPath.step, hcalls, hhandler]; rfl, ?_⟩
      simp only [Session.rank, hcalls, hhandler, List.map_cons, List.sum_cons, List.length_nil]
      omega

theorem progress_pending {s : Session K} (hpending : s.path.pending ≠ []) :
    ∃ a s', Still s a ∧ s.step a = some s' ∧ s'.rank < s.rank := by
  cases hdrain : s.path.drain with
  | outside =>
      refine ⟨.path .process, _, trivial,
        by simp [Session.step, InputPath.step, hdrain]; rfl, ?_⟩
      simp [Session.rank, hdrain, drainRank]
  | loop =>
      cases hqueue : s.path.mod.xrdpEvents with
      | nil => simp [InputPath.State.pending, hdrain, hqueue, InputPath.Drain.popped] at hpending
      | cons message rest =>
          refine ⟨.path .drainStep, _, trivial,
            by simp [Session.step, InputPath.step, hdrain, hqueue]; rfl, ?_⟩
          simp only [Session.rank, hdrain, hqueue, drainRank, List.length_cons]
          omega
  | send message =>
      refine ⟨.path .drainStep, _, trivial,
        by simp [Session.step, InputPath.step, hdrain]; rfl, ?_⟩
      simp [Session.rank, hdrain, drainRank]
  | request =>
      by_cases hrequest : s.path.mod.doRequestDmaBuf
      · refine ⟨.path .drainStep, _, trivial,
          by simp [Session.step, InputPath.step, hdrain, hrequest]; rfl, ?_⟩
        simp [Session.rank, hdrain, drainRank]
      · refine ⟨.path .drainStep, _, trivial,
          by simp [Session.step, InputPath.step, hdrain, hrequest]; rfl, ?_⟩
        simp [Session.rank, hdrain, drainRank]

theorem progress_of_not_quiet {s : Session K} (hmod : s.path.mod.modEvent = true)
    (hquiet : ¬ s.Quiet) : ∃ a s', Still s a ∧ s.step a = some s' ∧ s'.rank < s.rank := by
  by_cases hhandler : s.path.handler = []
  · by_cases htodo : s.todo = []
    · by_cases hpending : s.path.pending = []
      · exact absurd ⟨htodo, hhandler, hpending⟩ hquiet
      · exact progress_pending hpending
    · exact progress_todo hhandler htodo
  · exact progress_handler hmod hhandler

theorem events_of_still {s s' : Session K} {a : Action K} (hstill : Still s a)
    (hstep : s.step a = some s') : s'.events = s.events := by
  obtain ⟨event, rfl, _⟩ | ⟨_, _, _, _, _, _, rfl⟩ | ⟨_, _, _, _, _, rfl⟩ := step_cases hstep
  · exact hstill.elim
  · rfl
  · rfl

theorem quiet_of_reachable {supported : Bool} {s : Session K}
    (hreach : (session K supported).Reachable s) :
    ∃ as t, (session K supported).run s as = some t ∧ t.Quiet ∧ t.events = s.events := by
  have hprogress : ∀ s, (session K supported).Reachable s → ¬ s.Quiet →
      ∃ a s', Still s a ∧ s.step a = some s' ∧ s'.rank < s.rank := by
    intro s hreach hquiet
    have hpath := path_of_reachable (fun _ _ => trivial) (onPath_of_reachable hreach)
    exact progress_of_not_quiet (InputPath.wf_of_reachable hpath).modEvent hquiet
  obtain ⟨as, t, hrun, hmeet, hquiet⟩ :=
    hreach.reaches_of_rank (fun _ _ _ => trivial) Session.rank hprogress
  refine ⟨as, t, hrun, hquiet, ?_⟩
  apply Machine.invariant_of_run (I := fun t => t.events = s.events) _ hrun hmeet rfl
  intro t t' a hevents hstill hstep
  rw [events_of_still hstill hstep, hevents]

/-! ## The results -/

/-- Keys, wheel notches and releases, in any interleaving. When the user stops,
the server can catch up. -/
theorem queued_mirrored {supported : Bool} {s : Session K}
    (hreach : (session K supported).Reachable s)
    (hkeys : ¬ (101 ∈ userKeys s.events ∧ 135 ∈ userKeys s.events)) :
    (∃ earlier, InStep (fun message => message.msg.queued) s earlier) ∧
      ∃ as t, (session K supported).run s as = some t ∧ t.events = s.events ∧
        held ∅ (t.read fun message => message.msg.queued) = userHeld s.events ∧
        observed ∅ (t.read fun message => message.msg.queued) =
          userActs (fun message => message.msg.queued) s.events := by
  refine ⟨exists_inStep_queued hreach hkeys, ?_⟩
  obtain ⟨as, t, hrun, hquiet, hevents⟩ := quiet_of_reachable hreach
  have hreach' : (session K supported).Reachable t :=
    hreach.run (Machine.stepsMeet_true _ _) hrun
  rw [← hevents] at hkeys ⊢
  obtain ⟨earlier, hstep⟩ := exists_inStep_queued hreach' hkeys
  obtain rfl := hstep.quiet hquiet
  exact ⟨as, t, hrun, rfl, hstep.keys, hstep.acts.eq_of_length_le hstep.done.length_le⟩

/-- All messages, while nothing waits when a handler calls `mod_event`. -/
theorem all_inStep {supported : Bool} {s : Session K}
    (hreach : (session K supported).ReachableBy (OnPath InputPath.DirectWhenIdle) s)
    (hkeys : ¬ (101 ∈ userKeys s.events ∧ 135 ∈ userKeys s.events)) :
    ∃ earlier, InStep (fun _ => true) s earlier := by
  have hcall : ∀ s handler, InputPath.DirectWhenIdle s (.call handler) := by
    intro s handler hstep
    cases hstep
  have horder := InputPath.inOrder_of_directWhenIdle (path_of_reachable hcall hreach)
  refine inStep_of_inOrder hcall (fun _ _ => rfl) hreach ?_ hkeys
  simpa [Delivery.InOrder, Delivery.restrict] using horder

end Session

/-- A control key goes down, the wheel turns, and the key goes up; the server
has read the key press and the press of the wheel button. -/
def zoom : List (Action Rat) :=
  [.event (.keyPress 37), .call, .path .handlerStep, .event (.wheel ⟨7 / 2, 9 / 2⟩ ⟨0, 12⟩),
    .call, .path .handlerStep, .path .process, .path .drainStep, .path .drainStep,
    .path .drainStep, .path .handlerStep, .path .drainStep, .event (.keyRelease 37), .call]

theorem userKeys_zoom :
    ¬ 101 ∈ userKeys
      [.keyPress 37, .wheel ⟨7 / 2, 9 / 2⟩ ⟨0, 12⟩, (.keyRelease 37 : QtEvent Rat)] := by
  have hcode : CInt.wrap 37 = 37 := by decide
  simp [userKeys, userSignals, QtEvent.signals, QtEvent.acts, QPoint.notches, hcode]

theorem queued_mirrored_zoom :
    ∃ s, (session Rat true).Reachable s ∧ s.path.sent.length = 2 ∧
      ∃ earlier, InStep (fun message => message.msg.queued) s earlier := by
  have hrun : ∃ s, (session Rat true).run (session Rat true).start zoom = some s ∧
      s.path.sent.length = 2 ∧
      s.events = [.keyPress 37, .wheel ⟨7 / 2, 9 / 2⟩ ⟨0, 12⟩, .keyRelease 37] :=
    ⟨_, rfl, rfl, rfl⟩
  obtain ⟨s, hrun, hsent, hevents⟩ := hrun
  have hkeys : ¬ (101 ∈ userKeys s.events ∧ 135 ∈ userKeys s.events) := by
    rw [hevents]
    exact fun h => userKeys_zoom h.1
  have hreach := Machine.reachable_of_run hrun
  exact ⟨s, hreach, hsent, (queued_mirrored hreach hkeys).1⟩

instance (s : InputPath.State) (a : InputPath.Action) : Decidable (InputPath.DirectWhenIdle s a) :=
  match a with
  | .handlerStep =>
      match h : s.handler with
      | .modEvent message :: rest =>
          decidable_of_iff (s.pending = [])
            ⟨fun hpending _ _ _ _ => hpending, fun hidle => hidle rfl message rest h⟩
      | [] | .enqueue _ :: _ => .isTrue fun _ _ _ h' => by rw [h] at h'; cases h'
  | .call _ | .requestDmaBuf | .process | .drainStep => .isTrue fun ha => by cases ha

instance {K : Type} (s : Session K) (a : Action K) :
    Decidable (OnPath InputPath.DirectWhenIdle s a) :=
  match a with
  | .path action => inferInstanceAs (Decidable (InputPath.DirectWhenIdle s.path action))
  | .event _ | .call => .isTrue trivial

/-- A click with the control key held, after the key has been sent. -/
def controlClick : List (Action Rat) :=
  [.event (.keyPress 37), .call, .path .handlerStep, .path .process, .path .drainStep,
    .path .drainStep, .event (.mousePress ⟨7 / 2, 9 / 2⟩ .left), .call, .path .handlerStep]

theorem directWhenIdle_controlClick :
    (session Rat true).StepsMeet (OnPath InputPath.DirectWhenIdle) (session Rat true).start
      controlClick := by
  decide

theorem all_inStep_controlClick :
    ∃ s, (session Rat true).Reachable s ∧ s.path.sent.length = 2 ∧
      ∃ earlier, InStep (fun _ => true) s earlier := by
  have hrun : ∃ s, (session Rat true).run (session Rat true).start controlClick = some s ∧
      s.path.sent.length = 2 ∧ s.events = [.keyPress 37, .mousePress ⟨7 / 2, 9 / 2⟩ .left] :=
    ⟨_, rfl, rfl, rfl⟩
  obtain ⟨s, hrun, hsent, hevents⟩ := hrun
  have hreach := Machine.ReachableBy.run .start directWhenIdle_controlClick hrun
  have hkeys : ¬ (101 ∈ userKeys s.events ∧ 135 ∈ userKeys s.events) := by
    have hcode : CInt.wrap 37 = 37 := by decide
    simp [hevents, userKeys, userSignals, QtEvent.signals, QtEvent.acts, MouseButton.button?, hcode]
  exact ⟨s, hreach.reachable, hsent, all_inStep hreach hkeys⟩

end XrdpLocal.Input
