import XrdpLocal.Threads.Painting
import XrdpLocal.Threads.Startup
import XrdpLocal.Xup.Libxup
/-!
# The request for DMA-BUF

`launch` requests DMA-BUF through a flag. The main thread sets it, and the
communicator thread tests, clears and sends it after its events, each in a
statement of its own. No interleaving loses the request or sends it twice
(`requests_accounted`). The server answers a request with callbacks that use
the window, and these come late enough for it (`dmaBuf_served`).
-/

namespace XrdpLocal.Threads

open StateMachine XrdpLocal.Qt
open XrdpLocal.Xup (XrdpModState)

variable {cfg : Config}

/-- The statements of `process_xrdp_events` after its loop. -/
inductive RequestPc
  | testRequest
  | clearRequest
  | sendRequest
  | finished
  deriving DecidableEq

/-- The threads with the members for the request. `pass` belongs to the
communicator thread, and `requests` counts the `DMA_BUF_REQUEST_ACTIVATE`
messages that it has sent. -/
structure Session where
  threads : State := {}
  mod : XrdpModState
  pass : RequestPc := .testRequest
  requests : Nat := 0

def State.requestsDmaBuf (s : State) : Action → Bool
  | .main => decide (s.main = .requestDmaBuf)
  | _ => false

def State.leavesPass (s : State) : Action → Bool
  | .comm =>
      match s.comm with
      | .processEvents => true
      | _ => false
  | _ => false

namespace Session

/-- The threads take the step `a` to `threads`. `wanted` is the result of the
test in `launch`, `use_dma_buf && EGLState::is_supported(x11_display())`. -/
def advance (wanted : Bool) (s : Session) (a : Action) (threads : State) : Session :=
  { s with
    threads := threads
    mod := if s.threads.requestsDmaBuf a && wanted then s.mod.requestDmaBuf else s.mod
    pass := if s.threads.leavesPass a then .testRequest else s.pass }

def passNext (s : Session) : Option Session :=
  match s.threads.crashed, s.threads.comm with
  | none, .processEvents =>
      match s.pass with
      | .testRequest =>
          some { s with pass := if s.mod.doRequestDmaBuf then .clearRequest else .finished }
      | .clearRequest =>
          some { s with
            mod := { s.mod with doRequestDmaBuf := false }
            pass := .sendRequest }
      | .sendRequest => some { s with pass := .finished, requests := s.requests + 1 }
      | .finished => none
  | _, _ => none

end Session

inductive SessionAction
  | thread (a : Action)
  | pass

def sessionStep (cfg : Config) (wanted : Bool) (s : Session) : SessionAction → Option Session
  | .thread a =>
      if s.threads.leavesPass a ∧ s.pass ≠ .finished then none
      else (step cfg s.threads a).map (s.advance wanted a)
  | .pass => s.passNext

/-- `supported` says that libxup passed the check for DMA-BUF. -/
def sessionMachine (cfg : Config) (wanted supported : Bool) : Machine Session SessionAction where
  start := { mod := { modEvent := true, dmaBufSupportedInLibxup := supported } }
  step := sessionStep cfg wanted

/-! ## What one step can do -/

section Steps

variable {wanted : Bool} {s s' : Session}

theorem thread_cases {a : Action} (hstep : sessionStep cfg wanted s (.thread a) = some s') :
    (s.threads.leavesPass a = true → s.pass = .finished) ∧
      ∃ threads, step cfg s.threads a = some threads ∧ s' = s.advance wanted a threads := by
  rw [sessionStep] at hstep
  split at hstep
  · cases hstep
  · next hfree =>
      obtain ⟨threads, hthreads, rfl⟩ := Option.map_eq_some_iff.mp hstep
      refine ⟨fun hleaves => ?_, threads, hthreads, rfl⟩
      by_contra hbusy
      exact hfree ⟨hleaves, hbusy⟩

theorem pass_cases (hstep : s.passNext = some s') :
    (s.pass = .testRequest ∧
      s' = { s with pass := if s.mod.doRequestDmaBuf then .clearRequest else .finished }) ∨
    (s.pass = .clearRequest ∧
      s' = { s with mod := { s.mod with doRequestDmaBuf := false }, pass := .sendRequest }) ∨
    (s.pass = .sendRequest ∧ s' = { s with pass := .finished, requests := s.requests + 1 }) := by
  rw [Session.passNext] at hstep
  split at hstep
  · split at hstep
    · next hpass => exact .inl ⟨hpass, (Option.some.inj hstep).symm⟩
    · next hpass => exact .inr (.inl ⟨hpass, (Option.some.inj hstep).symm⟩)
    · next hpass => exact .inr (.inr ⟨hpass, (Option.some.inj hstep).symm⟩)
    · cases hstep
  · cases hstep

theorem threads_of_pass (hstep : s.passNext = some s') : s'.threads = s.threads := by
  rcases pass_cases hstep with ⟨_, rfl⟩ | ⟨_, rfl⟩ | ⟨_, rfl⟩ <;> rfl

theorem requests_mono {action : SessionAction}
    (hstep : sessionStep cfg wanted s action = some s') : s.requests ≤ s'.requests := by
  cases action with
  | thread a =>
      obtain ⟨_, threads, _, rfl⟩ := thread_cases hstep
      exact Nat.le_refl _
  | pass =>
      rcases pass_cases hstep with ⟨_, rfl⟩ | ⟨_, rfl⟩ | ⟨_, rfl⟩
      · exact Nat.le_refl _
      · exact Nat.le_refl _
      · exact Nat.le_succ _

/-- With nothing queued, three statements or one are the pass of
`process_xrdp_events` as a whole. -/
theorem run_request (supported : Bool) (notify : UInt64) (hcrashed : s.threads.crashed = none)
    (hcomm : s.threads.comm = .processEvents) (hpass : s.pass = .testRequest)
    (hqueue : s.mod.xrdpEvents = []) :
    ∃ n, (sessionMachine cfg wanted supported).run s (List.replicate n .pass) = some
      { s with
        mod := (s.mod.processXrdpEvents notify).2
        pass := .finished
        requests := s.requests + (s.mod.processXrdpEvents notify).1.length } := by
  obtain ⟨threads, ⟨modEvent, supportedInLibxup, events, flag⟩, pass, requests⟩ := s
  obtain rfl : events = [] := hqueue
  obtain rfl : pass = .testRequest := hpass
  have hcrashed' : threads.crashed = none := hcrashed
  have hcomm' : threads.comm = .processEvents := hcomm
  cases flag with
  | false =>
      refine ⟨1, ?_⟩
      simp [sessionMachine, sessionStep, Session.passNext, hcrashed', hcomm',
        XrdpModState.processXrdpEvents, Xup.sendXrdpEvents]
  | true =>
      refine ⟨3, ?_⟩
      simp [sessionMachine, sessionStep, Session.passNext, hcrashed', hcomm',
        XrdpModState.processXrdpEvents, Xup.sendXrdpEvents, List.replicate]

end Steps

theorem main_of_commEffect {s s' : State} (heffect : CommEffect cfg s s') : s'.main = s.main := by
  cases heffect <;> rfl

/-- Only the last statement of `launch` gets the main thread past it. -/
theorem after_requestDmaBuf_step {s s' : State} {a : Action} (hstarted : Started s)
    (hstep : step cfg s a = some s') :
    s'.main.after .requestDmaBuf ↔ s.main.after .requestDmaBuf ∨ s.requestsDmaBuf a = true := by
  have hsame : s'.main.stage = s.main.stage → s.requestsDmaBuf a = false →
      (s'.main.after .requestDmaBuf ↔
        s.main.after .requestDmaBuf ∨ s.requestsDmaBuf a = true) := by
    intro hstage hrequests
    simp [MainPc.after, hstage, hrequests]
  cases step_effect hstarted hstep with
  | main _ heffect =>
      cases heffect with
      | drew n drawn hmain hdrawn =>
          exact hsame (stage_drawSlot hmain drawn) (by simp [State.requestsDmaBuf, hmain])
      | signalled n hmain =>
          exact hsame (stage_signalSlot hmain) (by simp [State.requestsDmaBuf, hmain])
      | dropped hmain => simp [hmain, MainPc.after, MainPc.stage]
      | advanced main comm qt connected latch quit running hslot hslot' hloop hstage hlive hcomm
          hpixels =>
          have hrequests : s.requestsDmaBuf .main = true ↔ s.main.stage = 5 := by
            cases hmain : s.main <;> simp [State.requestsDmaBuf, MainPc.stage, hmain]
          rw [hrequests]
          show 5 < main.stage ↔ 5 < s.main.stage ∨ s.main.stage = 5
          omega
  | runSlot n rest hmain hposted => exact hsame (by rw [hmain]; rfl) rfl
  | drawThrows n drawn hmain => exact hsame (stage_drawSlot hmain drawn) rfl
  | leaveLoop hmain => simp [hmain, MainPc.after, MainPc.stage]
  | comm _ heffect => exact hsame (by rw [main_of_commEffect heffect]) rfl
  | dispatch c hcomm => exact hsame rfl rfl
  | returned closed hcomm => exact hsame rfl rfl

/-! ## Every request is sent once -/

def Session.unsent (s : Session) : Bool :=
  s.mod.doRequestDmaBuf || decide (s.pass = .sendRequest)

/-- The communicator thread runs no more. -/
def Session.over (s : Session) : Bool :=
  s.threads.crashed.isSome ||
    match s.threads.comm with
    | .ended _ => true
    | _ => false

def Session.pending (s : Session) : Bool := s.unsent && !s.over

/-- The communicator thread has ended without sending the request. -/
def Session.abandoned (s : Session) : Bool := s.unsent && s.over

def Session.requested (wanted : Bool) (s : Session) : Bool :=
  decide (s.threads.main.after .requestDmaBuf) && wanted && s.mod.dmaBufSupportedInLibxup

/-- Every request is sent or still to be sent, and none is sent twice. -/
structure SentOrUnsent (wanted : Bool) (s : Session) : Prop where
  total : s.requests + s.unsent.toNat = (s.requested wanted).toNat
  clear : s.pass = .clearRequest → s.mod.doRequestDmaBuf = true
  send : s.pass = .sendRequest → s.mod.doRequestDmaBuf = false

section Accounting

variable {wanted supported : Bool} {s s' : Session}

theorem sentOrUnsent_pass (h : SentOrUnsent wanted s) (hstep : s.passNext = some s') :
    SentOrUnsent wanted s' := by
  obtain ⟨htotal, hclear, hsend⟩ := h
  rcases pass_cases hstep with ⟨hpass, rfl⟩ | ⟨hpass, rfl⟩ | ⟨hpass, rfl⟩
  · refine ⟨?_, ?_, ?_⟩
    · cases hflag : s.mod.doRequestDmaBuf <;>
        simpa [Session.unsent, Session.requested, hflag, hpass] using htotal
    · cases hflag : s.mod.doRequestDmaBuf <;> simp
    · cases hflag : s.mod.doRequestDmaBuf <;> simp
  · refine ⟨?_, by simp, fun _ => rfl⟩
    simpa [Session.unsent, Session.requested, hclear hpass] using htotal
  · refine ⟨?_, by simp, by simp⟩
    simpa [Session.unsent, Session.requested, hpass, hsend hpass] using htotal

@[simp] theorem dmaBufSupported_requestDmaBuf (mod : XrdpModState) :
    mod.requestDmaBuf.dmaBufSupportedInLibxup = mod.dmaBufSupportedInLibxup := by
  unfold XrdpModState.requestDmaBuf
  split <;> rfl

@[simp] theorem dmaBufSupported_advance (a : Action) (threads : State) :
    (s.advance wanted a threads).mod.dmaBufSupportedInLibxup = s.mod.dmaBufSupportedInLibxup := by
  unfold Session.advance
  split <;> simp

theorem pass_advance {a : Action} (hfree : s.threads.leavesPass a = true → s.pass = .finished)
    (threads : State) {pc : RequestPc} (hpc : pc = .clearRequest ∨ pc = .sendRequest) :
    (s.advance wanted a threads).pass = pc ↔ s.pass = pc := by
  simp only [Session.advance]
  split
  · next hleaves =>
      rw [hfree hleaves]
      rcases hpc with rfl | rfl <;> simp
  · exact Iff.rfl

theorem idle_of_not_after (h : SentOrUnsent wanted s)
    (hbefore : ¬ s.threads.main.after .requestDmaBuf) :
    s.requests = 0 ∧ s.mod.doRequestDmaBuf = false ∧ s.pass ≠ .clearRequest ∧
      s.pass ≠ .sendRequest := by
  have hnone : s.requests + s.unsent.toNat = 0 := by
    rw [h.total]
    simp [Session.requested, hbefore]
  have hidle : s.requests = 0 ∧ s.mod.doRequestDmaBuf = false ∧ s.pass ≠ .sendRequest := by
    simpa [Session.unsent, Nat.add_eq_zero_iff, Bool.toNat_eq_zero] using hnone
  obtain ⟨hzero, hflag, hnotSending⟩ := hidle
  refine ⟨hzero, hflag, fun hpass => ?_, hnotSending⟩
  rw [h.clear hpass] at hflag
  cases hflag

section Advance

variable {a : Action} {threads : State}
  (hfree : s.threads.leavesPass a = true → s.pass = .finished)

include hfree

theorem sentOrUnsent_other (h : SentOrUnsent wanted s)
    (hrequests : s.threads.requestsDmaBuf a = false)
    (hafter : threads.main.after .requestDmaBuf ↔ s.threads.main.after .requestDmaBuf) :
    SentOrUnsent wanted (s.advance wanted a threads) := by
  have hmod : (s.advance wanted a threads).mod = s.mod := by
    simp [Session.advance, hrequests]
  have hsending : (s.advance wanted a threads).pass = .sendRequest ↔ s.pass = .sendRequest :=
    pass_advance hfree threads (.inr rfl)
  refine ⟨?_, ?_, ?_⟩
  · have hunsent : (s.advance wanted a threads).unsent = s.unsent := by
      simp only [Session.unsent, hmod, hsending]
    have hrequested : (s.advance wanted a threads).requested wanted = s.requested wanted := by
      simp only [Session.requested, hmod]
      simp only [Session.advance, hafter]
    rw [hunsent, hrequested]
    exact h.total
  · rw [pass_advance hfree threads (.inl rfl), hmod]
    exact h.clear
  · rw [hsending, hmod]
    exact h.send

theorem sentOrUnsent_request (h : SentOrUnsent wanted s)
    (hrequests : s.threads.requestsDmaBuf a = true)
    (hbefore : ¬ s.threads.main.after .requestDmaBuf)
    (hafter : threads.main.after .requestDmaBuf) :
    SentOrUnsent wanted (s.advance wanted a threads) := by
  obtain ⟨hzero, hflag, hnotClearing, hnotSending⟩ := idle_of_not_after h hbefore
  have hclearing : (s.advance wanted a threads).pass ≠ .clearRequest := by
    rwa [Ne, pass_advance hfree threads (.inl rfl)]
  have hsending : (s.advance wanted a threads).pass ≠ .sendRequest := by
    rwa [Ne, pass_advance hfree threads (.inr rfl)]
  have hmod : (s.advance wanted a threads).mod.doRequestDmaBuf =
      (wanted && s.mod.dmaBufSupportedInLibxup) := by
    cases wanted <;>
      simp [Session.advance, hrequests, XrdpModState.requestDmaBuf, apply_ite, hflag]
  have hunsent : (s.advance wanted a threads).unsent =
      (wanted && s.mod.dmaBufSupportedInLibxup) := by
    simp [Session.unsent, hmod, hsending]
  have hrequested : (s.advance wanted a threads).requested wanted =
      (wanted && s.mod.dmaBufSupportedInLibxup) := by
    rw [Session.requested, dmaBufSupported_advance]
    simp [Session.advance, hafter]
  refine ⟨?_, fun hpass => absurd hpass hclearing, fun hpass => absurd hpass hsending⟩
  rw [hunsent, hrequested]
  show s.requests + _ = _
  rw [hzero, Nat.zero_add]

end Advance

theorem sentOrUnsent_thread (h : SentOrUnsent wanted s) (hstarted : Started s.threads)
    {a : Action} (hstep : sessionStep cfg wanted s (.thread a) = some s') :
    SentOrUnsent wanted s' := by
  obtain ⟨hfree, threads, hthreads, rfl⟩ := thread_cases hstep
  have hafter := after_requestDmaBuf_step hstarted hthreads
  cases hrequests : s.threads.requestsDmaBuf a with
  | false => exact sentOrUnsent_other hfree h hrequests (by simp [hafter, hrequests])
  | true =>
      have hbefore : ¬ s.threads.main.after .requestDmaBuf := by
        cases a <;> simp [State.requestsDmaBuf] at hrequests
        rw [hrequests]
        decide
      exact sentOrUnsent_request hfree h hrequests hbefore (hafter.mpr (.inr hrequests))

theorem started_of_session {ok : Session → SessionAction → Prop}
    (hreach : (sessionMachine cfg wanted supported).ReachableBy ok s) : Started s.threads := by
  have hstart : (machine cfg).Reachable {} := .start
  refine hreach.invariant (I := fun s => Started s.threads) ?_ ?_
  · exact started_of_reachable hstart
  · intro t t' action _ hstarted _ hstep
    cases action with
    | thread a =>
        obtain ⟨_, threads, hthreads, rfl⟩ := thread_cases hstep
        exact started_step hstarted hthreads
    | pass =>
        rw [threads_of_pass hstep]
        exact hstarted

theorem sentOrUnsent_of_reachable (hreach : (sessionMachine cfg wanted supported).Reachable s) :
    SentOrUnsent wanted s := by
  refine hreach.invariant (I := SentOrUnsent wanted) ?_ ?_
  · exact ⟨rfl, by simp [sessionMachine], by simp [sessionMachine]⟩
  · intro t t' action hreach' h _ hstep
    cases action with
    | thread a => exact sentOrUnsent_thread h (started_of_session hreach') hstep
    | pass => exact sentOrUnsent_pass h hstep

theorem supported_of_reachable (hreach : (sessionMachine cfg wanted supported).Reachable s) :
    s.mod.dmaBufSupportedInLibxup = supported := by
  refine hreach.invariant (I := fun s => s.mod.dmaBufSupportedInLibxup = supported) rfl ?_
  intro t t' action _ h _ hstep
  cases action with
  | thread a =>
      obtain ⟨_, threads, _, rfl⟩ := thread_cases hstep
      rw [dmaBufSupported_advance]
      exact h
  | pass => rcases pass_cases hstep with ⟨_, rfl⟩ | ⟨_, rfl⟩ | ⟨_, rfl⟩ <;> exact h

/-! ### A pass -/

def StaysInPass (s : Session) : SessionAction → Prop
  | .thread a => s.threads.leavesPass a = false
  | .pass => True

instance (s : Session) (action : SessionAction) : Decidable (StaysInPass s action) :=
  match action with
  | .thread _ => inferInstanceAs (Decidable (_ = _))
  | .pass => .isTrue trivial

/-- The input events are modelled elsewhere. -/
theorem xrdpEvents_of_reachable (hreach : (sessionMachine cfg wanted supported).Reachable s) :
    s.mod.xrdpEvents = [] := by
  refine hreach.invariant (I := fun s => s.mod.xrdpEvents = []) rfl ?_
  intro t t' action _ h _ hstep
  cases action with
  | thread a =>
      obtain ⟨_, threads, _, rfl⟩ := thread_cases hstep
      simp only [Session.advance, XrdpModState.requestDmaBuf]
      split
      · split <;> exact h
      · exact h
  | pass => rcases pass_cases hstep with ⟨_, rfl⟩ | ⟨_, rfl⟩ | ⟨_, rfl⟩ <;> exact h

theorem requested_step {action : SessionAction} (hstarted : Started s.threads)
    (hrequested : s.requested wanted = true)
    (hstep : sessionStep cfg wanted s action = some s') : s'.requested wanted = true := by
  cases action with
  | pass =>
      rcases pass_cases hstep with ⟨_, rfl⟩ | ⟨_, rfl⟩ | ⟨_, rfl⟩ <;> exact hrequested
  | thread a =>
      obtain ⟨_, threads, hthreads, rfl⟩ := thread_cases hstep
      simp only [Session.requested, Bool.and_eq_true, decide_eq_true_eq] at hrequested
      have hafter : threads.main.after .requestDmaBuf :=
        (after_requestDmaBuf_step hstarted hthreads).mpr (.inl hrequested.1.1)
      rw [Session.requested, dmaBufSupported_advance, hrequested.1.2, hrequested.2]
      simp [Session.advance, hafter]

/-- Within a pass that began once there was a request, the test cannot miss it. -/
theorem sent_step {action : SessionAction} (h : SentOrUnsent wanted s)
    (hrequested : s.requested wanted = true) (hsent : s.pass = .finished → s.requests = 1)
    (hstays : StaysInPass s action) (hstep : sessionStep cfg wanted s action = some s') :
    s'.pass = .finished → s'.requests = 1 := by
  have htotal := h.total
  rw [hrequested, Bool.toNat_true] at htotal
  cases action with
  | thread a =>
      obtain ⟨_, threads, _, rfl⟩ := thread_cases hstep
      have hleaves : s.threads.leavesPass a = false := hstays
      simpa [Session.advance, hleaves] using hsent
  | pass =>
      rcases pass_cases hstep with ⟨hpass, rfl⟩ | ⟨hpass, rfl⟩ | ⟨hpass, rfl⟩
      · intro hfinished
        cases hflag : s.mod.doRequestDmaBuf with
        | true => simp [hflag] at hfinished
        | false => simpa [Session.unsent, hflag, hpass] using htotal
      · intro hfinished
        cases hfinished
      · intro _
        have hzero : s.requests = 0 := by
          simpa [Session.unsent, hpass] using htotal
        show s.requests + 1 = 1
        rw [hzero]

theorem requests_of_run {actions : List SessionAction}
    (hreach : (sessionMachine cfg wanted supported).Reachable s)
    (hrequested : s.requested wanted = true) (hpass : s.pass = .testRequest)
    (hrun : (sessionMachine cfg wanted supported).run s actions = some s')
    (hmeet : (sessionMachine cfg wanted supported).StepsMeet StaysInPass s actions) :
    s'.pass = .finished → s'.requests = 1 := by
  have hstep : ∀ {t t' : Session} {action : SessionAction},
      ((sessionMachine cfg wanted supported).Reachable t ∧ t.requested wanted = true ∧
        (t.pass = .finished → t.requests = 1)) → StaysInPass t action →
      (sessionMachine cfg wanted supported).step t action = some t' →
      (sessionMachine cfg wanted supported).Reachable t' ∧ t'.requested wanted = true ∧
        (t'.pass = .finished → t'.requests = 1) := by
    rintro t t' action ⟨hreach', hrequested', hsent⟩ hstays hstep
    refine ⟨hreach'.step trivial hstep, ?_, ?_⟩
    · exact requested_step (started_of_session hreach') hrequested' hstep
    · exact sent_step (sentOrUnsent_of_reachable hreach') hrequested' hsent hstays hstep
  have hstart : s.pass = .finished → s.requests = 1 := by
    intro hfinished
    rw [hpass] at hfinished
    cases hfinished
  exact (Machine.invariant_of_run hstep hrun hmeet ⟨hreach, hrequested, hstart⟩).2.2

theorem run_pass_finishes (hcrashed : s.threads.crashed = none)
    (hcomm : s.threads.comm = .processEvents) :
    ∃ n t, (sessionMachine cfg wanted supported).run s (List.replicate n .pass) = some t ∧
      t.pass = .finished := by
  obtain ⟨threads, mod, pass, requests⟩ := s
  have hcrashed' : threads.crashed = none := hcrashed
  have hcomm' : threads.comm = .processEvents := hcomm
  cases pass with
  | testRequest =>
      cases hflag : mod.doRequestDmaBuf with
      | false =>
          refine ⟨1, ?_⟩
          simp [sessionMachine, sessionStep, Session.passNext, hcrashed', hcomm', hflag]
      | true =>
          refine ⟨3, ?_⟩
          simp [sessionMachine, sessionStep, Session.passNext, hcrashed', hcomm', hflag,
            List.replicate]
  | clearRequest =>
      refine ⟨2, ?_⟩
      simp [sessionMachine, sessionStep, Session.passNext, hcrashed', hcomm', List.replicate]
  | sendRequest =>
      refine ⟨1, ?_⟩
      simp [sessionMachine, sessionStep, Session.passNext, hcrashed', hcomm']
  | finished => exact ⟨0, _, rfl, rfl⟩

/-- The request is sent, on its way or abandoned at the end, and counted once.
A pass that starts after the request has sent it when it is finished, whatever
the main thread does meanwhile. It can be finished at any time, and left alone
does what `process_xrdp_events` does. -/
structure RequestsAccounted (cfg : Config) (wanted supported : Bool) (s : Session) : Prop where
  total : s.requests + s.pending.toNat + s.abandoned.toNat =
    (decide (s.threads.main.after .requestDmaBuf) && wanted && supported).toNat
  sent : s.threads.main.after .requestDmaBuf → wanted = true → supported = true →
    s.pass = .testRequest → ∀ actions t,
    (sessionMachine cfg wanted supported).run s actions = some t →
    (sessionMachine cfg wanted supported).StepsMeet StaysInPass s actions →
    t.pass = .finished → t.requests = 1
  finishes : s.threads.crashed = none → s.threads.comm = .processEvents →
    ∃ n t, (sessionMachine cfg wanted supported).run s (List.replicate n .pass) = some t ∧
      t.pass = .finished
  alone : s.threads.crashed = none → s.threads.comm = .processEvents → s.pass = .testRequest →
    ∀ notify, ∃ n, (sessionMachine cfg wanted supported).run s (List.replicate n .pass) = some
      { s with
        mod := (s.mod.processXrdpEvents notify).2
        pass := .finished
        requests := s.requests + (s.mod.processXrdpEvents notify).1.length }

/-- Whatever the threads and the server do, the request of `launch` gets to the
server with the next pass, and the server gets no second one. -/
theorem requests_accounted (hreach : (sessionMachine cfg wanted supported).Reachable s) :
    RequestsAccounted cfg wanted supported s := by
  have htotal := (sentOrUnsent_of_reachable hreach).total
  have hsupported := supported_of_reachable hreach
  refine ⟨?_, fun hafter hwanted hlibxup hpass actions t hrun hmeet => ?_, run_pass_finishes,
    fun hcrashed hcomm hpass notify => ?_⟩
  · rw [Session.requested, hsupported] at htotal
    rw [← htotal, Session.pending, Session.abandoned, Nat.add_assoc]
    cases s.unsent <;> cases s.over <;> rfl
  · refine requests_of_run hreach ?_ hpass hrun hmeet
    rw [Session.requested, hsupported, hwanted, hlibxup]
    simp [hafter]
  · exact run_request supported notify hcrashed hcomm hpass (xrdpEvents_of_reachable hreach)

end Accounting

/-- The communicator thread starts a pass, `launch` ends, and the pass goes on. -/
def requestedOnce : List SessionAction :=
  [.thread .main, .thread .comm, .thread .main, .thread .main, .thread .main,
    .thread (.checkWaitObjsReturns false), .thread .main, .thread .main, .pass, .pass, .pass]

theorem requests_accounted_requestedOnce :
    ∃ s, (sessionMachine ⟨copyPixels, ⟨1, 1, fun _ _ => 0⟩⟩ true true).run
        { mod := { modEvent := true, dmaBufSupportedInLibxup := true } } requestedOnce = some s ∧
      s.requests = 1 := by
  have hexec : ∃ s t, (sessionMachine ⟨copyPixels, ⟨1, 1, fun _ _ => 0⟩⟩ true true).run
        { mod := { modEvent := true, dmaBufSupportedInLibxup := true } }
        (requestedOnce.take 8) = some s ∧
      (sessionMachine ⟨copyPixels, ⟨1, 1, fun _ _ => 0⟩⟩ true true).run s
        [.pass, .pass, .pass] = some t ∧
      s.threads.main = .callExec ∧ s.pass = .testRequest ∧ t.pass = .finished :=
    ⟨_, _, rfl, rfl, rfl, rfl, rfl⟩
  obtain ⟨s, t, hlaunched, hpasses, hmain, hpass, hfinished⟩ := hexec
  have haccounted := requests_accounted (Machine.reachable_of_run hlaunched)
  have hafter : s.threads.main.after .requestDmaBuf := by
    rw [hmain]
    decide
  refine ⟨t, ?_, ?_⟩
  · rw [show requestedOnce = requestedOnce.take 8 ++ [.pass, .pass, .pass] from rfl,
      Machine.run_append, hlaunched]
    exact hpasses
  · refine haccounted.sent hafter rfl rfl hpass _ t hpasses ?_ hfinished
    exact fun _ _ => ⟨trivial, fun _ _ => ⟨trivial, fun _ _ => ⟨trivial, trivial⟩⟩⟩

/-! ## The answers find the window -/

def Callback.usesDmaBuf : Callback → Bool
  | .receivePixmapFd _ _ | .deactivate | .paintPixmap => true
  | _ => false

def CommPc.handlesDmaBuf : CommPc → Bool
  | .testWindow _ _ | .constructEgl _ _ | .disablePaint | .sendNotify _ | .clearEgl | .enablePaint
  | .renderEgl => true
  | _ => false

/-- No `EGLState`, and updates of the window as they were. -/
structure PaintsOrdinarily (qt : QtState) : Prop where
  egl : qt.egl = none
  updates : ∀ window ∈ qt.window, window.updatesEnabled = true

section Threads

variable {s s' : State}

theorem handlesDmaBuf_entry (n : Nat) (c : Callback) :
    (c.entry n).handlesDmaBuf = c.usesDmaBuf := by
  cases c <;> rfl

theorem handlesDmaBuf_of_next {pc pc' : CommPc} (hnext : pc' ∈ pc.next)
    (hhandles : pc'.handlesDmaBuf = true) : pc.handlesDmaBuf = true := by
  cases pc <;> simp only [CommPc.next, List.mem_cons, List.not_mem_nil, or_false] at hnext
  case testRunning => rcases hnext with rfl | rfl <;> cases hhandles
  all_goals
    first
    | rfl
    | subst hnext
      cases hhandles

theorem handlesDmaBuf_commEffect (heffect : CommEffect cfg s s')
    (hhandles : s'.comm.handlesDmaBuf = true) : s.comm.handlesDmaBuf = true := by
  cases heffect with
  | fault fault huse => exact hhandles
  | moved comm qt hnext hpixels hlive hwindow => exact handlesDmaBuf_of_next hnext hhandles
  | _ => cases hhandles

theorem handlesDmaBuf_step {a : Action} (hstarted : Started s) (hstep : step cfg s a = some s')
    (hhandles : s'.comm.handlesDmaBuf = true) :
    s.comm.handlesDmaBuf = true ∨ ∃ c, a = .dispatch c ∧ c.usesDmaBuf = true := by
  cases step_effect hstarted hstep with
  | main _ heffect =>
      rcases comm_of_mainEffect heffect with hcomm | ⟨_, hcomm⟩
      · rw [hcomm] at hhandles
        exact .inl hhandles
      · rw [hcomm] at hhandles
        cases hhandles
  | runSlot n rest hmain hposted => exact .inl hhandles
  | drawThrows n drawn hmain =>
      refine .inl ?_
      rwa [← comm_drawSlot cfg s n drawn]
  | leaveLoop hmain => exact .inl hhandles
  | comm _ heffect => exact .inl (handlesDmaBuf_commEffect heffect hhandles)
  | dispatch c hcomm => exact .inr ⟨c, rfl, by rwa [handlesDmaBuf_entry] at hhandles⟩
  | returned closed hcomm => cases closed <;> cases hhandles

theorem qt_commStep (hidle : s.comm.handlesDmaBuf = false) (hstep : s.commStep cfg = some s') :
    s'.qt = s.qt := by
  rcases commStep_cases hstep with ⟨object, _, _, rfl⟩ | ⟨_, hnext⟩
  · rfl
  cases hcomm : s.comm <;> rw [hcomm] at hidle <;>
    simp only [State.commNext, hcomm, Option.some.injEq, reduceCtorEq] at hnext
  case setCursor =>
    cases hwindow : s.qt.window <;> simp only [hwindow, Option.some.injEq] at hnext <;>
      rw [← hnext]
    rfl
  case waitReady n p =>
    rw [← Option.some.inj (Option.ite_none_right_eq_some.mp hnext).2]
  case waitRelease n p =>
    cases hchange : s.change? n <;>
      simp only [hchange, Option.ite_none_right_eq_some, Option.some.injEq, reduceCtorEq] at hnext
    rw [← hnext.2]
  all_goals
    first
    | subst hnext
      rfl
    | cases hidle

theorem paintsOrdinarily_drawSlot (h : PaintsOrdinarily s.qt) (n drawn : Nat) :
    PaintsOrdinarily (s.drawSlot cfg n drawn).qt := by
  rcases drawSlot_cases cfg s n drawn with ⟨_, heq⟩ | ⟨change, window, _, hwindow, heq⟩
  · rw [heq]
    exact h
  · rw [heq]
    refine ⟨h.egl, fun window' hmem => ?_⟩
    obtain rfl := Option.some.inj hmem
    exact h.updates window hwindow

theorem paintsOrdinarily_mainNext (h : PaintsOrdinarily s.qt) (hstep : s.mainNext cfg = some s') :
    PaintsOrdinarily s'.qt := by
  cases hmain : s.main <;>
    simp only [State.mainNext, hmain, Option.some.injEq, reduceCtorEq] at hstep
  case createWindow =>
    rw [← hstep]
    refine ⟨h.egl, fun window hmem => ?_⟩
    obtain rfl := Option.some.inj hmem
    rfl
  case slotDraw n =>
    rw [← hstep]
    exact paintsOrdinarily_drawSlot h n _
  case slotSignal n =>
    rw [← hstep, State.signalSlot]
    cases s.change? n <;> exact h
  case deleteEgl =>
    have hqt : s.qt.deleteEgl = s.qt := by
      rw [QtState.deleteEgl, h.egl]
    rw [← hstep]
    show PaintsOrdinarily s.qt.deleteEgl
    rwa [hqt]
  case join =>
    cases hcomm : s.comm <;> simp only [hcomm, Option.some.injEq, reduceCtorEq] at hstep
    rw [← hstep]
    exact h
  all_goals
    rw [← hstep]
    exact h

/-- The window and the `EGLState` stay out of it as long as no callback of the
protocol runs. -/
theorem paintsOrdinarily_step {a : Action} (h : PaintsOrdinarily s.qt)
    (hidle : s.comm.handlesDmaBuf = false) (hstep : step cfg s a = some s') :
    PaintsOrdinarily s'.qt := by
  have hrunning := running_of_step hstep
  simp only [step, hrunning] at hstep
  cases a with
  | main => exact paintsOrdinarily_mainNext h hstep
  | runSlot =>
      obtain ⟨_, n, rest, _, rfl⟩ := runSlot_cases hstep
      exact h
  | drawThrows drawn =>
      obtain ⟨n, _, rfl⟩ := drawThrows_cases hstep
      exact paintsOrdinarily_drawSlot h n drawn
  | leaveLoop =>
      obtain ⟨_, rfl⟩ := leaveLoop_cases hstep
      exact h
  | comm =>
      rw [qt_commStep hidle hstep]
      exact h
  | dispatch c =>
      obtain ⟨_, rfl⟩ := dispatch_cases hstep
      exact h
  | checkWaitObjsReturns closed =>
      obtain ⟨_, rfl⟩ := checkWaitObjsReturns_cases hstep
      exact h

end Threads

def AnswersRequest (s : Session) : SessionAction → Prop
  | .thread (.dispatch c) => c.usesDmaBuf = true → 0 < s.requests
  | _ => True

instance (s : Session) (action : SessionAction) : Decidable (AnswersRequest s action) :=
  match action with
  | .thread (.dispatch _) => inferInstanceAs (Decidable (_ → _))
  | .thread .main | .thread .runSlot | .thread (.drawThrows _) | .thread .leaveLoop
  | .thread .comm | .thread (.checkWaitObjsReturns _) | .pass => .isTrue trivial

/-- Whenever a callback of the protocol runs, `launch` is over and the window
exists. Until DMA-BUF is requested, and forever if it is not, the window is
painted as if there was no DMA-BUF. -/
structure DmaBufServed (wanted supported : Bool) (s : Session) : Prop where
  launched : s.threads.comm.handlesDmaBuf = true → s.threads.main.after .requestDmaBuf
  window : s.threads.comm.handlesDmaBuf = true → s.threads.qt.window.isSome
  ordinary : (wanted && supported) = false ∨ ¬ s.threads.main.after .requestDmaBuf →
    PaintsOrdinarily s.threads.qt

structure Answering (s : Session) : Prop where
  requested : s.threads.comm.handlesDmaBuf = true → 0 < s.requests
  ordinary : s.requests = 0 → PaintsOrdinarily s.threads.qt

section Serving

variable {wanted supported : Bool} {s s' : Session}

theorem answering_step {action : SessionAction} (h : Answering s) (hstarted : Started s.threads)
    (hok : AnswersRequest s action) (hstep : sessionStep cfg wanted s action = some s') :
    Answering s' := by
  have hmono := requests_mono hstep
  cases action with
  | pass =>
      have hthreads := threads_of_pass hstep
      refine ⟨?_, ?_⟩
      · rw [hthreads]
        exact fun hhandles => Nat.lt_of_lt_of_le (h.requested hhandles) hmono
      · rw [hthreads]
        exact fun hzero => h.ordinary (Nat.eq_zero_of_le_zero (hzero ▸ hmono))
  | thread a =>
      obtain ⟨_, threads, hthreads, rfl⟩ := thread_cases hstep
      refine ⟨fun hhandles => ?_, fun hzero => ?_⟩
      · rcases handlesDmaBuf_step hstarted hthreads hhandles with hhandles | ⟨c, rfl, huses⟩
        · exact h.requested hhandles
        · exact hok huses
      · have hidle : s.threads.comm.handlesDmaBuf = false := by
          by_contra hhandles
          have hrequested := h.requested (by simpa using hhandles)
          exact Nat.ne_of_gt hrequested hzero
        exact paintsOrdinarily_step (h.ordinary hzero) hidle hthreads

theorem answering_of_reachable
    (hreach : (sessionMachine cfg wanted supported).ReachableBy AnswersRequest s) :
    Answering s := by
  refine hreach.invariant (I := Answering) ?_ ?_
  · refine ⟨fun hhandles => ?_, fun _ => ⟨rfl, fun window hmem => ?_⟩⟩
    · cases hhandles
    · cases hmem
  · exact fun hreach' h hok hstep => answering_step h (started_of_session hreach') hok hstep

/-- `enable_dma_buf` never reports a missing window, and `disable_dma_buf`
never dereferences one, if the server answers requests only. -/
theorem dmaBuf_served
    (hreach : (sessionMachine cfg wanted supported).ReachableBy AnswersRequest s) :
    DmaBufServed wanted supported s := by
  have hanswering := answering_of_reachable hreach
  have hstarted := started_of_session hreach
  have htotal := (sentOrUnsent_of_reachable hreach.reachable).total
  have hsupported := supported_of_reachable hreach.reachable
  have hlaunched : s.threads.comm.handlesDmaBuf = true →
      s.threads.main.after .requestDmaBuf := by
    intro hhandles
    have hrequested := hanswering.requested hhandles
    by_contra hnot
    simp only [Session.requested, hnot, decide_false, Bool.false_and, Bool.toNat_false] at htotal
    omega
  refine ⟨hlaunched, fun hhandles => ?_, fun hnone => hanswering.ordinary ?_⟩
  · exact hstarted.window.mpr (after_trans (hlaunched hhandles) (by decide))
  · have hfalse : s.requested wanted = false := by
      rw [Session.requested, hsupported]
      rcases hnone with hnone | hnot
      · rw [Bool.and_assoc, hnone, Bool.and_false]
      · simp [hnot]
    rw [hfalse, Bool.toNat_false] at htotal
    omega

end Serving

def answered : List SessionAction :=
  requestedOnce ++ [.thread .comm, .thread .comm,
    .thread (.dispatch (.receivePixmapFd (.ok ()) ⟨3, 1, 1, 4, 4, 0⟩)), .thread .comm]

theorem dmaBuf_served_answered :
    ∃ s, (sessionMachine ⟨copyPixels, ⟨1, 1, fun _ _ => 0⟩⟩ true true).run
        { mod := { modEvent := true, dmaBufSupportedInLibxup := true } } answered = some s ∧
      s.threads.comm.handlesDmaBuf = true ∧ DmaBufServed true true s := by
  have hmeet : (sessionMachine ⟨copyPixels, ⟨1, 1, fun _ _ => 0⟩⟩ true true).StepsMeet
      AnswersRequest { mod := { modEvent := true, dmaBufSupportedInLibxup := true } } answered := by
    decide
  have hexec : ∃ s, (sessionMachine ⟨copyPixels, ⟨1, 1, fun _ _ => 0⟩⟩ true true).run
        { mod := { modEvent := true, dmaBufSupportedInLibxup := true } } answered = some s ∧
      s.threads.comm.handlesDmaBuf = true :=
    ⟨_, rfl, rfl⟩
  obtain ⟨s, hrun, hhandles⟩ := hexec
  exact ⟨s, hrun, hhandles, dmaBuf_served (Machine.ReachableBy.run .start hmeet hrun)⟩

end XrdpLocal.Threads
