import XrdpLocal.DmaBuf.Protocol
import XrdpLocal.DmaBuf.SharedDisplay
/-!
# Paints find their display

The protocol of `XrdpLocal.DmaBuf.Protocol`, with the client's constructions as
attempts that may terminate the shared display. An attempt that does so answers
its fd with `DMA_BUF_NOTIFY_INACTIVE`, and the server sends no paint before a
later fd is answered with `DMA_BUF_NOTIFY_ACTIVE`. The probe of `launch` may
terminate the display too, but it comes before the request that a server waits
for before it offers a pixmap.
-/

namespace XrdpLocal.DmaBuf.Shared

open StateMachine XrdpLocal.Qt
open XrdpLocal.Egl (EGL)

namespace Protocol

/-- Both ends and the client's display. `supported` is the result of the probe,
once `launch` has it, and `requested` says that the client has sent a request. -/
structure State where
  ends : DmaBuf.Protocol.State
  display : SharedDisplay
  supported : Option Bool := none
  requested : Bool := false

/-- The client's callbacks make attempts; the server's steps are as before. -/
inductive Action
  | other (action : DmaBuf.Protocol.Action)
  | clientHandles (attempt : Attempt)
  | probe (probe : Probe)

def callback? (attempt : Attempt) (s : DmaBuf.Protocol.State) : Option Callback :=
  s.toClient.head?.map fun
    | .pixmapFd _ pixmap => .receivePixmapFd attempt pixmap
    | .deactivate => .deactivate
    | .paintPixmap _ => .paintPixmap

/-- How the construction ends that the next message asks for, if it does. -/
def result (attempt : Attempt) (s : DmaBuf.Protocol.State) : Except String Unit :=
  match s.toClient.head? with
  | some (.pixmapFd _ pixmap) => attempt.construction pixmap
  | _ => .ok ()

def step (s : State) : Action → Option State
  | .other (.clientHandles _) => none
  | .other .clientRequests =>
      if s.supported = some true then some { s with ends := s.ends.request, requested := true }
      else none
  | .other action => (DmaBuf.Protocol.step s.ends action).map fun ends => { s with ends := ends }
  | .clientHandles attempt =>
      match callback? attempt s.ends with
      | none => none
      | some c =>
          (DmaBuf.Protocol.step s.ends (.clientHandles (result attempt s.ends))).map fun ends =>
            { s with ends := ends, display := s.display.after s.ends.client c }
  | .probe probe =>
      match s.supported with
      | some _ => none
      | none =>
          some { s with
            display := s.display.afterProbe probe
            supported := some probe.supported }

def machine (framebuffer : QImage) : Machine State Action where
  start := { ends := (DmaBuf.Protocol.machine framebuffer).start, display := .fresh }
  step := step

/-- The server offers pixmaps only after a request. -/
def OffersOnRequest (s : State) : Action → Prop
  | .other (.sendFd _) => s.requested = true
  | _ => True

instance (s : State) (action : Action) : Decidable (OffersOnRequest s action) :=
  match action with
  | .other (.sendFd _) => inferInstanceAs (Decidable (_ = _))
  | .other .sendDeactivate | .other .sendPaint | .other .serverReceives | .other .clientRequests
  | .other (.clientHandles _) | .clientHandles _ | .probe _ => .isTrue trivial

inductive StepEffect (s s' : State) : Action → Prop
  | other (action : DmaBuf.Protocol.Action)
      (hclient : ∀ construction, action ≠ .clientHandles construction)
      (hends : DmaBuf.Protocol.step s.ends action = some s'.ends)
      (hdisplay : s'.display = s.display) (hsupported : s'.supported = s.supported)
      (hrequested : s'.requested = s.requested ∨ s.supported = some true ∧ s'.requested = true) :
      StepEffect s s' (.other action)
  | handled (attempt : Attempt) (c : Callback) (hcallback : callback? attempt s.ends = some c)
      (hends : DmaBuf.Protocol.step s.ends (.clientHandles (result attempt s.ends)) = some s'.ends)
      (hdisplay : s'.display = s.display.after s.ends.client c)
      (hsupported : s'.supported = s.supported) (hrequested : s'.requested = s.requested) :
      StepEffect s s' (.clientHandles attempt)
  | probed (probe : Probe) (hfirst : s.supported = none) (hends : s'.ends = s.ends)
      (hdisplay : s'.display = s.display.afterProbe probe)
      (hrequested : s'.requested = s.requested) :
      StepEffect s s' (.probe probe)

theorem effect_of_step {s s' : State} {a : Action} (hstep : step s a = some s') :
    StepEffect s s' a := by
  cases a with
  | other action =>
      cases action with
      | clientHandles construction => cases hstep
      | clientRequests =>
          obtain ⟨hsupported, hrequest⟩ := Option.ite_none_right_eq_some.mp hstep
          obtain rfl := Option.some.inj hrequest
          exact .other _ (by simp) rfl rfl rfl (.inr ⟨hsupported, rfl⟩)
      | sendFd | sendDeactivate | sendPaint | serverReceives =>
          simp only [step, Option.map_eq_some_iff] at hstep
          obtain ⟨ends, hends, rfl⟩ := hstep
          exact .other _ (by simp) hends rfl rfl (.inl rfl)
  | clientHandles attempt =>
      cases hcallback : callback? attempt s.ends with
      | none => simp [step, hcallback] at hstep
      | some c =>
          simp only [step, hcallback, Option.map_eq_some_iff] at hstep
          obtain ⟨ends, hends, rfl⟩ := hstep
          exact .handled attempt c hcallback hends rfl rfl rfl
  | probe probe =>
      cases hfirst : s.supported with
      | some supported => simp [step, hfirst] at hstep
      | none =>
          simp only [step, hfirst, Option.some.injEq] at hstep
          rw [← hstep]
          exact .probed probe hfirst rfl rfl rfl

theorem ends_of_reachable {framebuffer : QImage} {ok : State → Action → Prop} {s : State}
    (hreach : (machine framebuffer).ReachableBy ok s) :
    (DmaBuf.Protocol.machine framebuffer).Reachable s.ends := by
  induction hreach with
  | start => exact .start
  | step _ _ hstep ih =>
      cases effect_of_step hstep with
      | other action _ hends => exact ih.step trivial hends
      | handled attempt c _ hends => exact ih.step (a := .clientHandles _) trivial hends
      | probed probe _ hends =>
          rw [hends]
          exact ih

/-! ## Before the request -/

/-- The client requests DMA-BUF after the probe, and has no `EGLState` before
it has requested any. -/
structure Asked (s : State) : Prop where
  supported : s.requested = true → s.supported = some true
  fds : s.requested = false → s.ends.fds = []
  egl : s.requested = false → s.ends.client.qt.egl = none

theorem Asked.not_requested {s : State} (h : Asked s) (hfirst : s.supported = none) :
    s.requested = false := by
  by_contra hrequested
  rw [h.supported (by simpa using hrequested)] at hfirst
  cases hfirst

theorem quiet_step {s s' : DmaBuf.Protocol.State} {action : DmaBuf.Protocol.Action}
    (hinv : DmaBuf.Protocol.Inv s) (hfds : s.fds = []) (hegl : s.client.qt.egl = none)
    (hoffers : ∀ pixmap, action ≠ .sendFd pixmap)
    (hstep : DmaBuf.Protocol.step s action = some s') :
    s'.fds = [] ∧ s'.client.qt.egl = none := by
  cases action with
  | sendFd pixmap => exact absurd rfl (hoffers pixmap)
  | sendDeactivate =>
      obtain rfl := Option.some.inj hstep
      exact ⟨hfds, hegl⟩
  | sendPaint =>
      obtain rfl := Option.some.inj (Option.ite_none_right_eq_some.mp hstep).2
      exact ⟨hfds, hegl⟩
  | serverReceives =>
      cases hchan : s.toServer with
      | nil => simp [DmaBuf.Protocol.step, hchan] at hstep
      | cons n rest =>
          simp only [DmaBuf.Protocol.step, hchan, Option.some.injEq] at hstep
          rw [← hstep]
          exact ⟨hfds, hegl⟩
  | clientRequests =>
      obtain rfl := Option.some.inj hstep
      exact ⟨hfds, hegl⟩
  | clientHandles construction =>
      cases hchan : s.toClient with
      | nil => simp [DmaBuf.Protocol.step, hchan] at hstep
      | cons msg rest =>
          simp only [DmaBuf.Protocol.step, hchan] at hstep
          cases msg with
          | pixmapFd k pixmap =>
              have hoffered := hinv.pixmaps k pixmap (by rw [hchan]; exact List.mem_cons_self)
              rw [hfds] at hoffered
              cases hoffered
          | deactivate =>
              obtain ⟨client, hclient, rfl⟩ := Option.map_eq_some_iff.mp hstep
              cases step_effect hinv.window hclient with
              | disabled _ _ hnone => exact ⟨hfds, hnone⟩
          | paintPixmap k =>
              obtain ⟨client, hclient, rfl⟩ := Option.map_eq_some_iff.mp hstep
              cases step_effect hinv.window hclient with
              | painted _ => exact ⟨hfds, hegl⟩

theorem asked_step {s s' : State} {a : Action} (h : Asked s)
    (hinv : DmaBuf.Protocol.Inv s.ends) (hok : OffersOnRequest s a) (hstep : step s a = some s') :
    Asked s' := by
  cases effect_of_step hstep with
  | other action _ hends _ hsupported hrequested =>
      have hstill (hnot : s'.requested = false) :
          s'.ends.fds = [] ∧ s'.ends.client.qt.egl = none := by
        have hquiet : s.requested = false := by
          rcases hrequested with hsame | ⟨_, htrue⟩
          · rw [← hsame, hnot]
          · rw [htrue] at hnot
            cases hnot
        have hoffers : ∀ pixmap, action ≠ .sendFd pixmap := by
          rintro pixmap rfl
          rw [show s.requested = true from hok] at hquiet
          cases hquiet
        exact quiet_step hinv (h.fds hquiet) (h.egl hquiet) hoffers hends
      refine ⟨fun hreq => ?_, fun hnot => (hstill hnot).1, fun hnot => (hstill hnot).2⟩
      rw [hsupported]
      rcases hrequested with hsame | ⟨hsome, _⟩
      · exact h.supported (hsame ▸ hreq)
      · exact hsome
  | handled attempt c _ hends _ hsupported hrequested =>
      have hstill (hnot : s'.requested = false) :
          s'.ends.fds = [] ∧ s'.ends.client.qt.egl = none := by
        rw [hrequested] at hnot
        exact quiet_step hinv (h.fds hnot) (h.egl hnot) (by simp) hends
      refine ⟨fun hreq => ?_, fun hnot => (hstill hnot).1, fun hnot => (hstill hnot).2⟩
      rw [hsupported]
      exact h.supported (hrequested ▸ hreq)
  | probed probe hfirst hends _ hrequested =>
      have hnever := h.not_requested hfirst
      refine ⟨fun hreq => ?_, ?_, ?_⟩
      · rw [hrequested, hnever] at hreq
        cases hreq
      · rw [hends]
        exact fun _ => h.fds hnever
      · rw [hends]
        exact fun _ => h.egl hnever

theorem asked_of_reachable {framebuffer : QImage} {s : State}
    (hreach : (machine framebuffer).ReachableBy OffersOnRequest s) : Asked s := by
  refine hreach.invariant ?_ ?_
  · refine ⟨fun hreq => ?_, fun _ => rfl, fun _ => rfl⟩
    cases hreq
  · intro s s' a hreach h hok hstep
    exact asked_step h (DmaBuf.Protocol.inv_of_reachable (ends_of_reachable hreach)) hok hstep

/-! ## The display of a paint -/

def EglFd (s : DmaBuf.Protocol.State) (k : Nat) : Prop :=
  ∃ egl, s.client.qt.egl = some egl ∧ s.built[egl.id]? = some k

/-- What the numbers of fds say about the display.

* A paint at the head of the channel is one of the fd that was handled last.
* When the `EGLState` in use has lost its display, a later fd was handled. -/
structure Kept (s : DmaBuf.Protocol.State) (display : SharedDisplay) : Prop where
  wf : Wf s.client display
  numbers : ∀ k ∈ s.built, k < s.sentReplies.length
  head : ∀ k rest, s.toClient = .paintPixmap k :: rest → k + 1 = s.sentReplies.length
  served : Served s.client display ∨ ∀ k, EglFd s k → k + 1 < s.sentReplies.length

theorem kept_start (framebuffer : QImage) :
    Kept (DmaBuf.Protocol.machine framebuffer).start .fresh := by
  refine ⟨wf_start framebuffer, ?_, ?_, .inl ?_⟩
  · intro k hk
    cases hk
  · intro k rest hhead
    cases hhead
  · intro egl hegl
    cases hegl

section Steps

variable {s : DmaBuf.Protocol.State} {display : SharedDisplay}

theorem Kept.of_client_eq (h : Kept s display) {ends : DmaBuf.Protocol.State}
    (hclient : ends.client = s.client) (hbuilt : ends.built = s.built)
    (hreplies : ends.sentReplies.length = s.sentReplies.length)
    (hhead : ∀ k rest, ends.toClient = .paintPixmap k :: rest →
      (∃ rest', s.toClient = .paintPixmap k :: rest') ∨
        k + 1 = ends.sentReplies.length) : Kept ends display := by
  refine ⟨?_, ?_, ?_, ?_⟩
  · rw [hclient]
    exact h.wf
  · rw [hbuilt, hreplies]
    exact h.numbers
  · intro k rest hk
    rcases hhead k rest hk with ⟨rest', hk'⟩ | hk'
    · rw [hreplies]
      exact h.head k rest' hk'
    · exact hk'
  · simp only [EglFd, hclient, hbuilt, hreplies]
    exact h.served

theorem head_append {msg : DmaBuf.Protocol.ServerMsg} {toClient : List DmaBuf.Protocol.ServerMsg}
    {k : Nat} {rest : List DmaBuf.Protocol.ServerMsg}
    (h : toClient ++ [msg] = .paintPixmap k :: rest) :
    (∃ rest', toClient = .paintPixmap k :: rest') ∨ (toClient = [] ∧ msg = .paintPixmap k) := by
  cases toClient with
  | nil =>
      rw [List.nil_append, List.cons.injEq] at h
      exact .inr ⟨rfl, h.1⟩
  | cons first more =>
      rw [List.cons_append, List.cons.injEq] at h
      exact .inl ⟨more, by rw [h.1]⟩

theorem Kept.other (h : Kept s display) (hinv : DmaBuf.Protocol.Inv s)
    {action : DmaBuf.Protocol.Action} (hne : ∀ construction, action ≠ .clientHandles construction)
    {ends : DmaBuf.Protocol.State} (hstep : DmaBuf.Protocol.step s action = some ends) :
    Kept ends display := by
  cases action with
  | sendFd pixmap =>
      obtain rfl : s.sendFd pixmap = ends := Option.some.inj hstep
      refine h.of_client_eq rfl rfl rfl fun k rest hk => ?_
      rcases head_append hk with hold | ⟨_, hnew⟩
      · exact .inl hold
      · cases hnew
  | sendDeactivate =>
      obtain rfl : s.sendDeactivate = ends := Option.some.inj hstep
      refine h.of_client_eq rfl rfl rfl fun k rest hk => ?_
      rcases head_append hk with hold | ⟨_, hnew⟩
      · exact .inl hold
      · cases hnew
  | sendPaint =>
      by_cases hmay : DmaBuf.Protocol.MayPaint s
      · obtain rfl : s.sendPaint = ends := by
          simpa [DmaBuf.Protocol.step, hmay] using hstep
        refine h.of_client_eq rfl rfl rfl fun k rest hk => ?_
        rcases head_append hk with hold | ⟨_, hnew⟩
        · exact .inl hold
        · -- every fd has been answered
          have hcount := hinv.count
          have hfds : 0 < s.fds.length := List.length_pos_iff.mpr hmay.1
          rw [(hinv.of_mayPaint hmay).1, List.length_nil, Nat.add_zero] at hcount
          cases hnew
          right
          show s.fds.length - 1 + 1 = s.sentReplies.length
          omega
      · simp [DmaBuf.Protocol.step, hmay] at hstep
  | serverReceives =>
      cases hchan : s.toServer with
      | nil => simp [DmaBuf.Protocol.step, hchan] at hstep
      | cons n rest =>
          obtain rfl : s.receive n rest = ends := by
            simpa [DmaBuf.Protocol.step, hchan] using hstep
          refine h.of_client_eq rfl rfl ?_ fun k rest hk => .inl ⟨rest, hk⟩
          simp only [DmaBuf.Protocol.State.sentReplies, DmaBuf.Protocol.State.receive, hchan]
          cases hn : DmaBuf.Protocol.isReply n <;> simp [hn]
  | clientRequests =>
      obtain rfl : s.request = ends := Option.some.inj hstep
      refine h.of_client_eq rfl rfl ?_ fun k rest hk => .inl ⟨rest, hk⟩
      simp [DmaBuf.Protocol.State.sentReplies, DmaBuf.Protocol.State.request,
        DmaBuf.Protocol.isReply]
  | clientHandles construction => exact absurd rfl (hne construction)

/-- A run of paints at the head of the channel is for one fd, and the client
renders from it. -/
theorem paint_head {s : DmaBuf.Protocol.State} (hinv : DmaBuf.Protocol.Inv s) {k : Nat}
    {rest : List DmaBuf.Protocol.ServerMsg} (hpaint : s.toClient = .paintPixmap k :: rest) :
    DmaBuf.Protocol.BuiltFrom s k ∧ ∀ j rest', rest = .paintPixmap j :: rest' → j = k := by
  obtain ⟨n, j, more, hsplit, hmore, hbuilt⟩ := hinv.paints
  cases n with
  | zero =>
      have hmem : .paintPixmap k ∈ more := by
        have heq : s.toClient = more := hsplit
        rw [← heq, hpaint]
        exact List.mem_cons_self
      exact absurd hmem (hmore k)
  | succ n =>
      rw [hpaint, List.replicate_succ, List.cons_append, List.cons.injEq,
        DmaBuf.Protocol.ServerMsg.paintPixmap.injEq] at hsplit
      obtain ⟨rfl, rfl⟩ := hsplit
      refine ⟨hbuilt (Nat.succ_ne_zero n), ?_⟩
      intro j rest' hrest
      cases n with
      | zero =>
          have hmem : .paintPixmap j ∈ more := by
            have heq : more = .paintPixmap j :: rest' := hrest
            rw [heq]
            exact List.mem_cons_self
          exact absurd hmem (hmore j)
      | succ n =>
          rw [List.replicate_succ, List.cons_append, List.cons.injEq,
            DmaBuf.Protocol.ServerMsg.paintPixmap.injEq] at hrest
          exact hrest.1.symm

theorem replies_of_step {client client' : Session} {c : DmaBuf.Callback}
    (hwindow : client.qt.window.isSome) (hstep : DmaBuf.step client c = some client') :
    ((DmaBuf.Protocol.newNotifications client client').filter DmaBuf.Protocol.isReply).length =
      match c with
      | .receivePixmapFd _ _ => 1
      | _ => 0 := by
  cases step_effect hwindow hstep with
  | enabled _ _ _ _ _ _ hlog | failed _ _ _ _ hlog | disabled _ _ _ _ _ hlog =>
      rw [DmaBuf.Protocol.newNotifications_eq hlog]
      rfl
  | painted _ =>
      rw [DmaBuf.Protocol.newNotifications_self]
      rfl

theorem Kept.handle_fd (h : Kept s display) (hinv : DmaBuf.Protocol.Inv s) {k : Nat}
    {attempt : Attempt} {pixmap : DmaBufPixmap} {rest : List DmaBuf.Protocol.ServerMsg}
    (hchan : s.toClient = .pixmapFd k pixmap :: rest) {client : Session}
    (hclient : DmaBuf.step s.client
      (Callback.receivePixmapFd attempt pixmap).plain = some client) :
    Kept
      (s.handle rest client
        (if (attempt.construction pixmap).isOk then s.built ++ [k] else s.built))
      (display.after s.client (.receivePixmapFd attempt pixmap)) := by
  have hchange := change_of_step h.wf.window hclient display
  have hreplies : ∀ built, (s.handle rest client built).sentReplies.length =
      s.sentReplies.length + 1 := by
    intro built
    rw [DmaBuf.Protocol.sentReplies_handle, List.length_append,
      replies_of_step h.wf.window hclient]
    rfl
  have hnumbers : ∀ j ∈ s.built ++ [k], j < s.sentReplies.length + 1 := by
    intro j hj
    rcases List.mem_append.mp hj with hj | hj
    · exact Nat.lt_succ_of_lt (h.numbers j hj)
    · rw [List.mem_singleton.mp hj, (hinv.head_fd hchan).1]
      exact Nat.lt_succ_self _
  refine ⟨h.wf.change hchange, ?_, ?_, ?_⟩
  · rw [hreplies]
    intro j hj
    apply hnumbers j
    show j ∈ s.built ++ [k]
    have hj' : j ∈ if (attempt.construction pixmap).isOk then s.built ++ [k]
      else s.built := hj
    split at hj'
    · exact hj'
    · exact List.mem_append_left _ hj'
  · intro j rest' hrest
    have hmem : .paintPixmap j ∈ rest := by
      have heq : rest = .paintPixmap j :: rest' := hrest
      rw [heq]
      exact List.mem_cons_self
    exact absurd hmem (hinv.no_paints hchan (by simp) j)
  · rw [hreplies]
    rcases served_or_kept h.wf hchange with ⟨_, hserved⟩ | ⟨hfailed, hqt⟩
    · exact .inl hserved
    · -- the one in use is older than this fd
      right
      rintro j ⟨egl, hegl, hbuilt⟩
      have hsame : (if (attempt.construction pixmap).isOk then s.built ++ [k]
          else s.built) = s.built := by
        cases hresult : attempt.construction pixmap with
        | ok => exact absurd hresult hfailed
        | error what => rfl
      have hj : s.built[egl.id]? = some j := by
        rw [← hsame]
        exact hbuilt
      exact Nat.succ_lt_succ (h.numbers j (List.mem_of_getElem? hj))

theorem Kept.handle_deactivate (h : Kept s display) (hinv : DmaBuf.Protocol.Inv s)
    {rest : List DmaBuf.Protocol.ServerMsg} (hchan : s.toClient = .deactivate :: rest)
    {client : Session}
    (hclient : DmaBuf.step s.client Callback.deactivate.plain = some client) :
    Kept (s.handle rest client s.built) (display.after s.client .deactivate) := by
  have hchange := change_of_step h.wf.window hclient display
  have hreplies : (s.handle rest client s.built).sentReplies.length =
      s.sentReplies.length := by
    rw [DmaBuf.Protocol.sentReplies_handle, List.length_append,
      replies_of_step h.wf.window hclient]
    rfl
  refine ⟨h.wf.change hchange, ?_, ?_, ?_⟩
  · rw [hreplies]
    exact h.numbers
  · intro j rest' hrest
    have hmem : .paintPixmap j ∈ rest := by
      have heq : rest = .paintPixmap j :: rest' := hrest
      rw [heq]
      exact List.mem_cons_self
    exact absurd hmem (hinv.no_paints hchan (by simp) j)
  · left
    intro egl hegl
    have hnone : client.qt.egl = none := by
      generalize display.after s.client .deactivate = display at hchange
      cases hchange with
      | disabled _ _ _ hegl => exact hegl
    have hsome : client.qt.egl = some egl := hegl
    rw [hnone] at hsome
    cases hsome

theorem Kept.handle_paint (h : Kept s display) (hinv : DmaBuf.Protocol.Inv s) {k : Nat}
    {rest : List DmaBuf.Protocol.ServerMsg} (hchan : s.toClient = .paintPixmap k :: rest) :
    Kept (s.handle rest s.client s.built) display := by
  have hreplies : (s.handle rest s.client s.built).sentReplies =
      s.sentReplies := by
    rw [DmaBuf.Protocol.sentReplies_handle, DmaBuf.Protocol.newNotifications_self,
      List.filter_nil, List.append_nil]
  refine ⟨h.wf, ?_, ?_, ?_⟩
  · rw [hreplies]
    exact h.numbers
  · intro j rest' hrest
    rw [hreplies, (paint_head hinv hchan).2 j rest' hrest]
    exact h.head k rest hchan
  · rw [hreplies]
    exact h.served

theorem Kept.handles (h : Kept s display) (hinv : DmaBuf.Protocol.Inv s) {attempt : Attempt}
    {c : Callback} (hcallback : callback? attempt s = some c) {ends : DmaBuf.Protocol.State}
    (hends : DmaBuf.Protocol.step s (.clientHandles (result attempt s)) = some ends) :
    Kept ends (display.after s.client c) := by
  cases hchan : s.toClient with
  | nil => simp [callback?, hchan] at hcallback
  | cons msg rest =>
      simp only [callback?, hchan, List.head?_cons, Option.map_some, Option.some.injEq]
        at hcallback
      subst c
      simp only [DmaBuf.Protocol.step, result, hchan, List.head?_cons] at hends
      cases msg with
      | pixmapFd k pixmap =>
          obtain ⟨client, hclient, rfl⟩ := Option.map_eq_some_iff.mp hends
          exact h.handle_fd hinv hchan hclient
      | deactivate =>
          obtain ⟨client, hclient, rfl⟩ := Option.map_eq_some_iff.mp hends
          exact h.handle_deactivate hinv hchan hclient
      | paintPixmap k =>
          obtain ⟨client, hclient, rfl⟩ := Option.map_eq_some_iff.mp hends
          cases step_effect h.wf.window hclient with
          | painted _ => exact h.handle_paint hinv hchan

theorem Kept.probe (h : Kept s display) (hegl : s.client.qt.egl = none) (probe : Probe) :
    Kept s (display.afterProbe probe) := by
  refine ⟨wf_afterProbe h.wf probe, h.numbers, h.head, .inl ?_⟩
  intro egl hsome
  rw [hegl] at hsome
  cases hsome

end Steps

theorem kept_step {s s' : State} {a : Action} (h : Kept s.ends s.display) (hasked : Asked s)
    (hinv : DmaBuf.Protocol.Inv s.ends) (hstep : step s a = some s') :
    Kept s'.ends s'.display := by
  cases effect_of_step hstep with
  | other action hclient hends hdisplay =>
      rw [hdisplay]
      exact h.other hinv hclient hends
  | handled attempt c hcallback hends hdisplay =>
      rw [hdisplay]
      exact h.handles hinv hcallback hends
  | probed probe hfirst hends hdisplay =>
      rw [hends, hdisplay]
      exact h.probe (hasked.egl (hasked.not_requested hfirst)) probe

theorem kept_of_reachable {framebuffer : QImage} {s : State}
    (hreach : (machine framebuffer).ReachableBy OffersOnRequest s) : Kept s.ends s.display := by
  refine hreach.invariant (I := fun s => Kept s.ends s.display) (kept_start framebuffer) ?_
  intro s s' a hreach h _ hstep
  exact kept_step h (asked_of_reachable hreach)
    (DmaBuf.Protocol.inv_of_reachable (ends_of_reachable hreach)) hstep

/-- After the probe and the request, the second of three fds cannot be opened,
which terminates the display of the first; the third is built anew. -/
def reopened : List Action :=
  [.probe ⟨.working, [':', '0']⟩, .other .clientRequests, .other .serverReceives,
    .other (.sendFd ⟨7, 64, 48, 256, 12288, 0⟩), .clientHandles ⟨.working, [':', '0'], 7⟩,
    .other (.sendFd ⟨8, 64, 48, 256, 12288, 0⟩),
    .clientHandles ⟨{ EGL.working with eglBindAPI := false }, [':', '0'], 7⟩,
    .other (.sendFd ⟨9, 64, 48, 256, 12288, 0⟩), .clientHandles ⟨.working, [':', '0'], 7⟩,
    .other .serverReceives, .other .serverReceives, .other .serverReceives, .other .sendPaint]

end Protocol

end XrdpLocal.DmaBuf.Shared
