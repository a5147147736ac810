import XrdpLocal.DmaBuf.Callbacks
/-!
# The DMA-BUF protocol between server and client

Two FIFO channels join the X server and the client. The server may send pixmap
fds and deactivates at any time; it takes the k-th reply it receives for the
answer to its k-th fd, and sends a paint only when the answer to its latest fd
has arrived, was `DMA_BUF_NOTIFY_ACTIVE`, and no deactivate followed that fd.
The client runs the callbacks of `XrdpLocal.DmaBuf.Callbacks`. It may also ask
for DMA-BUF with `DMA_BUF_REQUEST_ACTIVATE`, which answers no fd.

The result is `paint_finds_egl`: a paint finds the `EGLState` of the fd that
was the server's latest when it sent the paint.
-/

namespace XrdpLocal.DmaBuf.Protocol

open StateMachine XrdpLocal.Qt XrdpLocal.Xup

/-- Messages to the client. An fd carries its number, and a paint the number
of the fd that was the latest when it was sent; neither is on the wire. -/
inductive ServerMsg
  | pixmapFd (k : Nat) (pixmap : DmaBufPixmap)
  | deactivate
  | paintPixmap (k : Nat)
  deriving DecidableEq

def ServerMsg.fdNumber : ServerMsg → Option Nat
  | .pixmapFd k _ => some k
  | _ => none

/-- `fds` and `replies` are what the server has sent and received, `deactivated`
says that it sent a deactivate after its latest fd, and `built` gives for each
`EGLState`, in order of construction, the number of its fd. -/
structure State where
  fds : List DmaBufPixmap := []
  replies : List DmaBufNotify := []
  deactivated : Bool := false
  toClient : List ServerMsg := []
  toServer : List DmaBufNotify := []
  client : Session
  built : List Nat := []

inductive Action
  | sendFd (pixmap : DmaBufPixmap)
  | sendDeactivate
  | sendPaint
  | serverReceives
  | clientRequests
  | clientHandles (construction : Except String Unit)

def isReply (n : DmaBufNotify) : Bool := n != .requestActivate

def notifications (log : List LogEntry) : List DmaBufNotify :=
  log.filterMap fun
    | .notified n => some n
    | .deactivated => none

def newNotifications (s s' : Session) : List DmaBufNotify :=
  notifications (s'.log.drop s.log.length)

def MayPaint (s : State) : Prop :=
  s.fds ≠ [] ∧ s.replies[s.fds.length - 1]? = some .notifyActive ∧ s.deactivated = false

instance (s : State) : Decidable (MayPaint s) :=
  inferInstanceAs (Decidable (_ ∧ _))

def State.sendFd (s : State) (pixmap : DmaBufPixmap) : State :=
  { s with
    fds := s.fds ++ [pixmap]
    deactivated := false
    toClient := s.toClient ++ [.pixmapFd s.fds.length pixmap] }

def State.sendDeactivate (s : State) : State :=
  { s with deactivated := true, toClient := s.toClient ++ [.deactivate] }

def State.sendPaint (s : State) : State :=
  { s with toClient := s.toClient ++ [.paintPixmap (s.fds.length - 1)] }

def State.receive (s : State) (n : DmaBufNotify) (rest : List DmaBufNotify) : State :=
  { s with
    replies := if isReply n then s.replies ++ [n] else s.replies
    toServer := rest }

def State.request (s : State) : State :=
  { s with toServer := s.toServer ++ [.requestActivate] }

/-- The client runs the callback of the message, which becomes the session
`client`. -/
def State.handle (s : State) (rest : List ServerMsg) (client : Session)
    (built : List Nat) : State :=
  { s with
    toClient := rest
    toServer := s.toServer ++ newNotifications s.client client
    client := client
    built := built }

def step (s : State) : Action → Option State
  | .sendFd pixmap => some (s.sendFd pixmap)
  | .sendDeactivate => some s.sendDeactivate
  | .sendPaint => if MayPaint s then some s.sendPaint else none
  | .serverReceives =>
      match s.toServer with
      | [] => none
      | n :: rest => some (s.receive n rest)
  | .clientRequests => some s.request
  | .clientHandles construction =>
      match s.toClient with
      | [] => none
      | .pixmapFd k pixmap :: rest =>
          (DmaBuf.step s.client (.receivePixmapFd construction pixmap)).map fun client =>
            s.handle rest client
              (if construction.isOk then s.built ++ [k] else s.built)
      | .deactivate :: rest =>
          (DmaBuf.step s.client .deactivate).map fun client => s.handle rest client s.built
      | .paintPixmap _ :: rest =>
          (DmaBuf.step s.client .paintPixmap).map fun client => s.handle rest client s.built

def machine (framebuffer : QImage) : Machine State Action where
  start := { client := (DmaBuf.machine framebuffer).start }
  step := step

def BuiltFrom (s : State) (k : Nat) : Prop :=
  ∃ egl, s.client.qt.egl = some egl ∧ s.built[egl.id]? = some k ∧
    s.fds[k]? = some egl.pixmap

/-- The replies that the client has sent, whether received yet or not. -/
def State.sentReplies (s : State) : List DmaBufNotify :=
  s.replies ++ s.toServer.filter isReply

/-- The numbers of the fds that the client has not handled yet. -/
def State.fdsInFlight (s : State) : List Nat := s.toClient.filterMap ServerMsg.fdNumber

/-- The invariant of the protocol.

* The fds in flight are those without a reply, in order.
* After the last fd in flight there is a deactivate only if the server knows.
* Once every fd has been answered, the last one with `notifyActive`, and no
  deactivate followed, the client renders from the latest fd.
* Paints are first in their channel, and the client renders from their fd. -/
structure Inv (s : State) : Prop where
  window : s.client.qt.window.isSome
  built : s.built.length = s.client.qt.constructed
  inFlight : s.fdsInFlight = List.range' s.sentReplies.length s.fdsInFlight.length
  count : s.sentReplies.length + s.fdsInFlight.length = s.fds.length
  pixmaps : ∀ k pixmap, .pixmapFd k pixmap ∈ s.toClient → s.fds[k]? = some pixmap
  noDeactivate : s.deactivated = false → ∀ post, post <:+ s.toClient →
    post.filterMap ServerMsg.fdNumber = [] → .deactivate ∉ post
  current : s.fdsInFlight = [] → s.deactivated = false →
    s.sentReplies[s.fds.length - 1]? = some .notifyActive → BuiltFrom s (s.fds.length - 1)
  paints : ∃ n k rest, s.toClient = List.replicate n (.paintPixmap k) ++ rest ∧
    (∀ j, .paintPixmap j ∉ rest) ∧ (n ≠ 0 → BuiltFrom s k)

theorem BuiltFrom.unique {s : State} {j k : Nat} (hj : BuiltFrom s j) (hk : BuiltFrom s k) :
    j = k := by
  obtain ⟨egl, hegl, hbuilt, _⟩ := hj
  obtain ⟨egl', hegl', hbuilt', _⟩ := hk
  rw [hegl, Option.some.injEq] at hegl'
  subst egl'
  rw [hbuilt, Option.some.injEq] at hbuilt'
  exact hbuilt'

theorem BuiltFrom.of_eq {s s' : State} {k : Nat} (h : BuiltFrom s k)
    (hegl : s'.client.qt.egl = s.client.qt.egl) (hbuilt : s'.built = s.built)
    (hfds : s.fds <+: s'.fds) : BuiltFrom s' k := by
  obtain ⟨egl, h1, h2, h3⟩ := h
  refine ⟨egl, by rw [hegl, h1], by rw [hbuilt, h2], ?_⟩
  obtain ⟨hlt, _⟩ := List.getElem?_eq_some_iff.mp h3
  obtain ⟨more, hmore⟩ := hfds
  rw [← hmore, List.getElem?_append_left hlt, h3]

/-! ## The server's steps -/

theorem inv_start (framebuffer : QImage) : Inv (machine framebuffer).start := by
  constructor <;>
    simp [machine, DmaBuf.machine, State.fdsInFlight, State.sentReplies]

theorem Inv.sendFd {s : State} (h : Inv s) (pixmap : DmaBufPixmap) : Inv (s.sendFd pixmap) := by
  have hflight : (s.sendFd pixmap).fdsInFlight = s.fdsInFlight ++ [s.fds.length] := by
    simp [State.fdsInFlight, State.sendFd, ServerMsg.fdNumber]
  have hreplies : (s.sendFd pixmap).sentReplies = s.sentReplies := rfl
  have hfds : s.fds <+: (s.sendFd pixmap).fds := List.prefix_append _ _
  have hcount := h.count
  refine ⟨h.window, h.built, ?_, ?_, ?_, ?_, ?_, ?_⟩
  · rw [hflight, hreplies, List.length_append, List.length_singleton, List.range'_concat,
      ← h.inFlight, Nat.one_mul, hcount]
  · rw [hflight, hreplies]
    simp only [State.sendFd, List.length_append, List.length_singleton]
    omega
  · intro k p hmem
    simp only [State.sendFd, List.mem_append, List.mem_singleton, ServerMsg.pixmapFd.injEq] at hmem
    rcases hmem with hmem | ⟨rfl, rfl⟩
    · have hk := h.pixmaps k p hmem
      obtain ⟨hlt, _⟩ := List.getElem?_eq_some_iff.mp hk
      simp only [State.sendFd]
      rw [List.getElem?_append_left hlt, hk]
    · simp [State.sendFd]
  · intro _ post hpost hnone
    rcases List.suffix_concat_iff.mp hpost with rfl | ⟨t, rfl, _⟩
    · simp
    · simp [ServerMsg.fdNumber] at hnone
  · intro hempty
    rw [hflight] at hempty
    simp at hempty
  · obtain ⟨n, k, rest, hchan, hrest, hbuilt⟩ := h.paints
    refine ⟨n, k, rest ++ [.pixmapFd s.fds.length pixmap], ?_, ?_, ?_⟩
    · simp only [State.sendFd, hchan, List.append_assoc]
    · intro j hmem
      rcases List.mem_append.mp hmem with hmem | hmem
      · exact hrest j hmem
      · simp at hmem
    · exact fun hn => (hbuilt hn).of_eq rfl rfl hfds

theorem Inv.sendDeactivate {s : State} (h : Inv s) : Inv s.sendDeactivate := by
  have hflight : s.sendDeactivate.fdsInFlight = s.fdsInFlight := by
    simp [State.fdsInFlight, State.sendDeactivate, ServerMsg.fdNumber]
  have hreplies : s.sendDeactivate.sentReplies = s.sentReplies := rfl
  refine ⟨h.window, h.built, ?_, ?_, ?_, nofun, nofun, ?_⟩
  · rw [hflight, hreplies]
    exact h.inFlight
  · rw [hflight, hreplies]
    exact h.count
  · intro k p hmem
    apply h.pixmaps k p
    simpa [State.sendDeactivate] using hmem
  · obtain ⟨n, k, rest, hchan, hrest, hbuilt⟩ := h.paints
    refine ⟨n, k, rest ++ [.deactivate], ?_, ?_, fun hn => (hbuilt hn).of_eq rfl rfl ?_⟩
    · simp only [State.sendDeactivate, hchan, List.append_assoc]
    · intro j hmem
      rcases List.mem_append.mp hmem with hmem | hmem
      · exact hrest j hmem
      · simp at hmem
    · exact List.prefix_rfl

/-- When the server may paint, the channel holds nothing but paints of the
latest fd, and the client renders from it. -/
theorem Inv.of_mayPaint {s : State} (h : Inv s) (hmay : MayPaint s) :
    s.fdsInFlight = [] ∧ BuiltFrom s (s.fds.length - 1) ∧
      ∃ n, s.toClient = List.replicate n (.paintPixmap (s.fds.length - 1)) := by
  obtain ⟨hfds, hreply, hdeactivated⟩ := hmay
  obtain ⟨hlt, _⟩ := List.getElem?_eq_some_iff.mp hreply
  have hpos : 0 < s.fds.length := List.length_pos_iff.mpr hfds
  have hcount := h.count
  have hle : s.replies.length ≤ s.sentReplies.length := by
    simp [State.sentReplies]
  have hnone : s.fdsInFlight = [] := by
    apply List.eq_nil_of_length_eq_zero
    omega
  have hactive : s.sentReplies[s.fds.length - 1]? = some .notifyActive := by
    rw [State.sentReplies, List.getElem?_append_left hlt, hreply]
  have hbuilt := h.current hnone hdeactivated hactive
  refine ⟨hnone, hbuilt, ?_⟩
  obtain ⟨n, k, rest, hchan, hrest, hk⟩ := h.paints
  have hrestNil : rest = [] := by
    apply List.eq_nil_iff_forall_not_mem.mpr
    intro m hm
    have hmem : m ∈ s.toClient := by
      rw [hchan]
      exact List.mem_append_right _ hm
    cases m with
    | pixmapFd j pixmap =>
        have hj : j ∈ s.fdsInFlight := List.mem_filterMap.mpr ⟨_, hmem, rfl⟩
        rw [hnone] at hj
        exact absurd hj List.not_mem_nil
    | deactivate => exact h.noDeactivate hdeactivated _ List.suffix_rfl hnone hmem
    | paintPixmap j => exact hrest j hm
  refine ⟨n, ?_⟩
  rw [hchan, hrestNil, List.append_nil]
  cases n with
  | zero => rfl
  | succ n => rw [(hk (Nat.succ_ne_zero n)).unique hbuilt]

theorem Inv.sendPaint {s : State} (h : Inv s) (hmay : MayPaint s) : Inv s.sendPaint := by
  obtain ⟨hnone, hbuilt, n, hchan⟩ := h.of_mayPaint hmay
  have hflight : s.sendPaint.fdsInFlight = s.fdsInFlight := by
    simp [State.fdsInFlight, State.sendPaint, ServerMsg.fdNumber]
  have hreplies : s.sendPaint.sentReplies = s.sentReplies := rfl
  have hchan' : s.sendPaint.toClient =
      List.replicate (n + 1) (.paintPixmap (s.fds.length - 1)) := by
    simp only [State.sendPaint, hchan, List.replicate_succ']
  have honly : ∀ m ∈ s.sendPaint.toClient, m = .paintPixmap (s.fds.length - 1) := by
    rw [hchan']
    exact fun m hm => List.eq_of_mem_replicate hm
  refine ⟨h.window, h.built, ?_, ?_, ?_, ?_, ?_, ?_⟩
  · rw [hflight, hreplies]
    exact h.inFlight
  · rw [hflight, hreplies]
    exact h.count
  · intro k p hmem
    cases honly _ hmem
  · intro _ post hpost _ hmem
    cases honly _ (hpost.subset hmem)
  · intro _ hdeactivated hactive
    exact (h.current hnone hdeactivated hactive).of_eq rfl rfl List.prefix_rfl
  · refine ⟨n + 1, s.fds.length - 1, [], ?_, ?_, ?_⟩
    · rw [hchan', List.append_nil]
    · exact fun j => List.not_mem_nil
    · exact fun _ => hbuilt.of_eq rfl rfl List.prefix_rfl

theorem Inv.of_replies_eq {s s' : State} (h : Inv s) (hfds : s'.fds = s.fds)
    (hdeactivated : s'.deactivated = s.deactivated) (hchan : s'.toClient = s.toClient)
    (hclient : s'.client = s.client) (hbuilt : s'.built = s.built)
    (hreplies : s'.sentReplies = s.sentReplies) : Inv s' := by
  have hflight : s'.fdsInFlight = s.fdsInFlight := by
    simp only [State.fdsInFlight, hchan]
  have hfrom : ∀ k, BuiltFrom s k → BuiltFrom s' k := by
    intro k hk
    exact hk.of_eq (by rw [hclient]) hbuilt (hfds ▸ List.prefix_rfl)
  refine ⟨?_, ?_, ?_, ?_, ?_, ?_, ?_, ?_⟩
  · rw [hclient]
    exact h.window
  · rw [hclient, hbuilt]
    exact h.built
  · rw [hflight, hreplies]
    exact h.inFlight
  · rw [hflight, hreplies, hfds]
    exact h.count
  · rw [hchan, hfds]
    exact h.pixmaps
  · rw [hchan, hdeactivated]
    exact h.noDeactivate
  · rw [hflight, hdeactivated, hreplies, hfds]
    exact fun h1 h2 h3 => hfrom _ (h.current h1 h2 h3)
  · obtain ⟨n, k, rest, h1, h2, h3⟩ := h.paints
    exact ⟨n, k, rest, by rw [hchan, h1], h2, fun hn => hfrom k (h3 hn)⟩

theorem Inv.receive {s : State} (h : Inv s) {n : DmaBufNotify} {rest : List DmaBufNotify}
    (hchan : s.toServer = n :: rest) : Inv (s.receive n rest) := by
  have hsent : (s.receive n rest).sentReplies = s.sentReplies := by
    by_cases hn : isReply n = true
    · simp [State.sentReplies, State.receive, hchan, hn]
    · simp [State.sentReplies, State.receive, hchan, hn]
  exact h.of_replies_eq rfl rfl rfl rfl rfl hsent

theorem Inv.request {s : State} (h : Inv s) : Inv s.request := by
  have hsent : s.request.sentReplies = s.sentReplies := by
    simp [State.sentReplies, State.request, isReply]
  exact h.of_replies_eq rfl rfl rfl rfl rfl hsent

/-! ## The client's steps -/

theorem newNotifications_eq {s s' : Session} {entry : LogEntry}
    (hlog : s'.log = s.log ++ [entry]) : newNotifications s s' = notifications [entry] := by
  rw [newNotifications, hlog, List.drop_left]

theorem newNotifications_self (s : Session) : newNotifications s s = [] := by
  rw [newNotifications, List.drop_length]
  rfl

theorem sentReplies_handle (s : State) (rest : List ServerMsg) (client : Session)
    (built : List Nat) :
    (s.handle rest client built).sentReplies =
      s.sentReplies ++ (newNotifications s.client client).filter isReply := by
  simp [State.sentReplies, State.handle, List.filter_append, List.append_assoc]

/-- What a callback keeps of the invariant, whatever the message: one reply for
an fd and none for the others keeps replies and fds in step. -/
theorem Inv.handle {s : State} (h : Inv s) {msg : ServerMsg} {rest : List ServerMsg}
    (hchan : s.toClient = msg :: rest) {client : Session} {built : List Nat}
    (hwindow : client.qt.window.isSome) (hbuilt : built.length = client.qt.constructed)
    (hreplies : ((newNotifications s.client client).filter isReply).length =
      msg.fdNumber.toList.length)
    (hcurrent : rest.filterMap ServerMsg.fdNumber = [] → s.deactivated = false →
      (s.handle rest client built).sentReplies[s.fds.length - 1]? = some .notifyActive →
        BuiltFrom (s.handle rest client built) (s.fds.length - 1))
    (hpaints : ∃ n k more, rest = List.replicate n (.paintPixmap k) ++ more ∧
      (∀ j, .paintPixmap j ∉ more) ∧
      (n ≠ 0 → BuiltFrom (s.handle rest client built) k)) :
    Inv (s.handle rest client built) := by
  have hflight : s.fdsInFlight = msg.fdNumber.toList ++ rest.filterMap ServerMsg.fdNumber := by
    rw [State.fdsInFlight, hchan, List.filterMap_cons]
    cases msg.fdNumber <;> rfl
  have hsent : (s.handle rest client built).sentReplies.length =
      s.sentReplies.length + msg.fdNumber.toList.length := by
    rw [sentReplies_handle, List.length_append, hreplies]
  have hlen := congrArg List.length hflight
  rw [List.length_append] at hlen
  refine ⟨hwindow, hbuilt, ?_, ?_, ?_, ?_, hcurrent, hpaints⟩
  · -- the fd handled is the first of those in flight
    have hrange := h.inFlight
    rw [hlen, ← List.range'_append_1, hflight] at hrange
    have htail := (List.append_inj hrange (by simp)).2
    rw [hsent]
    exact htail
  · have hcount := h.count
    show (s.handle rest client built).sentReplies.length +
      (rest.filterMap ServerMsg.fdNumber).length = s.fds.length
    omega
  · intro k pixmap hmem
    apply h.pixmaps k pixmap
    rw [hchan]
    exact List.mem_cons_of_mem _ hmem
  · intro hdeactivated post hpost
    apply h.noDeactivate hdeactivated post
    rw [hchan]
    exact hpost.trans (List.suffix_cons _ _)

theorem Inv.no_paints {s : State} (h : Inv s) {msg : ServerMsg} {rest : List ServerMsg}
    (hchan : s.toClient = msg :: rest) (hmsg : ∀ k, msg ≠ .paintPixmap k) :
    ∀ j, .paintPixmap j ∉ rest := by
  obtain ⟨n, k, more, hsplit, hmore, _⟩ := h.paints
  cases n with
  | zero =>
      have heq : msg :: rest = more := by rw [← hchan, hsplit]; rfl
      intro j hj
      apply hmore j
      rw [← heq]
      exact List.mem_cons_of_mem _ hj
  | succ n =>
      rw [hchan, List.replicate_succ, List.cons_append, List.cons.injEq] at hsplit
      exact absurd hsplit.1 (hmsg k)

/-- The number of an fd at the head of the channel counts the replies sent. -/
theorem Inv.head_fd {s : State} (h : Inv s) {k : Nat} {pixmap : DmaBufPixmap}
    {rest : List ServerMsg} (hchan : s.toClient = .pixmapFd k pixmap :: rest) :
    k = s.sentReplies.length ∧
      (rest.filterMap ServerMsg.fdNumber = [] → k = s.fds.length - 1) := by
  have hflight : s.fdsInFlight = k :: rest.filterMap ServerMsg.fdNumber := by
    rw [State.fdsInFlight, hchan]
    rfl
  have hrange := h.inFlight
  have hcount := h.count
  rw [hflight, List.length_cons, List.range'_succ, List.cons.injEq] at hrange
  refine ⟨hrange.1, fun hnone => ?_⟩
  rw [hflight, hnone, List.length_singleton] at hcount
  omega

theorem Inv.handle_fd_ok {s : State} (h : Inv s) {k : Nat} {pixmap : DmaBufPixmap}
    {rest : List ServerMsg} (hchan : s.toClient = .pixmapFd k pixmap :: rest)
    {client : Session} (hwindow : client.qt.window.isSome)
    (hegl : client.qt.egl = some ⟨s.client.qt.constructed, pixmap⟩)
    (hconstructed : client.qt.constructed = s.client.qt.constructed + 1)
    (hlog : client.log = s.client.log ++ [.notified .notifyActive]) :
    Inv (s.handle rest client (s.built ++ [k])) := by
  have hnew := newNotifications_eq hlog
  obtain ⟨_, hlast⟩ := h.head_fd hchan
  refine h.handle hchan hwindow ?_ ?_ ?_ ?_
  · rw [List.length_append, List.length_singleton, h.built, hconstructed]
  · rw [hnew]
    rfl
  · intro hnone _ _
    have hk : s.fds[k]? = some pixmap := by
      apply h.pixmaps k pixmap
      rw [hchan]
      exact List.mem_cons_self
    rw [← hlast hnone]
    refine ⟨_, hegl, ?_, hk⟩
    show (s.built ++ [k])[s.client.qt.constructed]? = some k
    rw [← h.built, List.getElem?_concat_length]
  · exact ⟨0, 0, rest, rfl, h.no_paints hchan nofun, fun hn => absurd rfl hn⟩

theorem Inv.handle_fd_error {s : State} (h : Inv s) {k : Nat} {pixmap : DmaBufPixmap}
    {rest : List ServerMsg} (hchan : s.toClient = .pixmapFd k pixmap :: rest)
    {client : Session} (hqt : client.qt = s.client.qt)
    (hlog : client.log = s.client.log ++ [.notified .notifyInactive]) :
    Inv (s.handle rest client s.built) := by
  have hnew := newNotifications_eq hlog
  obtain ⟨hhead, hlast⟩ := h.head_fd hchan
  refine h.handle hchan (hqt ▸ h.window) (hqt ▸ h.built) ?_ ?_ ?_
  · rw [hnew]
    rfl
  · -- the latest fd has just been answered with `notifyInactive`
    intro hnone _ hactive
    rw [← hlast hnone, hhead, sentReplies_handle, hnew, List.getElem?_append_right (Nat.le_refl _),
      Nat.sub_self] at hactive
    cases hactive
  · exact ⟨0, 0, rest, rfl, h.no_paints hchan nofun, fun hn => absurd rfl hn⟩

theorem Inv.handle_deactivate {s : State} (h : Inv s) {rest : List ServerMsg}
    (hchan : s.toClient = .deactivate :: rest) {client : Session}
    (hwindow : client.qt.window.isSome)
    (hconstructed : client.qt.constructed = s.client.qt.constructed)
    (hlog : client.log = s.client.log ++ [.deactivated]) :
    Inv (s.handle rest client s.built) := by
  have hnew := newNotifications_eq hlog
  refine h.handle hchan hwindow (by rw [hconstructed, h.built]) ?_ ?_ ?_
  · rw [hnew]
    rfl
  · -- with no fd behind it, the server knows of the deactivate
    intro hnone hdeactivated _
    have hflight : s.toClient.filterMap ServerMsg.fdNumber = [] := by
      rw [hchan]
      exact hnone
    have hmem := h.noDeactivate hdeactivated _ List.suffix_rfl hflight
    rw [hchan] at hmem
    exact absurd List.mem_cons_self hmem
  · exact ⟨0, 0, rest, rfl, h.no_paints hchan nofun, fun hn => absurd rfl hn⟩

theorem Inv.handle_paint {s : State} (h : Inv s) {k : Nat} {rest : List ServerMsg}
    (hchan : s.toClient = .paintPixmap k :: rest) :
    Inv (s.handle rest s.client s.built) := by
  have hnew := newNotifications_self s.client
  have hfrom : ∀ j, BuiltFrom s j → BuiltFrom (s.handle rest s.client s.built) j :=
    fun j hj => hj.of_eq rfl rfl List.prefix_rfl
  refine h.handle hchan h.window h.built ?_ ?_ ?_
  · rw [hnew]
    rfl
  · intro hnone hdeactivated hactive
    apply hfrom
    apply h.current ?_ hdeactivated
    · rwa [sentReplies_handle, hnew, List.filter_nil, List.append_nil] at hactive
    · rw [State.fdsInFlight, hchan]
      exact hnone
  · obtain ⟨n, j, more, hsplit, hmore, hj⟩ := h.paints
    cases n with
    | zero =>
        have heq : s.toClient = more := hsplit
        rw [hchan] at heq
        exact absurd (heq ▸ List.mem_cons_self) (hmore k)
    | succ n =>
        rw [hchan, List.replicate_succ, List.cons_append, List.cons.injEq] at hsplit
        exact ⟨n, j, more, hsplit.2, hmore, fun _ => hfrom j (hj (Nat.succ_ne_zero n))⟩

theorem inv_step {s s' : State} {a : Action} (h : Inv s) (hstep : step s a = some s') :
    Inv s' := by
  cases a with
  | sendFd pixmap =>
      obtain rfl : s.sendFd pixmap = s' := by simpa [step] using hstep
      exact h.sendFd pixmap
  | sendDeactivate =>
      obtain rfl : s.sendDeactivate = s' := by simpa [step] using hstep
      exact h.sendDeactivate
  | sendPaint =>
      by_cases hmay : MayPaint s
      · obtain rfl : s.sendPaint = s' := by simpa [step, hmay] using hstep
        exact h.sendPaint hmay
      · simp [step, hmay] at hstep
  | serverReceives =>
      cases hchan : s.toServer with
      | nil => simp [step, hchan] at hstep
      | cons n rest =>
          obtain rfl : s.receive n rest = s' := by simpa [step, hchan] using hstep
          exact h.receive hchan
  | clientRequests =>
      obtain rfl : s.request = s' := by simpa [step] using hstep
      exact h.request
  | clientHandles construction =>
      cases hchan : s.toClient with
      | nil => simp [step, hchan] at hstep
      | cons msg rest =>
          cases msg with
          | pixmapFd k pixmap =>
              simp only [step, hchan, Option.map_eq_some_iff] at hstep
              obtain ⟨client, hcallback, rfl⟩ := hstep
              cases DmaBuf.step_effect h.window hcallback with
              | enabled _ _ hwindow hegl hdisabled hconstructed hlog =>
                  exact h.handle_fd_ok hchan hwindow hegl hconstructed hlog
              | failed what _ _ hqt hlog => exact h.handle_fd_error hchan hqt hlog
          | deactivate =>
              simp only [step, hchan, Option.map_eq_some_iff] at hstep
              obtain ⟨client, hcallback, rfl⟩ := hstep
              cases DmaBuf.step_effect h.window hcallback with
              | disabled _ hwindow hegl hdisabled hconstructed hlog =>
                  exact h.handle_deactivate hchan hwindow hconstructed hlog
          | paintPixmap k =>
              simp only [step, hchan, Option.map_eq_some_iff] at hstep
              obtain ⟨client, hcallback, rfl⟩ := hstep
              cases DmaBuf.step_effect h.window hcallback with
              | painted hegl => exact h.handle_paint hchan

theorem inv_of_reachable {framebuffer : QImage} {s : State}
    (hreach : (machine framebuffer).Reachable s) : Inv s :=
  hreach.invariant (inv_start framebuffer) fun _ h _ hstep => inv_step h hstep

/-! ## Paints find their buffer -/

/-- Whenever a paint is the next message that the client handles, `paint_dma_buf`
does not throw, and the `EGLState` it renders from was built from the fd that
was the server's latest when it sent the paint. -/
theorem paint_finds_egl (framebuffer : QImage) {s : State}
    (hreach : (machine framebuffer).Reachable s) {k : Nat} {rest : List ServerMsg}
    (hpaint : s.toClient = .paintPixmap k :: rest) :
    ∃ egl, s.client.qt.paintDmaBuf = .ok egl ∧ s.built[egl.id]? = some k ∧
      s.fds[k]? = some egl.pixmap := by
  have hfrom : BuiltFrom s k := by
    obtain ⟨n, j, more, hsplit, hmore, hj⟩ := (inv_of_reachable hreach).paints
    cases n with
    | zero =>
        have heq : s.toClient = more := hsplit
        rw [hpaint] at heq
        exact absurd (heq ▸ List.mem_cons_self) (hmore k)
    | succ n =>
        rw [hpaint, List.replicate_succ, List.cons_append, List.cons.injEq,
          ServerMsg.paintPixmap.injEq] at hsplit
        rw [hsplit.1]
        exact hj (Nat.succ_ne_zero n)
  obtain ⟨egl, hegl, hbuilt, hfd⟩ := hfrom
  refine ⟨egl, ?_, hbuilt, hfd⟩
  rw [QtState.paintDmaBuf, hegl]

/-- One fd is answered and painted from; then a second one and a deactivate are
sent before the client handles the paint. -/
def paintInFlight : List Action :=
  [.sendFd ⟨7, 64, 48, 256, 12288, 875713112⟩, .clientHandles (.ok ()), .serverReceives,
    .sendPaint, .sendFd ⟨8, 64, 48, 256, 12288, 875713112⟩, .sendDeactivate]

theorem paint_finds_egl_superseded :
    ∃ s, (machine ⟨1, 1, fun _ _ => 0⟩).run (machine ⟨1, 1, fun _ _ => 0⟩).start
        paintInFlight = some s ∧
      s.toClient = [.paintPixmap 0, .pixmapFd 1 ⟨8, 64, 48, 256, 12288, 875713112⟩,
        .deactivate] ∧
      ∃ egl, s.client.qt.paintDmaBuf = .ok egl ∧ s.built[egl.id]? = some 0 ∧
        s.fds[0]? = some egl.pixmap := by
  have hexec : ∃ s, (machine ⟨1, 1, fun _ _ => 0⟩).run (machine ⟨1, 1, fun _ _ => 0⟩).start
      paintInFlight = some s ∧ s.toClient = [.paintPixmap 0,
        .pixmapFd 1 ⟨8, 64, 48, 256, 12288, 875713112⟩, .deactivate] := ⟨_, rfl, rfl⟩
  obtain ⟨s, hrun, hpaint⟩ := hexec
  exact ⟨s, hrun, hpaint, paint_finds_egl _ (Machine.reachable_of_run hrun) hpaint⟩

end XrdpLocal.DmaBuf.Protocol
