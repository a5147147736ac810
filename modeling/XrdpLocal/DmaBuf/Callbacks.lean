import XrdpLocal.Library.Machine
import XrdpLocal.Qt.State
import XrdpLocal.Xup.Events
/-!
# The DMA-BUF callbacks and their three records

`server_dma_buf_receive_pixmap_fd`, `server_dma_buf_deactivate` and
`server_dma_buf_paint_pixmap`, run one after the other on a launched client.
Whether DMA-BUF is in use is recorded three times: in `QtState::egl`, in the
updates flag of the window, and in what the server was last told. The log
keeps the notifications sent and the deactivates received, in order.
-/

namespace XrdpLocal.DmaBuf

open StateMachine XrdpLocal.Qt XrdpLocal.Xup

inductive LogEntry
  | notified (state : DmaBufNotify)
  | deactivated
  deriving DecidableEq

structure Session where
  qt : QtState
  log : List LogEntry := []

/-- A callback and, for a pixmap, how the construction of its `EGLState`
ends. -/
inductive Callback
  | receivePixmapFd (construction : Except String Unit) (pixmap : DmaBufPixmap)
  | deactivate
  | paintPixmap

def serverDmaBufReceivePixmapFd (s : Session) (construction : Except String Unit)
    (pixmap : DmaBufPixmap) : Option Session :=
  (s.qt.enableDmaBuf construction pixmap).map fun (qt, enabled) =>
    ⟨qt, s.log ++ [.notified (if enabled then .notifyActive else .notifyInactive)]⟩

def serverDmaBufDeactivate (s : Session) : Option Session :=
  s.qt.disableDmaBuf.map fun qt => ⟨qt, s.log ++ [.deactivated]⟩

/-- `none` stands for the exception of `paint_dma_buf`, which nothing
catches. -/
def serverDmaBufPaintPixmap (s : Session) : Option Session :=
  match s.qt.paintDmaBuf with
  | .error _ => none
  | .ok _ => some s

def step (s : Session) : Callback → Option Session
  | .receivePixmapFd construction pixmap => serverDmaBufReceivePixmapFd s construction pixmap
  | .deactivate => serverDmaBufDeactivate s
  | .paintPixmap => serverDmaBufPaintPixmap s

/-- The callbacks of a client whose window has just been created. -/
def machine (framebuffer : QImage) : Machine Session Callback where
  start := { qt := { window := some ⟨framebuffer, true⟩ } }
  step := step

/-- The server was last told that DMA-BUF is active, and has not deactivated
it since. -/
def ServerBelievesActive (s : Session) : Prop :=
  s.log.getLast? = some (.notified .notifyActive)

instance (s : Session) : Decidable (ServerBelievesActive s) :=
  inferInstanceAs (Decidable (_ = _))

/-- `QtState::egl` is non-null exactly when the updates are disabled, and
exactly when the server believes DMA-BUF to be active. -/
def RecordsAgree (s : Session) : Prop :=
  (s.qt.egl.isSome ↔ s.qt.paintDisabled = true) ∧
  (s.qt.egl.isSome ↔ ServerBelievesActive s)

/-- The callback is no pixmap whose construction throws while an earlier one
is active. -/
def NoFailedReplacement (s : Session) (c : Callback) : Prop :=
  ∀ what pixmap, c = .receivePixmapFd (.error what) pixmap → s.qt.egl = none

inductive Effect (s : Session) : Callback → Session → Prop
  | enabled (pixmap : DmaBufPixmap) (s' : Session) (hwindow : s'.qt.window.isSome)
      (hegl : s'.qt.egl = some ⟨s.qt.constructed, pixmap⟩) (hdisabled : s'.qt.paintDisabled = true)
      (hconstructed : s'.qt.constructed = s.qt.constructed + 1)
      (hlog : s'.log = s.log ++ [.notified .notifyActive]) :
      Effect s (.receivePixmapFd (.ok ()) pixmap) s'
  | failed (what : String) (pixmap : DmaBufPixmap) (s' : Session) (hqt : s'.qt = s.qt)
      (hlog : s'.log = s.log ++ [.notified .notifyInactive]) :
      Effect s (.receivePixmapFd (.error what) pixmap) s'
  | disabled (s' : Session) (hwindow : s'.qt.window.isSome) (hegl : s'.qt.egl = none)
      (hdisabled : s'.qt.paintDisabled = false)
      (hconstructed : s'.qt.constructed = s.qt.constructed)
      (hlog : s'.log = s.log ++ [.deactivated]) : Effect s .deactivate s'
  | painted (hegl : s.qt.egl.isSome) : Effect s .paintPixmap s

theorem step_effect {s s' : Session} {c : Callback} (hwindow : s.qt.window.isSome)
    (hstep : step s c = some s') : Effect s c s' := by
  cases c with
  | receivePixmapFd construction pixmap =>
      cases construction with
      | ok =>
          obtain ⟨qt, henable, hwin, hdisabled, hegl, hconstructed, _⟩ :=
            QtState.enableDmaBuf_ok hwindow pixmap
          simp only [step, serverDmaBufReceivePixmapFd, henable, Option.map_some,
            Option.some.injEq] at hstep
          subst s'
          exact .enabled pixmap _ hwin hegl hdisabled hconstructed rfl
      | error what =>
          simp only [step, serverDmaBufReceivePixmapFd, QtState.enableDmaBuf_error,
            Option.map_some, Option.some.injEq] at hstep
          subst s'
          exact .failed what pixmap _ rfl rfl
  | deactivate =>
      obtain ⟨qt, hdisable, hwin, hdisabled, hegl, hconstructed, _⟩ :=
        QtState.disableDmaBuf_of_window hwindow
      simp only [step, serverDmaBufDeactivate, hdisable, Option.map_some,
        Option.some.injEq] at hstep
      subst s'
      exact .disabled _ hwin hegl hdisabled hconstructed rfl
  | paintPixmap =>
      simp only [step, serverDmaBufPaintPixmap, QtState.paintDmaBuf] at hstep
      cases hegl : s.qt.egl with
      | none => simp [hegl] at hstep
      | some egl =>
          obtain rfl : s = s' := by simpa [hegl] using hstep
          exact .painted (by rw [hegl]; rfl)

theorem window_of_reachable {framebuffer : QImage} {ok : Session → Callback → Prop}
    {s : Session} (hreach : (machine framebuffer).ReachableBy ok s) :
    s.qt.window.isSome := by
  refine hreach.invariant (I := fun s => s.qt.window.isSome) (by rfl) ?_
  intro s s' c _ hwindow _ hstep
  cases step_effect hwindow hstep with
  | enabled pixmap s' hwin hegl hdisabled hconstructed hlog => exact hwin
  | failed what pixmap s' hqt hlog =>
      rw [hqt]
      exact hwindow
  | disabled s' hwin hegl hdisabled hconstructed hlog => exact hwin
  | painted hegl => exact hwindow

theorem recordsAgree_start (framebuffer : QImage) :
    RecordsAgree (machine framebuffer).start := by
  constructor <;> simp [machine, QtState.paintDisabled, ServerBelievesActive]

theorem recordsAgree_step {s s' : Session} {c : Callback} (hwindow : s.qt.window.isSome)
    (hagree : RecordsAgree s) (hok : NoFailedReplacement s c)
    (hstep : step s c = some s') : RecordsAgree s' := by
  cases step_effect hwindow hstep with
  | enabled pixmap s' hwin hegl hdisabled hconstructed hlog =>
      simp [RecordsAgree, ServerBelievesActive, hegl, hdisabled, hlog]
  | failed what pixmap s' hqt hlog =>
      have hnone : s.qt.egl = none := hok what pixmap rfl
      refine ⟨?_, ?_⟩
      · rw [hqt]
        exact hagree.1
      · simp [ServerBelievesActive, hqt, hnone, hlog]
  | disabled s' hwin hegl hdisabled hconstructed hlog =>
      simp [RecordsAgree, ServerBelievesActive, hegl, hdisabled, hlog]
  | painted hegl => exact hagree

/-- A failed replacement leaves `egl` and the disabled updates behind and
tells the server that DMA-BUF is inactive. -/
theorem not_recordsAgree_of_failedReplacement {s s' : Session} {c : Callback}
    (hwindow : s.qt.window.isSome) (hstep : step s c = some s')
    (hmiss : ¬ NoFailedReplacement s c) : ¬ RecordsAgree s' := by
  simp only [NoFailedReplacement, Classical.not_imp, not_forall] at hmiss
  obtain ⟨what, pixmap, rfl, hegl⟩ := hmiss
  cases step_effect hwindow hstep with
  | failed _ _ _ hqt hlog =>
      intro hagree
      have hbelieves := hagree.2.mp (by rw [hqt]; exact Option.isSome_iff_ne_none.mpr hegl)
      simp [ServerBelievesActive, hlog] at hbelieves

/-- The three records agree after every callback of a sequence exactly when
no construction throws while an `EGLState` is active. -/
theorem always_recordsAgree_iff (framebuffer : QImage) (callbacks : List Callback) :
    (machine framebuffer).Always RecordsAgree (machine framebuffer).start callbacks ↔
      (machine framebuffer).StepsMeet NoFailedReplacement (machine framebuffer).start
        callbacks := by
  apply Machine.sharp
  · intro s hreach
    refine hreach.invariant (I := RecordsAgree) (recordsAgree_start framebuffer) ?_
    exact fun hreach hagree hok hstep =>
      recordsAgree_step (window_of_reachable hreach) hagree hok hstep
  · intro s s' c hreach hstep hmiss
    exact not_recordsAgree_of_failedReplacement (window_of_reachable hreach) hstep hmiss

/-- A second pixmap whose `EGLState` cannot be built: the old one stays, the
window stays frozen, and the server goes back to ordinary paints. -/
theorem not_always_recordsAgree :
    ¬ ∀ s, (machine ⟨1, 1, fun _ _ => 0⟩).Reachable s → RecordsAgree s := by
  let pixmap : DmaBufPixmap := ⟨7, 1920, 1080, 7680, 8294400, 875713112⟩
  apply Machine.not_always_of_run
    [.receivePixmapFd (.ok ()) pixmap, .receivePixmapFd (.error "eglInitialize failed") pixmap]
  refine ⟨_, rfl, fun hagree => ?_⟩
  have hbelieves := hagree.2.mp rfl
  exact absurd hbelieves (by decide)

end XrdpLocal.DmaBuf
