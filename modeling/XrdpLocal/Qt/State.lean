import XrdpLocal.Qt.Window
/-!
# The DMA-BUF members of `QtState`

`enable_dma_buf`, `disable_dma_buf` and `paint_dma_buf` over the pointers
`window` and `egl`. Each `EGLState` object has a number, given in the order of
construction, so that what is deleted can be told apart from what is live.
Whether a construction succeeds or throws is up to EGL.
-/

namespace XrdpLocal.Qt

structure DmaBufPixmap where
  fd : Int
  width : UInt32
  height : UInt32
  stride : UInt16
  size : UInt32
  format : UInt32
  deriving DecidableEq, Repr

structure EGLState where
  id : Nat
  pixmap : DmaBufPixmap
  deriving DecidableEq, Repr

/-- `constructed` counts the `EGLState` objects built so far and `deleted`
lists those deleted, oldest first. -/
structure QtState where
  window : Option QtWindow := none
  egl : Option EGLState := none
  constructed : Nat := 0
  deleted : List Nat := []

namespace QtState

def newEgl (qt : QtState) (pixmap : DmaBufPixmap) : QtState :=
  { qt with egl := some ⟨qt.constructed, pixmap⟩, constructed := qt.constructed + 1 }

/-- `if (egl != nullptr) delete egl`, which leaves the pointer as it is. -/
def deleteEgl (qt : QtState) : QtState :=
  match qt.egl with
  | none => qt
  | some egl => { qt with deleted := qt.deleted ++ [egl.id] }

def clearEgl (qt : QtState) : QtState := { qt.deleteEgl with egl := none }

/-- `window->set_disable_paint(disable)`; `none` when the pointer is null. -/
def setDisablePaint (qt : QtState) (disable : Bool) : Option QtState :=
  qt.window.map fun window => { qt with window := some (window.setDisablePaint disable) }

def enableDmaBuf (qt : QtState) (construction : Except String Unit)
    (pixmap : DmaBufPixmap) : Option (QtState × Bool) :=
  match qt.window with
  | none => some (qt, false)
  | some _ =>
      match construction with
      | .ok () => ((qt.newEgl pixmap).setDisablePaint true).map fun qt => (qt, true)
      | .error _ => some (qt, false)

/-- `none` means a null pointer was dereferenced. -/
def disableDmaBuf (qt : QtState) : Option QtState := qt.clearEgl.setDisablePaint false

/-- The `EGLState` that renders, or the text of the exception. -/
def paintDmaBuf (qt : QtState) : Except String EGLState :=
  match qt.egl with
  | none => .error "Can't paint using DMA-BUF: EGLState is not initialized. This is a bug."
  | some egl => .ok egl

def paintDisabled (qt : QtState) : Bool :=
  qt.window.any fun window => !window.updatesEnabled

@[simp] theorem egl_newEgl (qt : QtState) (pixmap : DmaBufPixmap) :
    (qt.newEgl pixmap).egl = some ⟨qt.constructed, pixmap⟩ := rfl

@[simp] theorem window_newEgl (qt : QtState) (pixmap : DmaBufPixmap) :
    (qt.newEgl pixmap).window = qt.window := rfl

@[simp] theorem window_deleteEgl (qt : QtState) : qt.deleteEgl.window = qt.window := by
  unfold deleteEgl
  cases qt.egl <;> rfl

@[simp] theorem egl_deleteEgl (qt : QtState) : qt.deleteEgl.egl = qt.egl := by
  unfold deleteEgl
  split <;> rfl

@[simp] theorem constructed_deleteEgl (qt : QtState) :
    qt.deleteEgl.constructed = qt.constructed := by
  unfold deleteEgl
  split <;> rfl

@[simp] theorem egl_clearEgl (qt : QtState) : qt.clearEgl.egl = none := rfl

@[simp] theorem window_clearEgl (qt : QtState) : qt.clearEgl.window = qt.window :=
  window_deleteEgl qt

@[simp] theorem constructed_clearEgl (qt : QtState) :
    qt.clearEgl.constructed = qt.constructed :=
  constructed_deleteEgl qt

/-- The `EGLState` pointed to has not been deleted, and only objects built
before have been. -/
structure EglLive (qt : QtState) : Prop where
  live : ∀ egl, qt.egl = some egl → egl.id < qt.constructed ∧ egl.id ∉ qt.deleted
  deleted : ∀ id ∈ qt.deleted, id < qt.constructed

theorem EglLive.newEgl {qt : QtState} (h : EglLive qt) (pixmap : DmaBufPixmap) :
    EglLive (qt.newEgl pixmap) := by
  constructor
  · intro egl hegl
    rw [egl_newEgl, Option.some.injEq] at hegl
    rw [← hegl]
    refine ⟨Nat.lt_succ_self _, fun hmem => ?_⟩
    exact Nat.lt_irrefl _ (h.deleted _ hmem)
  · exact fun id hmem => Nat.lt_succ_of_lt (h.deleted id hmem)

theorem EglLive.clearEgl {qt : QtState} (h : EglLive qt) : EglLive qt.clearEgl := by
  constructor
  · intro egl hegl
    rw [egl_clearEgl] at hegl
    cases hegl
  · intro id hmem
    rw [constructed_clearEgl]
    cases hegl : qt.egl with
    | none =>
        rw [QtState.clearEgl, deleteEgl, hegl] at hmem
        exact h.deleted id hmem
    | some egl =>
        rw [QtState.clearEgl, deleteEgl, hegl] at hmem
        rcases List.mem_append.mp hmem with hmem | hmem
        · exact h.deleted id hmem
        · rw [List.mem_singleton.mp hmem]
          exact (h.live egl hegl).1

theorem setDisablePaint_of_window {qt : QtState} (hwindow : qt.window.isSome)
    (disable : Bool) :
    ∃ qt', qt.setDisablePaint disable = some qt' ∧ qt'.window.isSome ∧
      qt'.paintDisabled = disable ∧ qt'.egl = qt.egl ∧
      qt'.constructed = qt.constructed ∧ qt'.deleted = qt.deleted := by
  obtain ⟨window, hw⟩ := Option.isSome_iff_exists.mp hwindow
  refine ⟨{ qt with window := some (window.setDisablePaint disable) }, ?_, rfl, ?_, rfl, rfl, rfl⟩
  · simp [setDisablePaint, hw]
  · simp [paintDisabled, QtWindow.setDisablePaint]

theorem enableDmaBuf_ok {qt : QtState} (hwindow : qt.window.isSome)
    (pixmap : DmaBufPixmap) :
    ∃ qt', qt.enableDmaBuf (.ok ()) pixmap = some (qt', true) ∧ qt'.window.isSome ∧
      qt'.paintDisabled = true ∧ qt'.egl = some ⟨qt.constructed, pixmap⟩ ∧
      qt'.constructed = qt.constructed + 1 ∧ qt'.deleted = qt.deleted := by
  obtain ⟨window, hw⟩ := Option.isSome_iff_exists.mp hwindow
  have hnew : (qt.newEgl pixmap).window.isSome := by rw [window_newEgl, hw]; rfl
  obtain ⟨qt', hset, hwindow', hdisabled, hegl, hconstructed, hdeleted⟩ :=
    setDisablePaint_of_window hnew true
  refine ⟨qt', ?_, hwindow', hdisabled, hegl, hconstructed, hdeleted⟩
  simp [enableDmaBuf, hw, hset]

theorem enableDmaBuf_error {qt : QtState} (what : String) (pixmap : DmaBufPixmap) :
    qt.enableDmaBuf (.error what) pixmap = some (qt, false) := by
  unfold enableDmaBuf
  cases qt.window <;> rfl

theorem disableDmaBuf_of_window {qt : QtState} (hwindow : qt.window.isSome) :
    ∃ qt', qt.disableDmaBuf = some qt' ∧ qt'.window.isSome ∧
      qt'.paintDisabled = false ∧ qt'.egl = none ∧
      qt'.constructed = qt.constructed ∧ qt'.deleted = qt.clearEgl.deleted := by
  have hclear : qt.clearEgl.window.isSome := by rw [window_clearEgl, hwindow]
  have hset := setDisablePaint_of_window hclear false
  rwa [constructed_clearEgl] at hset

end QtState

end XrdpLocal.Qt
