import XrdpLocal.Qt.EglResources
import XrdpLocal.Qt.Screens
/-!
# Falling back to ordinary painting

How `launch` and `enable_dma_buf` come by the display string, and what becomes
of them without one. `x11_display` reports a missing string as a null pointer,
which both pass on to a function that reads through it. The program falls back
to ordinary painting exactly where there is a string (`fallsBack_iff`).
-/

namespace XrdpLocal.Fallback

open XrdpLocal.Egl
open XrdpLocal.Qt (DmaBufPixmap QScreen QtState displaysToUse displaysToUse_le)

/-! ## The display string -/

/-- A connection to an X server, with what `XDisplayString` returns for it.
Null pointers are `none` here and below. -/
structure X11Connection where
  displayString : Option (List Char)

structure QX11Application where
  display : Option X11Connection

/-- The interface is missing where Qt does not run on X11. -/
structure QApplication where
  nativeInterface : Option QX11Application

def x11Display (app : QApplication) : Option (List Char) :=
  match app.nativeInterface with
  | none => none
  | some x11App =>
      match x11App.display with
      | none => none
      | some display =>
          match display.displayString with
          | none => none
          | some displayName => if displayName.length = 0 then none else some displayName

/-- Qt runs on X11, is connected, and the connection has a name. -/
structure DisplayNamed (app : QApplication) : Prop where
  named : ∃ x11App display displayName, app.nativeInterface = some x11App ∧
    x11App.display = some display ∧ display.displayString = some displayName ∧
    displayName ≠ []

theorem displayNamed_iff (app : QApplication) :
    DisplayNamed app ↔ ∃ displayName, x11Display app = some displayName := by
  constructor
  · rintro ⟨x11App, display, displayName, happ, hdisplay, hname, hne⟩
    refine ⟨displayName, ?_⟩
    simp [x11Display, happ, hdisplay, hname, hne]
  · rintro ⟨displayName, h⟩
    unfold x11Display at h
    split at h
    · cases h
    · next x11App happ =>
        split at h
        · cases h
        · next display hdisplay =>
            split at h
            · cases h
            · next displayName' hname =>
                split at h
                · cases h
                · next hne =>
                    exact ⟨x11App, display, displayName', happ, hdisplay, hname,
                      fun hnil => hne (by rw [hnil]; rfl)⟩

theorem x11Display_eq_none {app : QApplication} (h : ¬ DisplayNamed app) :
    x11Display app = none := by
  rw [Option.eq_none_iff_forall_ne_some]
  exact fun displayName hname => h ((displayNamed_iff app).mpr ⟨displayName, hname⟩)

/-! ## `launch` and `enable_dma_buf` -/

/-- How a call can fail to return. Only the first is caught by a handler for
`std::exception`. -/
inductive Fault
  | exception (what : String)
  | nullDereference
  | outOfRange
  deriving DecidableEq

/-- The members of `QtState` that are read, the calls of `request_dma_buf` so
far, and what EGL and GL have handed out. -/
structure Program where
  qt : QtState := {}
  appReadyLatch : Nat := 1
  requests : Nat := 0
  ledger : Ledger Resource := {}

abbrev QtM := EStateM Fault Program

/-- Passes the display string to a function that reads its first character
before it does anything. -/
def onDisplay {α : Type} (x11Display : Option (List Char)) (f : List Char → EglM α) : QtM α :=
  fun s =>
    match x11Display with
    | none => .error .nullDereference s
    | some displayName =>
        match (f displayName).run s.ledger with
        | .ok a ledger => .ok a { s with ledger := ledger }
        | .error what ledger => .error (.exception what) { s with ledger := ledger }

def requestIfSupported (useDmaBuf : Bool) (app : QApplication) (egl : EGL) : QtM Unit := do
  if useDmaBuf then
    if ← onDisplay (x11Display app) (EGLState.isSupported egl) then
      modify fun s => { s with requests := s.requests + 1 }

def launch {K : Type} (contents : Int → Int → UInt32) (displaysToUse : Nat)
    (screens : List (QScreen K)) (useDmaBuf : Bool) (app : QApplication) (egl : EGL) :
    QtM Unit := do
  let some window := Qt.launch contents displaysToUse screens
    | throw .outOfRange
  modify fun s => { s with qt := { s.qt with window := some window } }
  modify fun s => { s with appReadyLatch := s.appReadyLatch - 1 }
  requestIfSupported useDmaBuf app egl

def setDisablePaint (disable : Bool) : QtM Unit := do
  let some qt := (← get).qt.setDisablePaint disable
    | throw .nullDereference
  modify fun s => { s with qt := qt }

/-- The `try` block of `enable_dma_buf`. -/
def buildEgl (egl : EGL) (app : QApplication) (windowId : Int) (pixmap : DmaBufPixmap) :
    QtM Bool := do
  let _ ← onDisplay (x11Display app) fun x11Display =>
    EGLState.new egl x11Display windowId pixmap
  modify fun s => { s with qt := s.qt.newEgl pixmap }
  setDisablePaint true
  return true

def reportException : Fault → QtM Bool
  | .exception _ => return false
  | fault => throw fault

def enableDmaBuf (egl : EGL) (app : QApplication) (windowId : Int) (pixmap : DmaBufPixmap) :
    QtM Bool := do
  if (← get).qt.window.isNone then
    return false
  tryCatch (buildEgl egl app windowId pixmap) reportException

/-! ## What the calls do -/

structure Supports (egl : EGL) (displayName : List Char) : Prop where
  isLocal : displayName.head? = some ':'
  display : ∃ eglDisplay, egl.eglGetDisplay (atoi displayName.tail) = some eglDisplay ∧
    egl.eglInitialize eglDisplay = true
  create : egl.eglGetProcAddress .eglCreateImageKHR = true
  target : egl.eglGetProcAddress .glEGLImageTargetTexture2DOES = true

theorem run_eglInitialize_of_false {egl : EGL} {eglDisplay : Nat}
    (h : egl.eglInitialize eglDisplay = false) (ledger : Ledger Resource) :
    (eglInitialize egl eglDisplay).run ledger = .ok false ledger := by
  simp only [eglInitialize, h]
  rfl

theorem run_eglInitialize_of_true {egl : EGL} {eglDisplay : Nat}
    (h : egl.eglInitialize eglDisplay = true) (ledger : Ledger Resource) :
    (eglInitialize egl eglDisplay).run ledger =
      .ok true (ledger.acquire (.display eglDisplay)) := by
  simp only [eglInitialize, h]
  rfl

/-- A display that can be initialised is given back before the other probes. -/
theorem run_isSupported_of_started {egl : EGL} {displayName : List Char} {eglDisplay : Nat}
    (hlocal : displayName.head? = some ':')
    (hdisplay : egl.eglGetDisplay (atoi displayName.tail) = some eglDisplay)
    (hstarted : egl.eglInitialize eglDisplay = true) (ledger : Ledger Resource) :
    (EGLState.isSupported egl displayName).run ledger =
      .ok (egl.eglGetProcAddress .eglCreateImageKHR &&
          egl.eglGetProcAddress .glEGLImageTargetTexture2DOES)
        ((ledger.acquire (.display eglDisplay)).release (.display eglDisplay)) := by
  have hrun := run_eglInitialize_of_true hstarted ledger
  cases hcreate : egl.eglGetProcAddress .eglCreateImageKHR with
  | false => simp [EGLState.isSupported, hlocal, hdisplay, hrun, hcreate]
  | true =>
      cases htarget : egl.eglGetProcAddress .glEGLImageTargetTexture2DOES with
      | false => simp [EGLState.isSupported, hlocal, hdisplay, hrun, hcreate, htarget]
      | true => simp [EGLState.isSupported, hlocal, hdisplay, hrun, hcreate, htarget]

theorem run_isSupported (egl : EGL) (displayName : List Char) (ledger : Ledger Resource) :
    ∃ supported after, (EGLState.isSupported egl displayName).run ledger = .ok supported after ∧
      after.live = ledger.live ∧ (supported = true ↔ Supports egl displayName) := by
  by_cases hlocal : displayName.head? = some ':'
  swap
  · exact ⟨false, ledger, by simp [EGLState.isSupported, hlocal], rfl,
      iff_of_false Bool.false_ne_true fun h => hlocal h.isLocal⟩
  rcases hdisplay : egl.eglGetDisplay (atoi displayName.tail) with _ | eglDisplay
  · refine ⟨false, ledger, by simp [EGLState.isSupported, hlocal, hdisplay], rfl,
      iff_of_false Bool.false_ne_true fun h => ?_⟩
    obtain ⟨eglDisplay, hsome, _⟩ := h.display
    rw [hdisplay] at hsome
    cases hsome
  cases hstarted : egl.eglInitialize eglDisplay with
  | false =>
      have hrun := run_eglInitialize_of_false hstarted ledger
      refine ⟨false, ledger, by simp [EGLState.isSupported, hlocal, hdisplay, hrun], rfl,
        iff_of_false Bool.false_ne_true fun h => ?_⟩
      obtain ⟨eglDisplay', hsome, htrue⟩ := h.display
      rw [hdisplay, Option.some.injEq] at hsome
      rw [← hsome, hstarted] at htrue
      cases htrue
  | true =>
      refine ⟨_, _, run_isSupported_of_started hlocal hdisplay hstarted ledger,
        List.erase_cons_head .., ?_⟩
      rw [Bool.and_eq_true]
      constructor
      · rintro ⟨hcreate, htarget⟩
        exact ⟨hlocal, ⟨eglDisplay, hdisplay, hstarted⟩, hcreate, htarget⟩
      · exact fun h => ⟨h.create, h.target⟩

theorem run_launch {K : Type} (contents : Int → Int → UInt32) (maxDisplays : Int)
    (screens : List (QScreen K)) (useDmaBuf : Bool) (app : QApplication) (egl : EGL)
    (s : Program) :
    ∃ window, (launch contents (displaysToUse maxDisplays screens.length) screens useDmaBuf app
        egl).run s =
      (requestIfSupported useDmaBuf app egl).run
        { s with
          qt := { s.qt with window := some window }
          appReadyLatch := s.appReadyLatch - 1 } := by
  have hwindow := Qt.launch_eq contents (displaysToUse_le maxDisplays screens.length)
  rw [launch, hwindow]
  exact ⟨_, rfl⟩

theorem run_onDisplay_null {α : Type} (f : List Char → EglM α) (s : Program) :
    (onDisplay none f).run s = .error .nullDereference s := rfl

theorem run_onDisplay_ok {α : Type} {f : List Char → EglM α} {displayName : List Char} {a : α}
    {s : Program} {ledger : Ledger Resource} (h : (f displayName).run s.ledger = .ok a ledger) :
    (onDisplay (some displayName) f).run s = .ok a { s with ledger := ledger } := by
  show onDisplay (some displayName) f s = _
  simp only [onDisplay, h]

theorem run_onDisplay_error {α : Type} {f : List Char → EglM α} {displayName : List Char}
    {what : String} {s : Program} {ledger : Ledger Resource}
    (h : (f displayName).run s.ledger = .error what ledger) :
    (onDisplay (some displayName) f).run s =
      .error (.exception what) { s with ledger := ledger } := by
  show onDisplay (some displayName) f s = _
  simp only [onDisplay, h]

theorem run_requestIfSupported_null {app : QApplication} (hnull : x11Display app = none)
    (egl : EGL) (s : Program) :
    (requestIfSupported true app egl).run s = .error .nullDereference s := by
  simp [requestIfSupported, hnull, run_onDisplay_null]

/-- What `launch` is for: there is a window, paints may begin, EGL is as it was
before, and DMA-BUF is requested only where everything speaks for it. -/
structure Launched (useDmaBuf : Bool) (app : QApplication) (egl : EGL) (before after : Program) :
    Prop where
  window : after.qt.window.isSome
  latch : after.appReadyLatch + 1 = before.appReadyLatch
  ledger : after.ledger.live = before.ledger.live
  requested : before.requests < after.requests →
    useDmaBuf = true ∧ ∃ displayName, x11Display app = some displayName ∧ Supports egl displayName

theorem run_requestIfSupported {app : QApplication} {displayName : List Char}
    (hname : x11Display app = some displayName) (useDmaBuf : Bool) (egl : EGL) (s : Program) :
    ∃ after, (requestIfSupported useDmaBuf app egl).run s = .ok () after ∧ after.qt = s.qt ∧
      after.appReadyLatch = s.appReadyLatch ∧ after.ledger.live = s.ledger.live ∧
      (s.requests < after.requests → useDmaBuf = true ∧ Supports egl displayName) := by
  cases useDmaBuf with
  | false => exact ⟨s, rfl, rfl, rfl, rfl, fun h => absurd h (Nat.lt_irrefl _)⟩
  | true =>
      obtain ⟨supported, ledger, hrun, hlive, hiff⟩ := run_isSupported egl displayName s.ledger
      have hprobe := run_onDisplay_ok hrun
      cases supported with
      | false =>
          refine ⟨{ s with ledger := ledger }, ?_, rfl, rfl, hlive,
            fun h => absurd h (Nat.lt_irrefl _)⟩
          simp [requestIfSupported, hname, hprobe]
      | true =>
          refine ⟨{ s with ledger := ledger, requests := s.requests + 1 }, ?_, rfl, rfl, hlive,
            fun _ => ⟨rfl, hiff.mp rfl⟩⟩
          simp [requestIfSupported, hname, hprobe]

structure Builds (egl : EGL) (app : QApplication) (windowId : Int) (pixmap : DmaBufPixmap)
    (s : Program) : Prop where
  window : s.qt.window.isSome
  constructor : ∃ displayName this ledger, x11Display app = some displayName ∧
    (EGLState.new egl displayName windowId pixmap).run s.ledger = .ok this ledger

section EnableDmaBuf

variable {egl : EGL} {app : QApplication} {windowId : Int} {pixmap : DmaBufPixmap} {s : Program}
  {displayName : List Char}

theorem run_buildEgl_null (hnull : x11Display app = none) :
    (buildEgl egl app windowId pixmap).run s = .error .nullDereference s := by
  rw [buildEgl, hnull, EStateM.run_bind, run_onDisplay_null]

theorem run_buildEgl_ok (hname : x11Display app = some displayName) {window : Qt.QtWindow}
    (hwindow : s.qt.window = some window) {this : EGLState} {ledger : Ledger Resource}
    (hrun : (EGLState.new egl displayName windowId pixmap).run s.ledger = .ok this ledger) :
    (buildEgl egl app windowId pixmap).run s = .ok true
      { s with
        qt := { s.qt.newEgl pixmap with window := some (window.setDisablePaint true) }
        ledger := ledger } := by
  have hnew : (onDisplay (some displayName) fun x11Display =>
      EGLState.new egl x11Display windowId pixmap).run s =
        .ok this { s with ledger := ledger } := run_onDisplay_ok hrun
  obtain ⟨⟨_, _, _, _⟩, _, _, _⟩ := s
  cases hwindow
  rw [buildEgl, hname, EStateM.run_bind, hnew]
  rfl

/-- An exception leaves the members of `QtState` as they were. -/
theorem run_buildEgl_error (hname : x11Display app = some displayName) {what : String}
    {ledger : Ledger Resource}
    (hrun : (EGLState.new egl displayName windowId pixmap).run s.ledger = .error what ledger) :
    (buildEgl egl app windowId pixmap).run s =
      .error (.exception what) { s with ledger := ledger } := by
  have hnew : (onDisplay (some displayName) fun x11Display =>
      EGLState.new egl x11Display windowId pixmap).run s =
        .error (.exception what) { s with ledger := ledger } := run_onDisplay_error hrun
  simp [buildEgl, hname, hnew]

theorem run_enableDmaBuf_of_none (hwindow : s.qt.window = none) :
    (enableDmaBuf egl app windowId pixmap).run s = .ok false s := by
  simp [enableDmaBuf, hwindow]

theorem run_enableDmaBuf_of_some {window : Qt.QtWindow} (hwindow : s.qt.window = some window) :
    (enableDmaBuf egl app windowId pixmap).run s =
      match (buildEgl egl app windowId pixmap).run s with
      | .ok enabled after => .ok enabled after
      | .error fault after => (reportException fault).run after := by
  have hbody : (enableDmaBuf egl app windowId pixmap).run s =
      (tryCatch (buildEgl egl app windowId pixmap) reportException).run s := by
    simp only [enableDmaBuf, EStateM.run_bind, EStateM.run_get, hwindow, Option.isNone_some,
      Bool.false_eq_true, if_false]
  rw [hbody]
  show EStateM.tryCatch (buildEgl egl app windowId pixmap) reportException s = _
  unfold EStateM.tryCatch
  cases hrun : buildEgl egl app windowId pixmap s with
  | ok enabled after => rw [EStateM.run, hrun]
  | error fault after => rw [EStateM.run, hrun]; rfl

theorem run_enableDmaBuf_ok (hname : x11Display app = some displayName) {window : Qt.QtWindow}
    (hwindow : s.qt.window = some window) {this : EGLState} {ledger : Ledger Resource}
    (hrun : (EGLState.new egl displayName windowId pixmap).run s.ledger = .ok this ledger) :
    (enableDmaBuf egl app windowId pixmap).run s = .ok true
      { s with
        qt := { s.qt.newEgl pixmap with window := some (window.setDisablePaint true) }
        ledger := ledger } := by
  rw [run_enableDmaBuf_of_some hwindow, run_buildEgl_ok hname hwindow hrun]

theorem run_enableDmaBuf_error (hname : x11Display app = some displayName)
    {window : Qt.QtWindow} (hwindow : s.qt.window = some window) {what : String}
    {ledger : Ledger Resource}
    (hrun : (EGLState.new egl displayName windowId pixmap).run s.ledger = .error what ledger) :
    (enableDmaBuf egl app windowId pixmap).run s = .ok false { s with ledger := ledger } := by
  rw [run_enableDmaBuf_of_some hwindow, run_buildEgl_error hname hrun]
  rfl

theorem run_enableDmaBuf (hname : x11Display app = some displayName) (egl : EGL) (windowId : Int)
    (pixmap : DmaBufPixmap) (s : Program) :
    ∃ enabled after, (enableDmaBuf egl app windowId pixmap).run s = .ok enabled after ∧
      (enabled = true ↔ Builds egl app windowId pixmap s) ∧
      (enabled = false → after.qt = s.qt) := by
  cases hwindow : s.qt.window with
  | none =>
      refine ⟨false, s, run_enableDmaBuf_of_none hwindow,
        iff_of_false Bool.false_ne_true fun h => ?_, fun _ => rfl⟩
      have hsome := h.window
      rw [hwindow] at hsome
      cases hsome
  | some window =>
      cases hrun : (EGLState.new egl displayName windowId pixmap).run s.ledger with
      | ok this ledger =>
          have hsome : s.qt.window.isSome := by rw [hwindow]; rfl
          have hbuilds : Builds egl app windowId pixmap s :=
            ⟨hsome, displayName, this, ledger, hname, hrun⟩
          exact ⟨true, _, run_enableDmaBuf_ok hname hwindow hrun, iff_of_true rfl hbuilds,
            fun h => absurd h Bool.false_ne_true.symm⟩
      | error what ledger =>
          refine ⟨false, _, run_enableDmaBuf_error hname hwindow hrun,
            iff_of_false Bool.false_ne_true fun h => ?_, fun _ => rfl⟩
          obtain ⟨displayName', this, ledger', hname', hrun'⟩ := h.constructor
          rw [hname, Option.some.injEq] at hname'
          rw [← hname', hrun] at hrun'
          cases hrun'

/-- On the members of `QtState`, this is the `enable_dma_buf` that is told how
the construction ends. -/
theorem enableDmaBuf_qtState (hname : x11Display app = some displayName)
    (hledger : s.ledger = Ledger.holding []) :
    ∃ enabled after, (enableDmaBuf egl app windowId pixmap).run s = .ok enabled after ∧
      s.qt.enableDmaBuf (construction egl displayName windowId pixmap) pixmap =
        some (after.qt, enabled) := by
  cases hwindow : s.qt.window with
  | none =>
      refine ⟨false, s, run_enableDmaBuf_of_none hwindow, ?_⟩
      simp [QtState.enableDmaBuf, hwindow]
  | some window =>
      cases hrun : (EGLState.new egl displayName windowId pixmap).run s.ledger with
      | ok this ledger =>
          refine ⟨true, _, run_enableDmaBuf_ok hname hwindow hrun, ?_⟩
          rw [hledger] at hrun
          simp [QtState.enableDmaBuf, QtState.setDisablePaint, construction, hwindow, hrun]
      | error what ledger =>
          refine ⟨false, _, run_enableDmaBuf_error hname hwindow hrun, ?_⟩
          rw [hledger] at hrun
          simp [QtState.enableDmaBuf, construction, hwindow, hrun]

theorem run_enableDmaBuf_null (hnull : x11Display app = none) {window : Qt.QtWindow}
    (hwindow : s.qt.window = some window) :
    (enableDmaBuf egl app windowId pixmap).run s = .error .nullDereference s := by
  rw [run_enableDmaBuf_of_some hwindow, run_buildEgl_null hnull]
  rfl

end EnableDmaBuf

/-! ## Falling back -/

/-- The program falls back to ordinary painting: `launch` completes from a new
`QtState`, and in every later state, whatever EGL does, `enable_dma_buf`
returns. -/
structure FallsBack {K : Type} (contents : Int → Int → UInt32) (maxDisplays : Int)
    (screens : List (QScreen K)) (useDmaBuf : Bool) (app : QApplication) (egl : EGL) : Prop where
  launch : ∀ ledger : Ledger Resource, ∃ after,
    (launch contents (displaysToUse maxDisplays screens.length) screens useDmaBuf app egl).run
        { ledger := ledger } = .ok () after ∧
      Launched useDmaBuf app egl { ledger := ledger } after
  enable : ∀ (egl' : EGL) (windowId : Int) (pixmap : DmaBufPixmap) (s : Program),
    ∃ enabled after, (enableDmaBuf egl' app windowId pixmap).run s = .ok enabled after ∧
      (enabled = true ↔ Builds egl' app windowId pixmap s) ∧
      (enabled = false → after.qt = s.qt)

section FallsBack

variable {K : Type} (contents : Int → Int → UInt32) (maxDisplays : Int)
  (screens : List (QScreen K)) (useDmaBuf : Bool) (app : QApplication) (egl : EGL)

theorem launched_of_named (hnamed : DisplayNamed app) (s : Program)
    (hlatch : 0 < s.appReadyLatch) :
    ∃ after, (launch contents (displaysToUse maxDisplays screens.length) screens useDmaBuf app
        egl).run s = .ok () after ∧ Launched useDmaBuf app egl s after := by
  obtain ⟨displayName, hname⟩ := (displayNamed_iff app).mp hnamed
  obtain ⟨window, hlaunch⟩ := run_launch contents maxDisplays screens useDmaBuf app egl s
  rw [hlaunch]
  obtain ⟨after, hrun, hqt, hready, hlive, hrequested⟩ :=
    run_requestIfSupported hname useDmaBuf egl _
  refine ⟨after, hrun, ?_, ?_, hlive, fun hmore => ?_⟩
  · rw [hqt]
    rfl
  · rw [hready]
    exact Nat.sub_add_cancel hlatch
  · obtain ⟨huse, hsupports⟩ := hrequested hmore
    exact ⟨huse, displayName, hname, hsupports⟩

/-- By itself, `launch` completes exactly where DMA-BUF is not wanted or there
is a display string. -/
theorem launch_completes_iff (s : Program) :
    (∃ after, (launch contents (displaysToUse maxDisplays screens.length) screens useDmaBuf app
        egl).run s = .ok () after) ↔ (useDmaBuf = true → DisplayNamed app) := by
  obtain ⟨window, hlaunch⟩ := run_launch contents maxDisplays screens useDmaBuf app egl s
  rw [hlaunch]
  constructor
  · rintro ⟨after, hrun⟩ rfl
    by_contra hnot
    rw [run_requestIfSupported_null (x11Display_eq_none hnot)] at hrun
    cases hrun
  · intro h
    cases useDmaBuf with
    | false => exact ⟨_, rfl⟩
    | true =>
        obtain ⟨displayName, hname⟩ := (displayNamed_iff app).mp (h rfl)
        obtain ⟨after, hrun, _⟩ := run_requestIfSupported hname true egl _
        exact ⟨after, hrun⟩

/-- The program falls back exactly where there is a display string. -/
theorem fallsBack_iff :
    FallsBack contents maxDisplays screens useDmaBuf app egl ↔ DisplayNamed app := by
  constructor
  · intro h
    by_contra hnot
    -- where `launch` completes, the window it creates is enough
    obtain ⟨s, _, hlaunched⟩ := h.launch {}
    obtain ⟨window, hwindow⟩ := Option.isSome_iff_exists.mp hlaunched.window
    obtain ⟨enabled, after, hrun, _⟩ := h.enable egl 0 ⟨0, 0, 0, 0, 0, 0⟩ s
    rw [run_enableDmaBuf_null (x11Display_eq_none hnot) hwindow] at hrun
    cases hrun
  · intro hnamed
    obtain ⟨displayName, hname⟩ := (displayNamed_iff app).mp hnamed
    constructor
    · exact fun ledger => launched_of_named contents maxDisplays screens useDmaBuf app egl hnamed
        { ledger := ledger } Nat.one_pos
    · exact fun egl' windowId pixmap s => run_enableDmaBuf hname egl' windowId pixmap s

end FallsBack

/-- Without X11, `launch` reads through the null pointer as soon as DMA-BUF is
wanted. -/
theorem not_always_fallsBack :
    ¬ ∀ (maxDisplays : Int) (screens : List (QScreen Int)) (useDmaBuf : Bool)
      (app : QApplication) (egl : EGL),
      FallsBack (fun _ _ => 0) maxDisplays screens useDmaBuf app egl := by
  intro hall
  let screen : QScreen Int := ⟨⟨0, 0, 1920, 1080⟩, ⟨508, 286⟩, .landscape, 60⟩
  obtain ⟨after, hrun, _⟩ := (hall 0 [screen] true ⟨none⟩ .working).launch {}
  have hcompletes := launch_completes_iff (fun _ _ => 0) 0 [screen] true ⟨none⟩ .working {}
  obtain ⟨x11App, _, _, happ, _⟩ := hcompletes.mp ⟨after, hrun⟩ rfl
  cases happ

end XrdpLocal.Fallback
