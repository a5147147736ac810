import XrdpLocal.Qt.Render
import XrdpLocal.Threads.Frames
import XrdpLocal.Threads.Progress
/-!
# From the framebuffer to the screen

A slot call draws into the framebuffer and asks for a repaint with `update`;
Qt calls `paintEvent` later, which copies the framebuffer to the window. The X
server may throw pixels of the window away at any time. With DMA-BUF the window
is rendered through EGL instead, and `set_disable_paint` keeps Qt off it.

`update` does nothing while updates are disabled, enabling them again calls it,
and a window with updates disabled gets no paint event.
-/

namespace XrdpLocal.Threads

open StateMachine XrdpLocal.Qt
open XrdpLocal.Egl (OpenGL)

variable {cfg : Config} {gl : OpenGL}

abbrev Region := Int × Int → Bool

def State.updatesEnabled (s : State) : Bool := s.qt.window.any QtWindow.updatesEnabled

/-- The step shows the window, or calls `update` and is heard: at the end of
`paint_rects_slot`, and where updates are enabled again. -/
def State.updates (s : State) : Action → Bool
  | .main =>
      match s.main with
      | .createWindow => true
      | .slotDraw _ => s.updatesEnabled
      | _ => false
  | .comm =>
      match s.comm with
      | .enablePaint => !s.updatesEnabled
      | _ => false
  | _ => false

def State.renders (s : State) (a : Action) (s' : State) : Bool :=
  match a, s.comm with
  | .comm, .renderEgl => s'.crashed.isNone
  | _, _ => false

def State.disables (s : State) : Action → Bool
  | .comm =>
      match s.comm with
      | .disablePaint => true
      | _ => false
  | _ => false

/-- What the shared pixmap holds when it is rendered, and the back buffer
before. -/
structure Swap where
  content : Int → Int → UInt32
  back : Int → Int → UInt32

structure Rendering where
  pixmap : DmaBufPixmap
  swap : Swap

def Rendering.buffer (gl : OpenGL) (r : Rendering) (screen : QImage) : QImage :=
  Egl.render gl r.pixmap r.swap.content { screen with pixel := r.swap.back }

/-- The row of the window where a row of the pixmap belongs. GL counts from the
bottom. -/
def Rendering.row (r : Rendering) (screen : QImage) (y : Int) : Int :=
  y + screen.height - (Egl.size r.pixmap).2

/-- The threads and the window on the screen. Qt has yet to repaint the pixels
`dirty`; the pixels `lost` were thrown away by the X server and not drawn
since. `rendered` is the last rendering shown since updates were disabled. -/
structure Display where
  threads : State := {}
  screen : QImage
  dirty : Region := fun _ => true
  lost : Region := fun _ => true
  rendered : Option Rendering := none

namespace Display

/-- The rendering that the step shows. `swap` is `none` if EGL fails to. -/
def rendering (d : Display) (a : Action) (swap : Option Swap) (s' : State) : Option Rendering :=
  if d.threads.renders a s' then
    match d.threads.qt.egl, swap with
    | some egl, some swap => some ⟨egl.pixmap, swap⟩
    | _, _ => none
  else none

def advance (gl : OpenGL) (d : Display) (a : Action) (swap : Option Swap) (s' : State) : Display :=
  match d.rendering a swap s' with
  | some r =>
      { d with
        threads := s'
        screen := { d.screen with pixel := (r.buffer gl d.screen).pixel }
        lost := fun _ => false
        rendered := some r }
  | none =>
      { d with
        threads := s'
        dirty := if d.threads.updates a then fun _ => true else d.dirty
        rendered := if d.threads.disables a then none else d.rendered }

def expose (d : Display) (region : Region) (garbage : Int → Int → UInt32) : Display :=
  { d with
    screen := { d.screen with
      pixel := fun x y => if region (x, y) then garbage x y else d.screen.pixel x y }
    dirty := fun p => d.dirty p || region p && d.threads.updatesEnabled
    lost := fun p => d.lost p || region p }

/-- `paintEvent` for an event with this rectangle. What it draws is clipped to
the region of the event. -/
def paintEvent (cfg : Config) (d : Display) (region : Region) (rect : QRect) : Option Display :=
  match d.threads.crashed, d.threads.main, d.threads.qt.window with
  | none, .eventLoop, some window =>
      if window.updatesEnabled ∧ 0 < rect.width ∧ 0 < rect.height then
        let painted := cfg.drawImage d.screen rect window.framebuffer rect
        let clip : Region := fun p => region p && decide (p ∈ rect.pixels)
        some { d with
          screen := { d.screen with
            pixel := fun x y => if clip (x, y) then painted.pixel x y else d.screen.pixel x y }
          dirty := fun p => d.dirty p && !clip p
          lost := fun p => d.lost p && !clip p }
      else none
  | _, _, _ => none

end Display

inductive DisplayAction
  | thread (a : Action) (swap : Option Swap)
  | expose (region : Region) (garbage : Int → Int → UInt32)
  | paintEvent (region : Region) (rect : QRect)

def displayStep (cfg : Config) (gl : OpenGL) (d : Display) : DisplayAction → Option Display
  | .thread a swap => (step cfg d.threads a).map fun s' => d.advance gl a swap s'
  | .expose region garbage => some (d.expose region garbage)
  | .paintEvent region rect => d.paintEvent cfg region rect

/-- The window is still to be shown, and its pixels are anything. -/
def displayMachine (cfg : Config) (gl : OpenGL) (screen : QImage) :
    Machine Display DisplayAction where
  start := { screen := screen }
  step := displayStep cfg gl

def NoThrowThread (d : Display) : DisplayAction → Prop
  | .thread a _ => NoThrow d.threads a
  | _ => True

instance (d : Display) (action : DisplayAction) : Decidable (NoThrowThread d action) :=
  match action with
  | .thread a _ => inferInstanceAs (Decidable (NoThrow d.threads a))
  | .expose _ _ | .paintEvent _ _ => .isTrue trivial

variable {s s' : State} {a : Action} {screen : QImage} {d d' : Display}

/-! ## The steps -/

theorem paintEvent_cases {region : Region} {rect : QRect}
    (hstep : d.paintEvent cfg region rect = some d') :
    ∃ window, d.threads.main = .eventLoop ∧ d.threads.qt.window = some window ∧
      window.updatesEnabled = true ∧ 0 < rect.width ∧ 0 < rect.height ∧
      d'.threads = d.threads ∧ d'.screen.width = d.screen.width ∧
      d'.screen.height = d.screen.height ∧ d'.rendered = d.rendered ∧
      ∀ p : Int × Int,
        (region p = true ∧ p ∈ rect.pixels ∧ d'.dirty p = false ∧ d'.lost p = false ∧
          d'.screen.pixel p.1 p.2 =
            (cfg.drawImage d.screen rect window.framebuffer rect).pixel p.1 p.2) ∨
        (¬ (region p = true ∧ p ∈ rect.pixels) ∧ d'.dirty p = d.dirty p ∧ d'.lost p = d.lost p ∧
          d'.screen.pixel p.1 p.2 = d.screen.pixel p.1 p.2) := by
  unfold Display.paintEvent at hstep
  split at hstep
  · next window hcrashed hmain hwindow =>
      rw [Option.ite_none_right_eq_some] at hstep
      obtain ⟨⟨henabled, hwidth, hheight⟩, heq⟩ := hstep
      rw [← Option.some.inj heq]
      refine ⟨window, hmain, hwindow, henabled, hwidth, hheight, rfl, rfl, rfl, rfl, fun p => ?_⟩
      by_cases hclip : region p = true ∧ p ∈ rect.pixels
      · exact .inl ⟨hclip.1, hclip.2, by simp [hclip], by simp [hclip], by simp [hclip]⟩
      · have hno : (region p && decide (p ∈ rect.pixels)) = false := by simpa using hclip
        exact .inr ⟨hclip, by simp [hno], by simp [hno], by simp [hno]⟩
  · cases hstep

theorem updatesEnabled_of_window {window : QtWindow} (hwindow : s.qt.window = some window) :
    s.updatesEnabled = window.updatesEnabled := by
  rw [State.updatesEnabled, hwindow]
  rfl

theorem window_mainNext (hno : s.updates .main = false) (henabled' : s'.updatesEnabled = true)
    (hstep : s.mainNext cfg = some s') : s'.qt.window = s.qt.window := by
  cases hmain : s.main <;> simp only [State.mainNext, hmain] at hstep
  case createWindow => simp [State.updates, hmain] at hno
  case slotDraw n =>
    simp only [State.updates, hmain] at hno
    rw [← Option.some.inj hstep] at henabled' ⊢
    rcases drawSlot_cases cfg s n (((s.change? n).map fun change => change.rects.length).getD 0)
      with ⟨_, heq⟩ | ⟨change, window, _, hwindow, heq⟩
    · rw [heq]
      rfl
    · rw [heq] at henabled'
      rw [updatesEnabled_of_window hwindow] at hno
      have hsame : window.updatesEnabled = true := henabled'
      rw [hsame] at hno
      cases hno
  case slotSignal n =>
    rw [← Option.some.inj hstep, State.signalSlot]
    cases s.change? n <;> rfl
  case deleteEgl =>
    rw [← Option.some.inj hstep]
    exact QtState.window_deleteEgl s.qt
  case join =>
    cases hcomm : s.comm <;> simp only [hcomm, reduceCtorEq, Option.some.injEq] at hstep
    rw [← hstep]
  all_goals simp only [reduceCtorEq, Option.some.injEq] at hstep
  all_goals rw [← hstep]

theorem window_commNext (hno : s.updates .comm = false) (henabled' : s'.updatesEnabled = true)
    (hstep : s.commNext cfg = some s') : s'.qt.window = s.qt.window := by
  cases hcomm : s.comm <;> simp only [State.commNext, hcomm] at hstep
  case disablePaint =>
    cases hwindow : s.qt.window with
    | none =>
        rw [State.disablePaint, QtState.setDisablePaint, hwindow] at hstep
        rw [← Option.some.inj hstep]
        exact hwindow
    | some window =>
        rw [State.disablePaint_of_window hwindow] at hstep
        rw [← Option.some.inj hstep] at henabled'
        cases henabled'
  case enablePaint =>
    simp only [State.updates, hcomm, Bool.not_eq_false'] at hno
    cases hwindow : s.qt.window with
    | none =>
        rw [State.updatesEnabled, hwindow] at hno
        cases hno
    | some window =>
        rw [updatesEnabled_of_window hwindow] at hno
        rw [State.disablePaint_of_window hwindow] at hstep
        rw [← Option.some.inj hstep]
        show some (window.setDisablePaint false) = some window
        rw [QtWindow.setDisablePaint, Bool.not_false, ← hno]
  case clearEgl =>
    rw [← Option.some.inj hstep]
    exact QtState.window_clearEgl s.qt
  all_goals grind [State.emitPaintRects, State.appQuit, State.crash, QtState.newEgl]

/-- Without a repaint, a window that takes updates shows what it did. -/
theorem window_step (hno : s.updates a = false) (hok : NoThrow s a)
    (henabled' : s'.updatesEnabled = true) (hstep : step cfg s a = some s') :
    s'.qt.window = s.qt.window := by
  have hrunning := running_of_step hstep
  simp only [step, hrunning] at hstep
  cases a with
  | main => exact window_mainNext hno henabled' hstep
  | runSlot =>
      obtain ⟨_, n, rest, _, rfl⟩ := runSlot_cases hstep
      rfl
  | drawThrows drawn => exact absurd rfl (hok drawn)
  | leaveLoop =>
      obtain ⟨_, rfl⟩ := leaveLoop_cases hstep
      rfl
  | comm =>
      rcases commStep_cases hstep with ⟨object, _, _, rfl⟩ | ⟨_, hnext⟩
      · rfl
      · exact window_commNext hno henabled' hnext
  | dispatch c =>
      obtain ⟨_, rfl⟩ := dispatch_cases hstep
      rfl
  | checkWaitObjsReturns closed =>
      obtain ⟨_, rfl⟩ := checkWaitObjsReturns_cases hstep
      rfl

/-! ## DMA-BUF hides the framebuffer -/

/-- While there is an `EGLState` the window takes no updates, apart from the
two statements between its construction and `set_disable_paint`. -/
structure Hidden (s : State) : Prop where
  window : s.qt.egl.isSome → s.qt.window.isSome
  disabled : s.qt.egl.isSome → s.comm = .disablePaint ∨ s.updatesEnabled = false
  cleared : s.comm = .enablePaint → s.qt.egl = none

theorem Hidden.of_qt (h : Hidden s) (hqt : s'.qt = s.qt)
    (hdisable : s.comm = .disablePaint → s'.comm = .disablePaint)
    (hcleared : s'.comm = .enablePaint → s.comm = .enablePaint) : Hidden s' := by
  refine ⟨?_, ?_, ?_⟩
  · rw [hqt]
    exact h.window
  · rw [State.updatesEnabled, hqt]
    exact fun hsome => (h.disabled hsome).imp hdisable id
  · rw [hqt]
    exact fun hcomm => h.cleared (hcleared hcomm)

theorem hidden_mainNext (h : Hidden s) (hstarted : Started s) (hstep : s.mainNext cfg = some s') :
    Hidden s' := by
  have hegl := egl_mainNext hstep
  have heffect := mainNext_effect hstarted hstep
  have hcomm := comm_of_mainEffect heffect
  have hstarted' : Started s' := started_mainNext hstarted hstep
  refine ⟨fun hsome => ?_, fun hsome => ?_, fun hcleared => ?_⟩
  · rw [hegl] at hsome
    exact window_of_stage_le hstarted hstarted' (stage_of_mainEffect heffect) (h.window hsome)
  · rw [hegl] at hsome
    have hwindow := h.window hsome
    rcases h.disabled hsome with hdisable | hdisabled
    · rcases hcomm with heq | ⟨hnot, _⟩
      · exact .inl (heq.trans hdisable)
      · rw [hdisable] at hnot
        cases hnot
    · right
      by_contra henabled'
      have hno : s.updates .main = false := by
        cases hmain : s.main <;> simp only [State.updates, hmain]
        case createWindow =>
          rw [hstarted.window, hmain] at hwindow
          exact absurd hwindow (by decide)
        case slotDraw n => exact hdisabled
      rw [Bool.not_eq_false] at henabled'
      have hsame := window_mainNext hno henabled' hstep
      rw [State.updatesEnabled, hsame] at henabled'
      rw [State.updatesEnabled, henabled'] at hdisabled
      cases hdisabled
  · rw [hegl]
    rcases hcomm with heq | ⟨_, heq⟩ <;> rw [heq] at hcleared
    · exact h.cleared hcleared
    · cases hcleared

theorem hidden_commNext (h : Hidden s) (hstep : s.commNext cfg = some s') : Hidden s' := by
  cases hcomm : s.comm <;> simp only [State.commNext, hcomm] at hstep
  case disablePaint =>
    cases hw : s.qt.window with
    | none =>
        rw [State.disablePaint, QtState.setDisablePaint, hw] at hstep
        rw [← Option.some.inj hstep]
        exact h.of_qt rfl id id
    | some window =>
        rw [State.disablePaint_of_window hw] at hstep
        rw [← Option.some.inj hstep]
        exact ⟨fun _ => rfl, fun _ => .inr rfl, by simp⟩
  case enablePaint =>
    have hnone := h.cleared hcomm
    cases hw : s.qt.window with
    | none =>
        rw [State.disablePaint, QtState.setDisablePaint, hw] at hstep
        rw [← Option.some.inj hstep]
        exact h.of_qt rfl id id
    | some window =>
        rw [State.disablePaint_of_window hw] at hstep
        rw [← Option.some.inj hstep]
        constructor <;> simp [hnone]
  case clearEgl =>
    rw [← Option.some.inj hstep]
    constructor <;> simp
  case constructEgl construction pixmap =>
    cases hw : s.qt.window with
    | none =>
        rw [hw] at hstep
        rw [← Option.some.inj hstep]
        exact h.of_qt rfl id id
    | some window =>
        cases construction with
        | ok =>
            rw [hw] at hstep
            rw [← Option.some.inj hstep]
            exact ⟨fun _ => by simp [hw], fun _ => .inl rfl, by simp⟩
        | error what =>
            rw [hw] at hstep
            rw [← Option.some.inj hstep]
            exact h.of_qt rfl (by simp [hcomm]) (by simp)
  -- the others leave `qt` alone and come from and go to other statements
  all_goals refine h.of_qt ?_ ?_ ?_ <;> grind [State.emitPaintRects, State.appQuit, State.crash]

theorem hidden_step (h : Hidden s) (hstarted : Started s) (hstep : step cfg s a = some s') :
    Hidden s' := by
  have hrunning := running_of_step hstep
  have heffect := step_effect hstarted hstep
  simp only [step, hrunning] at hstep
  cases heffect with
  | main _ _ => exact hidden_mainNext h hstarted hstep
  | runSlot n rest hmain hposted => exact h.of_qt rfl id id
  | drawThrows n drawn hmain =>
      rcases drawSlot_cases cfg s n drawn with ⟨_, heq⟩ | ⟨change, window, _, hwindow, heq⟩ <;>
        rw [heq]
      · exact h.of_qt rfl id id
      · refine ⟨fun _ => rfl, fun hsome => ?_, h.cleared⟩
        have hdisabled := h.disabled hsome
        rw [updatesEnabled_of_window hwindow] at hdisabled
        exact hdisabled
  | leaveLoop hmain => exact h.of_qt rfl id id
  | comm _ _ =>
      rcases commStep_cases hstep with ⟨object, _, _, rfl⟩ | ⟨_, hnext⟩
      · exact h.of_qt rfl id id
      · exact hidden_commNext h hnext
  | dispatch c hcomm =>
      refine h.of_qt rfl (by simp [hcomm]) ?_
      cases c <;> simp [Callback.entry]
  | returned closed hcomm =>
      refine h.of_qt rfl (by simp [hcomm]) ?_
      cases closed <;> simp

theorem hidden_of_reachable {ok : State → Action → Prop}
    (hreach : (machine cfg).ReachableBy ok s) : Hidden s := by
  have hstart : Hidden (machine cfg).start := by
    constructor <;> simp [machine]
  exact hreach.invariant hstart fun hreach h _ hstep =>
    hidden_step h (started_of_reachable hreach) hstep

theorem disabled_of_rendering {r : Rendering} {swap : Option Swap} (h : Hidden d.threads)
    (hstep : step cfg d.threads a = some s') (hrendering : d.rendering a swap s' = some r) :
    s'.updatesEnabled = false := by
  have hrunning := running_of_step hstep
  simp only [step, hrunning] at hstep
  unfold Display.rendering State.renders at hrendering
  cases a with
  | comm =>
      cases hcomm : d.threads.comm <;> simp only [hcomm] at hrendering
      case renderEgl =>
        cases hegl : d.threads.qt.egl with
        | none => simp [hegl] at hrendering
        | some egl =>
            have hdisabled := (h.disabled (by rw [hegl]; rfl)).resolve_left (by simp [hcomm])
            rcases commStep_cases hstep with ⟨object, _, _, rfl⟩ | ⟨_, hnext⟩
            · exact hdisabled
            · simp only [State.commNext, hcomm, QtState.paintDmaBuf, hegl] at hnext
              rw [← Option.some.inj hnext]
              exact hdisabled
      all_goals simp at hrendering
  | _ => simp at hrendering

end XrdpLocal.Threads
