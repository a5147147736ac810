import XrdpLocal.Threads.Display
/-!
# What the screen shows

While the window takes updates, the screen shows the framebuffer wherever Qt
has not been asked to repaint, and with it the last frame of the server. While
it does not, the screen shows the pixmap rendered last.
-/

namespace XrdpLocal.Threads

open StateMachine XrdpLocal.Qt
open XrdpLocal.Egl (OpenGL)

variable {cfg : Config} {gl : OpenGL} {s s' : State} {a : Action} {swap : Option Swap}
  {screen : QImage} {d d' : Display}

/-! ## Framebuffer and renderings -/

@[simp] theorem threads_advance (gl : OpenGL) (d : Display) (a : Action) (swap : Option Swap)
    (s' : State) : (d.advance gl a swap s').threads = s' := by
  unfold Display.advance
  cases d.rendering a swap s' <;> rfl

theorem refines_threads (cfg : Config) (gl : OpenGL) (screen : QImage) :
    Machine.Simulation (displayMachine cfg gl screen) (machine cfg) NoThrowThread NoThrow
      fun d s => d.threads = s := by
  refine ⟨rfl, ?_⟩
  intro d d' action s hreach heq hok hstep
  subst heq
  cases action with
  | thread a swap =>
      obtain ⟨s', hthreads, rfl⟩ := Option.map_eq_some_iff.mp hstep
      refine ⟨[a], s', ?_, ?_, threads_advance gl d a swap s'⟩
      · simp [machine, hthreads]
      · exact fun u hu => ⟨hok, trivial⟩
  | expose region garbage =>
      obtain rfl := Option.some.inj hstep
      exact ⟨[], d.threads, rfl, trivial, rfl⟩
  | paintEvent region rect =>
      obtain ⟨window, _, _, _, _, _, hthreads, _⟩ := paintEvent_cases hstep
      exact ⟨[], d.threads, rfl, trivial, hthreads⟩

theorem threads_reachable (hreach : (displayMachine cfg gl screen).ReachableBy NoThrowThread d) :
    (machine cfg).ReachableBy NoThrow d.threads := by
  obtain ⟨s, hs, rfl⟩ := (refines_threads cfg gl screen).reachable hreach
  exact hs

/-- With updates, every pixel that Qt has not been asked to repaint shows the
framebuffer, and Qt has been asked for all that were lost. -/
structure Repaints (cfg : Config) (d : Display) : Prop where
  painted : d.threads.updatesEnabled = true → ∀ p ∈ d.screen.area,
    p ∈ (d.threads.framebuffer cfg).area → d.dirty p = false →
    d.screen.pixel p.1 p.2 = (d.threads.framebuffer cfg).pixel p.1 p.2
  noticed : d.threads.updatesEnabled = true → ∀ p, d.lost p = true → d.dirty p = true

/-- Without updates, every pixel of the pixmap rendered last is shown where it
belongs in the window, unless that was lost since. -/
structure Renders (d : Display) : Prop where
  shown : d.threads.updatesEnabled = false → ∀ r ∈ d.rendered, ∀ x y,
    (x, y) ∈ (Egl.pixmapImage r.pixmap r.swap.content).area →
    (x, r.row d.screen y) ∈ d.screen.area → d.lost (x, r.row d.screen y) = false →
    d.screen.pixel x (r.row d.screen y) = r.swap.content x y

structure ScreenFaithful (cfg : Config) (d : Display) : Prop where
  painted : Repaints cfg d
  rendered : Renders d

theorem updatesEnabled_mainNext (henabled : s.updatesEnabled = true)
    (hstep : s.mainNext cfg = some s') : s'.updatesEnabled = true := by
  cases hmain : s.main <;> simp only [State.mainNext, hmain] at hstep
  case createWindow =>
    rw [← Option.some.inj hstep]
    rfl
  case slotDraw n =>
    rw [← Option.some.inj hstep]
    rcases drawSlot_cases cfg s n (((s.change? n).map fun change => change.rects.length).getD 0)
      with ⟨_, heq⟩ | ⟨change, window, _, hwindow, heq⟩
    · rw [heq]
      exact henabled
    · rw [updatesEnabled_of_window hwindow] at henabled
      rw [heq]
      exact henabled
  case slotSignal n =>
    rw [← Option.some.inj hstep, State.signalSlot]
    cases s.change? n <;> exact henabled
  case deleteEgl =>
    rw [← Option.some.inj hstep, State.updatesEnabled, QtState.window_deleteEgl]
    exact henabled
  case join =>
    cases hcomm : s.comm <;> simp only [hcomm, reduceCtorEq, Option.some.injEq] at hstep
    rw [← hstep]
    exact henabled
  all_goals simp only [reduceCtorEq, Option.some.injEq] at hstep
  all_goals
    rw [← hstep]
    exact henabled

theorem updatesEnabled_commNext (henabled : s.updatesEnabled = true)
    (hno : s.disables .comm = false) (hstep : s.commNext cfg = some s') :
    s'.updatesEnabled = true := by
  cases hcomm : s.comm <;> simp only [State.commNext, hcomm] at hstep
  case disablePaint => simp [State.disables, hcomm] at hno
  case enablePaint =>
    cases hwindow : s.qt.window with
    | none =>
        rw [State.updatesEnabled, hwindow] at henabled
        cases henabled
    | some window =>
        rw [State.disablePaint_of_window hwindow] at hstep
        rw [← Option.some.inj hstep]
        rfl
  case clearEgl =>
    rw [← Option.some.inj hstep, State.updatesEnabled, QtState.window_clearEgl]
    exact henabled
  all_goals grind [State.emitPaintRects, State.appQuit, State.crash, QtState.newEgl,
    State.updatesEnabled]

theorem disables_of_step (hstep : step cfg s a = some s') (henabled : s.updatesEnabled = true)
    (hdisabled' : s'.updatesEnabled = false) : s.disables a = true := by
  have hrunning := running_of_step hstep
  have hsame : s'.qt = s.qt → s.disables a = true := by
    intro hqt
    rw [State.updatesEnabled, hqt] at hdisabled'
    rw [State.updatesEnabled, hdisabled'] at henabled
    cases henabled
  simp only [step, hrunning] at hstep
  cases a with
  | main =>
      rw [updatesEnabled_mainNext henabled hstep] at hdisabled'
      cases hdisabled'
  | runSlot =>
      obtain ⟨_, n, rest, _, rfl⟩ := runSlot_cases hstep
      exact hsame rfl
  | drawThrows drawn =>
      obtain ⟨n, _, rfl⟩ := drawThrows_cases hstep
      rcases drawSlot_cases cfg s n drawn with ⟨_, heq⟩ | ⟨change, window, _, hwindow, heq⟩
      · exact hsame (by rw [heq]; rfl)
      · rw [heq] at hdisabled'
        rw [updatesEnabled_of_window hwindow] at henabled
        rw [show window.updatesEnabled = false from hdisabled'] at henabled
        cases henabled
  | leaveLoop =>
      obtain ⟨_, rfl⟩ := leaveLoop_cases hstep
      exact hsame rfl
  | comm =>
      rcases commStep_cases hstep with ⟨object, _, _, rfl⟩ | ⟨_, hnext⟩
      · exact hsame rfl
      · by_contra hno
        rw [Bool.not_eq_true] at hno
        rw [updatesEnabled_commNext henabled hno hnext] at hdisabled'
        cases hdisabled'
  | dispatch c =>
      obtain ⟨_, rfl⟩ := dispatch_cases hstep
      exact hsame rfl
  | checkWaitObjsReturns closed =>
      obtain ⟨_, rfl⟩ := checkWaitObjsReturns_cases hstep
      exact hsame rfl

theorem framebuffer_of_window (hwindow : s'.qt.window = s.qt.window) :
    s'.framebuffer cfg = s.framebuffer cfg := by
  rw [State.framebuffer, hwindow, State.framebuffer]

theorem pixel_buffer {r : Rendering} (hgl : gl.Documented) {x y : Int}
    (hmem : (x, y) ∈ (Egl.pixmapImage r.pixmap r.swap.content).area)
    (hp : (x, r.row screen y) ∈ screen.area) :
    (r.buffer gl screen).pixel x (r.row screen y) = r.swap.content x y :=
  Egl.pixel_render_of_mem hgl hmem hp

theorem Repaints.advance (h : Repaints cfg d) (hhidden : Hidden d.threads)
    (hok : NoThrow d.threads a) (hstep : step cfg d.threads a = some s') :
    Repaints cfg (d.advance gl a swap s') := by
  unfold Display.advance
  cases hrendering : d.rendering a swap s' with
  | some r =>
      have hdisabled : ¬ s'.updatesEnabled = true := by
        rw [disabled_of_rendering hhidden hstep hrendering]
        exact Bool.false_ne_true
      exact ⟨fun henabled => absurd henabled hdisabled, fun henabled => absurd henabled hdisabled⟩
  | none =>
      constructor
      · intro henabled p hscreen hfb hclean
        cases hupdates : d.threads.updates a with
        | true => simp [hupdates] at hclean
        | false =>
            simp only [hupdates, Bool.false_eq_true, if_false] at hclean
            have hwindow := window_step hupdates hok henabled hstep
            have henabled' : d.threads.updatesEnabled = true := by
              rw [State.updatesEnabled, ← hwindow]
              exact henabled
            simp only [framebuffer_of_window hwindow] at hfb ⊢
            exact h.painted henabled' p hscreen hfb hclean
      · intro henabled p hlost
        cases hupdates : d.threads.updates a with
        | true => rfl
        | false =>
            have hwindow := window_step hupdates hok henabled hstep
            refine h.noticed ?_ p hlost
            rw [State.updatesEnabled, ← hwindow]
            exact henabled

theorem Repaints.expose (h : Repaints cfg d) (region : Region) (garbage : Int → Int → UInt32) :
    Repaints cfg (d.expose region garbage) := by
  constructor
  · intro henabled p hscreen hfb hclean
    simp only [Display.expose] at henabled hscreen hfb hclean ⊢
    rw [henabled, Bool.and_true, Bool.or_eq_false_iff] at hclean
    rw [hclean.2]
    exact h.painted henabled p hscreen hfb hclean.1
  · intro henabled p hlost
    simp only [Display.expose, Bool.or_eq_true] at henabled hlost ⊢
    rcases hlost with hlost | hregion
    · exact .inl (h.noticed henabled p hlost)
    · exact .inr (by rw [hregion, henabled]; rfl)

theorem Repaints.paintEvent (h : Repaints cfg d) (hdraw : CopiesRect cfg.drawImage)
    {region : Region} {rect : QRect} (hstep : d.paintEvent cfg region rect = some d') :
    Repaints cfg d' := by
  obtain ⟨window, _, hwindow, _, hwidth, hheight, hthreads, hwidth', hheight', _, hpixel⟩ :=
    paintEvent_cases hstep
  have harea : d'.screen.area = d.screen.area := area_congr hwidth' hheight'
  have hfb : d.threads.framebuffer cfg = window.framebuffer := by
    rw [State.framebuffer, hwindow]
    rfl
  constructor
  · intro henabled p hscreen hp hclean
    rw [hthreads] at henabled hp ⊢
    rw [harea] at hscreen
    rcases hpixel p with ⟨_, hrect, _, _, heq⟩ | ⟨_, hdirty, _, heq⟩
    · rw [heq, hfb]
      rw [hfb] at hp
      exact (hdraw d.screen window.framebuffer rect hwidth hheight).copied p hscreen hp hrect
    · rw [heq]
      exact h.painted henabled p hscreen hp (hdirty ▸ hclean)
  · intro henabled p hlost
    rw [hthreads] at henabled
    rcases hpixel p with ⟨_, _, _, hkept, _⟩ | ⟨_, hdirty, hsame, _⟩
    · rw [hkept] at hlost
      cases hlost
    · rw [hdirty]
      exact h.noticed henabled p (hsame ▸ hlost)

theorem repaints_of_reachable (hdraw : CopiesRect cfg.drawImage)
    (hreach : (displayMachine cfg gl screen).ReachableBy NoThrowThread d) : Repaints cfg d := by
  refine hreach.invariant (I := Repaints cfg) ?_ ?_
  · constructor <;> intro henabled <;> cases henabled
  · intro d d' action hreach h hok hstep
    cases action with
    | thread a swap =>
        obtain ⟨s', hadvance, rfl⟩ := Option.map_eq_some_iff.mp hstep
        exact h.advance (hidden_of_reachable (threads_reachable hreach)) hok hadvance
    | expose region garbage =>
        obtain rfl := Option.some.inj hstep
        exact h.expose region garbage
    | paintEvent region rect => exact h.paintEvent hdraw hstep

theorem Renders.advance (h : Renders d) (hgl : gl.Documented)
    (hstep : step cfg d.threads a = some s') : Renders (d.advance gl a swap s') := by
  unfold Display.advance
  cases d.rendering a swap s' with
  | some r =>
      refine ⟨fun _ r' hr x y hmem hp _ => ?_⟩
      obtain rfl := Option.some.inj hr
      exact pixel_buffer hgl hmem hp
  | none =>
      refine ⟨fun hdisabled r hr x y hmem hp hkept => ?_⟩
      cases hdisables : d.threads.disables a with
      | true => simp [hdisables] at hr
      | false =>
          simp only [hdisables, Bool.false_eq_true, if_false] at hr
          refine h.shown ?_ r hr x y hmem hp hkept
          by_contra henabled
          rw [Bool.not_eq_false] at henabled
          rw [disables_of_step hstep henabled hdisabled] at hdisables
          cases hdisables

theorem Renders.expose (h : Renders d) (region : Region) (garbage : Int → Int → UInt32) :
    Renders (d.expose region garbage) := by
  refine ⟨fun hdisabled r hr x y hmem hp hkept => ?_⟩
  simp only [Display.expose, Bool.or_eq_false_iff] at hkept
  have hregion : region (x, r.row d.screen y) = false := hkept.2
  have hshown := h.shown hdisabled r hr x y hmem hp hkept.1
  show (if region (x, r.row d.screen y) then _ else d.screen.pixel x (r.row d.screen y)) = _
  rw [hregion]
  exact hshown

theorem Renders.paintEvent {region : Region} {rect : QRect}
    (hstep : d.paintEvent cfg region rect = some d') : Renders d' := by
  obtain ⟨window, _, hwindow, henabled, _, _, hthreads, _⟩ := paintEvent_cases hstep
  refine ⟨fun hdisabled => ?_⟩
  rw [hthreads, updatesEnabled_of_window hwindow, henabled] at hdisabled
  cases hdisabled

theorem renders_of_reachable (hgl : gl.Documented)
    (hreach : (displayMachine cfg gl screen).ReachableBy NoThrowThread d) : Renders d := by
  refine hreach.invariant (I := Renders) ?_ ?_
  · refine ⟨fun _ r hr => ?_⟩
    cases hr
  · intro d d' action _ h _ hstep
    cases action with
    | thread a swap =>
        obtain ⟨s', hadvance, rfl⟩ := Option.map_eq_some_iff.mp hstep
        exact h.advance hgl hadvance
    | expose region garbage =>
        obtain rfl := Option.some.inj hstep
        exact h.expose region garbage
    | paintEvent region rect => exact .paintEvent hstep

/-- A pixmap of one row is rendered in a window of two, and a frame painted
before that. -/
def renderedOnce : List DisplayAction :=
  ([.main, .main, .main, .main, .main, .main, .main, .comm,
    .dispatch (.paintRectsEx (pixelFrame 255 1)), .comm, .comm, .runSlot, .main, .main, .comm,
    .comm, .comm, .dispatch (.receivePixmapFd (.ok ()) ⟨3, 1, 1, 4, 4, 0⟩), .comm, .comm, .comm,
    .comm, .dispatch .paintPixmap, .comm] : List Action).map
      fun a => .thread a (some ⟨fun _ _ => 64, fun _ _ => 3⟩)

/-- In the area the screen shows the last frame drawn, where Qt has not been
asked to repaint, and everywhere after any paint event that covers the area. -/
structure ShowsLastFrame (area : Set (Int × Int)) (cfg : Config) (d : Display) : Prop where
  clean : d.threads.updatesEnabled = true → ∀ p ∈ d.threads.drawnPaints.getLast?, ∀ a ∈ area,
    d.dirty a = false → d.screen.pixel a.1 a.2 = p.frame.pixel a.1 a.2
  repainted : ∀ region rect d', d.paintEvent cfg region rect = some d' →
    (∀ a ∈ area, region a = true ∧ a ∈ rect.pixels) →
    ∀ p ∈ d'.threads.drawnPaints.getLast?, ∀ a ∈ area,
      d'.screen.pixel a.1 a.2 = p.frame.pixel a.1 a.2

theorem area_screen_of_reachable
    (hreach : (displayMachine cfg gl screen).ReachableBy NoThrowThread d) :
    d.screen.area = screen.area := by
  refine hreach.invariant (I := fun d => d.screen.area = screen.area) rfl ?_
  intro d d' action _ h _ hstep
  cases action with
  | thread a swap =>
      obtain ⟨s', _, rfl⟩ := Option.map_eq_some_iff.mp hstep
      rw [← h]
      unfold Display.advance
      cases d.rendering a swap s' <;> rfl
  | expose region garbage =>
      obtain rfl := Option.some.inj hstep
      exact h
  | paintEvent region rect =>
      obtain ⟨_, _, _, _, _, _, _, hwidth, hheight, _⟩ := paintEvent_cases hstep
      rw [← h]
      exact area_congr hwidth hheight

theorem shows_last_frame {area : Set (Int × Int)} (hdraw : CopiesRect cfg.drawImage)
    (harea : area ⊆ cfg.framebuffer.area) (hscreen : area ⊆ screen.area)
    (hreach : (displayMachine cfg gl screen).ReachableBy NoThrowThread d)
    (hserver : Incremental area d.threads.callbacks) : ShowsLastFrame area cfg d := by
  have hrepaints := repaints_of_reachable hdraw hreach
  have hshows := showsFrame_drawnPaints hdraw harea (threads_reachable hreach) hserver
  have harea' : area ⊆ d.screen.area := by
    rw [area_screen_of_reachable hreach]
    exact hscreen
  constructor
  · intro henabled p hp a ha hclean
    have hframe := hshows p hp
    calc
      d.screen.pixel a.1 a.2 = (d.threads.framebuffer cfg).pixel a.1 a.2 :=
        hrepaints.painted henabled a (harea' ha) (hframe.inside ha) hclean
      _ = p.frame.pixel a.1 a.2 := hframe.pixel a ha
  · intro region rect d' hstep hcovers p hp a ha
    obtain ⟨window, _, hwindow, _, hwidth, hheight, hthreads, _, _, _, hpixel⟩ :=
      paintEvent_cases hstep
    have hfb : d.threads.framebuffer cfg = window.framebuffer := by
      rw [State.framebuffer, hwindow]
      rfl
    rw [hthreads] at hp
    have hframe := hshows p hp
    rw [hfb] at hframe
    rcases hpixel a with ⟨_, hrect, _, _, heq⟩ | ⟨hnot, _⟩
    · have hcopied := hdraw d.screen window.framebuffer rect hwidth hheight
      calc
        d'.screen.pixel a.1 a.2 =
            (cfg.drawImage d.screen rect window.framebuffer rect).pixel a.1 a.2 := heq
        _ = window.framebuffer.pixel a.1 a.2 :=
          hcopied.copied a (harea' ha) (hframe.inside ha) hrect
        _ = p.frame.pixel a.1 a.2 := hframe.pixel a ha
    · exact absurd (hcovers a ha) hnot

/-- Two frames, of which Qt has repainted the first when the X server loses the
window. -/
def exposedAfterTwoFrames : List DisplayAction :=
  (twoFrames.take 15).map (fun a => .thread a none) ++
    .paintEvent (fun _ => true) ⟨0, 0, 2, 1⟩ ::
    (twoFrames.drop 15).map (fun a => .thread a none) ++
    [.expose (fun _ => true) fun _ _ => 1]

theorem shows_last_frame_exposedAfterTwoFrames :
    ∃ d, (displayMachine ⟨copyRect, ⟨2, 1, fun _ _ => 0⟩⟩ Egl.exactGL ⟨2, 1, fun _ _ => 7⟩).run
        { screen := ⟨2, 1, fun _ _ => 7⟩ } exposedAfterTwoFrames = some d ∧
      d.threads.drawnPaints.map PaintRectsEx.frameId = [1, 2] ∧
      ShowsLastFrame (QImage.area ⟨2, 1, fun _ _ => 0⟩) ⟨copyRect, ⟨2, 1, fun _ _ => 0⟩⟩ d := by
  have hexec : ∃ d,
      (displayMachine ⟨copyRect, ⟨2, 1, fun _ _ => 0⟩⟩ Egl.exactGL ⟨2, 1, fun _ _ => 7⟩).run
        { screen := ⟨2, 1, fun _ _ => 7⟩ } exposedAfterTwoFrames = some d ∧
      d.threads.drawnPaints.map PaintRectsEx.frameId = [1, 2] ∧ d.threads.callbacks =
        [twoPixelFrame ⟨0, 0, 2, 1⟩ 7 7 1, twoPixelFrame ⟨1, 0, 1, 1⟩ 7 9 2] :=
    ⟨_, rfl, rfl, rfl⟩
  have hmeet :
      (displayMachine ⟨copyRect, ⟨2, 1, fun _ _ => 0⟩⟩ Egl.exactGL ⟨2, 1, fun _ _ => 7⟩).StepsMeet
        NoThrowThread { screen := ⟨2, 1, fun _ _ => 7⟩ } exposedAfterTwoFrames := by
    decide
  obtain ⟨d, hrun, hdrawn, hcallbacks⟩ := hexec
  have hreach :
      (displayMachine ⟨copyRect, ⟨2, 1, fun _ _ => 0⟩⟩ Egl.exactGL ⟨2, 1, fun _ _ => 7⟩).ReachableBy
        NoThrowThread d := .run .start hmeet hrun
  have hscreen : QImage.area ⟨2, 1, fun _ _ => 0⟩ ⊆ QImage.area ⟨2, 1, fun _ _ => 7⟩ :=
    fun _ ha => ha
  refine ⟨d, hrun, hdrawn, shows_last_frame copiesRect_copyRect subset_rfl hscreen hreach ?_⟩
  rw [hcallbacks]
  exact incremental_twoFrames _ rfl rfl

end XrdpLocal.Threads
