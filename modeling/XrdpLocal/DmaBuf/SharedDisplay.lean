import XrdpLocal.DmaBuf.Callbacks
import XrdpLocal.Qt.EglResources
/-!
# The display that all `EGLState`s share

`eglGetDisplay` gives every `EGLState` of the process the same display, and
`eglTerminate` takes it from all of them. The destructor terminates it, but so
does a constructor that fails half-way, even while an older `EGLState` renders,
and so does `is_supported`, which `launch` calls once the window is there for
the other thread. `always_served_iff` says when that shows.
-/

namespace XrdpLocal.DmaBuf.Shared

open StateMachine XrdpLocal.Qt XrdpLocal.Egl
open Ledger (holding)

/-! ## Constructions -/

/-- The arguments of a construction, and how each call of EGL ends in it. -/
structure Attempt where
  egl : EGL
  x11Display : List Char
  windowId : Int

def isDisplay : Resource → Bool
  | .display _ => true
  | _ => false

def Attempt.construction (attempt : Attempt) (pixmap : DmaBufPixmap) : Except String Unit :=
  Egl.construction attempt.egl attempt.x11Display attempt.windowId pixmap

def Attempt.terminates (attempt : Attempt) (pixmap : DmaBufPixmap) : Bool :=
  match (EGLState.new attempt.egl attempt.x11Display attempt.windowId pixmap).run (holding []) with
  | .ok _ ledger | .error _ ledger => ledger.released.any isDisplay

def Attempt.Opens (attempt : Attempt) : Prop :=
  ∃ h, Opened attempt.egl attempt.x11Display attempt.windowId h

theorem not_terminates_of_opens {attempt : Attempt} (hopens : attempt.Opens)
    (pixmap : DmaBufPixmap) : attempt.terminates pixmap = false := by
  obtain ⟨h, hopened⟩ := hopens
  by_cases himports : Imports attempt.egl (some h.eglDisplay) pixmap
  · obtain ⟨eglImage, hrun⟩ := run_new_of_imports hopened himports
    rw [Attempt.terminates, hrun]
    rfl
  · obtain ⟨what, more, hrun⟩ := run_new_throws hopened himports
    rw [Attempt.terminates, hrun]
    rfl

theorem not_terminates_of_ok {attempt : Attempt} {pixmap : DmaBufPixmap}
    (hok : attempt.construction pixmap = .ok ()) : attempt.terminates pixmap = false := by
  obtain ⟨h, hopened, _⟩ := (construction_eq_ok_iff _ _ _ _).mp hok
  exact not_terminates_of_opens ⟨h, hopened⟩ pixmap

/-- The constructor terminates the display exactly when it has got it and then
fails to open the window surface. -/
theorem terminates_iff (attempt : Attempt) (pixmap : DmaBufPixmap) :
    attempt.terminates pixmap = true ↔
      attempt.x11Display.head? = some ':' ∧
        (attempt.egl.eglGetDisplay (atoi attempt.x11Display.tail)).isSome ∧ ¬ attempt.Opens := by
  by_cases hopens : attempt.Opens
  · simp [not_terminates_of_opens hopens, hopens]
  obtain ⟨egl, x11Display, windowId⟩ := attempt
  simp only [hopens, not_false_eq_true, and_true, Attempt.terminates]
  unfold EGLState.new
  by_cases hlocal : x11Display.head? = some ':'
  swap
  · simp [hlocal]
  rcases hdisplay : egl.eglGetDisplay (atoi x11Display.tail) with _ | eglDisplay
  · simp [hlocal, hdisplay]
  rcases hstarted : egl.eglInitialize eglDisplay with _ | _
  · simp [hlocal, hdisplay, hstarted, Ledger.released_release, isDisplay]
  rcases hapi : egl.eglBindAPI with _ | _
  · simp [hlocal, hdisplay, hstarted, Ledger.released_release, isDisplay]
  rcases hconfig : egl.eglChooseConfig eglDisplay eglConfigAttribs with _ | eglConfig
  · simp [hlocal, hdisplay, hstarted, hconfig, Ledger.released_release, isDisplay]
  rcases hcontext : egl.eglCreateContext eglDisplay eglConfig eglCtxAttribs with _ | eglContext
  · simp [hlocal, hdisplay, hstarted, hconfig, hcontext, Ledger.released_release, isDisplay]
  rcases hsurface : egl.eglCreateWindowSurface eglDisplay eglConfig windowId with _ | eglSurface
  · simp [hlocal, hdisplay, hstarted, hconfig, hcontext, hsurface, Ledger.released_release,
      isDisplay]
  exact absurd ⟨⟨eglDisplay, eglConfig, eglContext, eglSurface⟩, hlocal, hdisplay, hstarted, hapi,
    hconfig, hcontext, hsurface⟩ hopens

/-! ## The probe -/

/-- The arguments of `is_supported`, and how each call of EGL ends in it. -/
structure Probe where
  egl : EGL
  x11Display : List Char

def Probe.supported (probe : Probe) : Bool :=
  match (EGLState.isSupported probe.egl probe.x11Display).run (holding []) with
  | .ok supported _ => supported
  | .error _ _ => false

def Probe.terminates (probe : Probe) : Bool :=
  match (EGLState.isSupported probe.egl probe.x11Display).run (holding []) with
  | .ok _ ledger | .error _ ledger => ledger.released.any isDisplay

/-- The probe terminates the display exactly when it could initialise it. -/
theorem Probe.terminates_iff (probe : Probe) :
    probe.terminates = true ↔
      probe.x11Display.head? = some ':' ∧
        (probe.egl.eglGetDisplay (atoi probe.x11Display.tail)).any probe.egl.eglInitialize =
          true := by
  obtain ⟨egl, x11Display⟩ := probe
  simp only [Probe.terminates]
  unfold EGLState.isSupported
  by_cases hlocal : x11Display.head? = some ':'
  swap
  · simp [hlocal]
  rcases hdisplay : egl.eglGetDisplay (atoi x11Display.tail) with _ | eglDisplay
  · simp [hlocal, hdisplay]
  rcases hstarted : egl.eglInitialize eglDisplay with _ | _
  · simp [hlocal, hdisplay, hstarted]
  rcases egl.eglGetProcAddress .eglCreateImageKHR with _ | _
  · simp [hlocal, hdisplay, hstarted, Ledger.released_release, isDisplay]
  rcases egl.eglGetProcAddress .glEGLImageTargetTexture2DOES with _ | _
  · simp [hlocal, hdisplay, hstarted, Ledger.released_release, isDisplay]
  simp [hlocal, hdisplay, hstarted, Ledger.released_release, isDisplay]

/-! ## The display -/

/-- How often the display was terminated, and for each `EGLState`, in order of
construction, how often it was before. -/
structure SharedDisplay where
  terminations : Nat
  builtAt : List Nat
  bounded : ∀ n ∈ builtAt, n ≤ terminations

namespace SharedDisplay

def fresh : SharedDisplay where
  terminations := 0
  builtAt := []
  bounded := by
    intro n hn
    cases hn

def build (display : SharedDisplay) : SharedDisplay where
  terminations := display.terminations
  builtAt := display.builtAt ++ [display.terminations]
  bounded := by
    intro n hn
    rcases List.mem_append.mp hn with hn | hn
    · exact display.bounded n hn
    · exact Nat.le_of_eq (List.mem_singleton.mp hn)

def terminate (display : SharedDisplay) : SharedDisplay where
  terminations := display.terminations + 1
  builtAt := display.builtAt
  bounded := fun n hn => Nat.le_succ_of_le (display.bounded n hn)

/-- The display was not terminated since this `EGLState` was built. -/
def Serves (display : SharedDisplay) (id : Nat) : Prop :=
  display.builtAt[id]? = some display.terminations

theorem serves_build (display : SharedDisplay) : display.build.Serves display.builtAt.length :=
  List.getElem?_concat_length

theorem not_serves_terminate (display : SharedDisplay) (id : Nat) :
    ¬ display.terminate.Serves id := by
  intro hserves
  have hle := display.bounded _ (List.mem_of_getElem? hserves)
  exact Nat.not_succ_le_self _ hle

end SharedDisplay

/-! ## Callbacks -/

inductive Callback
  | receivePixmapFd (attempt : Attempt) (pixmap : DmaBufPixmap)
  | deactivate
  | paintPixmap

def Callback.plain : Callback → DmaBuf.Callback
  | .receivePixmapFd attempt pixmap => .receivePixmapFd (attempt.construction pixmap) pixmap
  | .deactivate => .deactivate
  | .paintPixmap => .paintPixmap

/-- What a callback does to the display. The destructor terminates it. -/
def SharedDisplay.after (display : SharedDisplay) (client : Session) : Callback → SharedDisplay
  | .receivePixmapFd attempt pixmap =>
      if (attempt.construction pixmap).isOk then display.build
      else if attempt.terminates pixmap then display.terminate
      else display
  | .deactivate => if client.qt.egl.isSome then display.terminate else display
  | .paintPixmap => display

def SharedDisplay.afterProbe (display : SharedDisplay) (probe : Probe) : SharedDisplay :=
  if probe.terminates then display.terminate else display

/-- `probed` says that `launch` has called `is_supported`. -/
structure State where
  client : Session
  display : SharedDisplay
  probed : Bool := false

/-- A construction counts from its `eglInitialize`, and the probe, which is the
main thread's, from its `eglTerminate`. -/
inductive Action
  | callback (c : Callback)
  | probe (probe : Probe)

def step (s : State) : Action → Option State
  | .callback c =>
      (DmaBuf.step s.client c.plain).map fun client =>
        { s with client := client, display := s.display.after s.client c }
  | .probe probe =>
      if s.probed then none
      else some { s with display := s.display.afterProbe probe, probed := true }

def machine (framebuffer : QImage) : Machine State Action where
  start := { client := (DmaBuf.machine framebuffer).start, display := .fresh }
  step := step

def Served (client : Session) (display : SharedDisplay) : Prop :=
  ∀ egl, client.qt.egl = some egl → display.Serves egl.id

/-- Neither a construction nor the probe terminates the display while there is
an `EGLState`. -/
def NoTermination (s : State) : Action → Prop
  | .callback (.receivePixmapFd attempt pixmap) =>
      attempt.terminates pixmap = true → s.client.qt.egl = none
  | .callback _ => True
  | .probe probe => probe.terminates = true → s.client.qt.egl = none

structure Wf (client : Session) (display : SharedDisplay) : Prop where
  window : client.qt.window.isSome
  built : display.builtAt.length = client.qt.constructed

inductive Change (client : Session) (display : SharedDisplay) :
    Callback → Session → SharedDisplay → Prop
  | built (attempt : Attempt) (pixmap : DmaBufPixmap) (client' : Session)
      (hok : attempt.construction pixmap = .ok ()) (hwindow : client'.qt.window.isSome)
      (hegl : client'.qt.egl = some ⟨client.qt.constructed, pixmap⟩)
      (hconstructed : client'.qt.constructed = client.qt.constructed + 1) :
      Change client display (.receivePixmapFd attempt pixmap) client' display.build
  | terminated (attempt : Attempt) (pixmap : DmaBufPixmap) (client' : Session)
      (hfailed : attempt.construction pixmap ≠ .ok ())
      (hterminates : attempt.terminates pixmap = true) (hqt : client'.qt = client.qt) :
      Change client display (.receivePixmapFd attempt pixmap) client' display.terminate
  | failed (attempt : Attempt) (pixmap : DmaBufPixmap) (client' : Session)
      (hfailed : attempt.construction pixmap ≠ .ok ())
      (hterminates : attempt.terminates pixmap = false) (hqt : client'.qt = client.qt) :
      Change client display (.receivePixmapFd attempt pixmap) client' display
  | disabled (client' : Session) (display' : SharedDisplay) (hwindow : client'.qt.window.isSome)
      (hegl : client'.qt.egl = none) (hconstructed : client'.qt.constructed = client.qt.constructed)
      (hdisplay : display'.builtAt = display.builtAt) :
      Change client display .deactivate client' display'
  | painted (hegl : client.qt.egl.isSome) : Change client display .paintPixmap client display

theorem change_of_step {client client' : Session} {c : Callback} (hwindow : client.qt.window.isSome)
    (hstep : DmaBuf.step client c.plain = some client') (display : SharedDisplay) :
    Change client display c client' (display.after client c) := by
  have heffect := step_effect hwindow hstep
  cases c with
  | receivePixmapFd attempt pixmap =>
      simp only [Callback.plain] at heffect
      simp only [SharedDisplay.after]
      cases hresult : attempt.construction pixmap with
      | ok =>
          rw [hresult] at heffect
          simp only [Except.isOk, Except.toBool, if_true]
          cases heffect with
          | enabled _ _ hwindow hegl hdisabled hconstructed hlog =>
              exact .built attempt pixmap client' hresult hwindow hegl hconstructed
      | error what =>
          rw [hresult] at heffect
          simp only [Except.isOk, Except.toBool, Bool.false_eq_true, if_false]
          cases heffect with
          | failed _ _ _ hqt hlog =>
              have hfailed : attempt.construction pixmap ≠ .ok () := by simp [hresult]
              cases hterminates : attempt.terminates pixmap with
              | true => exact .terminated attempt pixmap client' hfailed hterminates hqt
              | false => exact .failed attempt pixmap client' hfailed hterminates hqt
  | deactivate =>
      cases heffect with
      | disabled _ hwindow hegl hdisabled hconstructed hlog =>
          refine .disabled client' _ hwindow hegl hconstructed ?_
          unfold SharedDisplay.after
          cases client.qt.egl <;> rfl
  | paintPixmap =>
      cases heffect with
      | painted hegl => exact .painted hegl

theorem Wf.change {client client' : Session} {display display' : SharedDisplay} {c : Callback}
    (h : Wf client display) (hchange : Change client display c client' display') :
    Wf client' display' := by
  cases hchange with
  | built attempt pixmap _ hok hwindow hegl hconstructed =>
      refine ⟨hwindow, ?_⟩
      rw [hconstructed, ← h.built]
      exact List.length_append
  | terminated _ _ _ _ _ hqt | failed _ _ _ _ _ hqt =>
      exact ⟨by rw [hqt]; exact h.window, by rw [hqt]; exact h.built⟩
  | disabled _ _ hwindow hegl hconstructed hdisplay =>
      exact ⟨hwindow, by rw [hdisplay, hconstructed, h.built]⟩
  | painted hegl => exact h

theorem wf_start (framebuffer : QImage) :
    Wf (DmaBuf.machine framebuffer).start SharedDisplay.fresh := ⟨rfl, rfl⟩

theorem served_build {client : Session} {display : SharedDisplay} {pixmap : DmaBufPixmap}
    (hegl : client.qt.egl = some ⟨display.builtAt.length, pixmap⟩) :
    Served client display.build := by
  intro egl h
  rw [hegl, Option.some.injEq] at h
  rw [← h]
  exact display.serves_build

/-- A new `EGLState` has its display, and an old one keeps it unless a
construction terminates it. -/
theorem Served.change {client client' : Session} {display display' : SharedDisplay} {c : Callback}
    (hserved : Served client display) (hwf : Wf client display)
    (hchange : Change client display c client' display')
    (hok : ∀ attempt pixmap, c = .receivePixmapFd attempt pixmap →
      attempt.terminates pixmap = true → client.qt.egl = none) : Served client' display' := by
  intro egl hegl
  cases hchange with
  | built attempt pixmap _ _ hwindow hnew hconstructed =>
      rw [← hwf.built] at hnew
      exact served_build hnew egl hegl
  | terminated attempt pixmap _ _ hterminates hqt =>
      rw [hqt, hok attempt pixmap rfl hterminates] at hegl
      cases hegl
  | failed attempt pixmap _ _ hterminates hqt =>
      rw [hqt] at hegl
      exact hserved egl hegl
  | disabled _ _ hwindow hnone hconstructed hdisplay =>
      rw [hnone] at hegl
      cases hegl
  | painted _ => exact hserved egl hegl

theorem not_served_of_terminated {client client' : Session} {display : SharedDisplay}
    (hqt : client'.qt = client.qt) (hegl : client.qt.egl ≠ none) :
    ¬ Served client' display.terminate := by
  obtain ⟨egl, hegl⟩ := Option.ne_none_iff_exists'.mp hegl
  intro hserved
  exact display.not_serves_terminate egl.id (hserved egl (by rw [hqt, hegl]))

theorem served_or_kept {client client' : Session} {display display' : SharedDisplay}
    {attempt : Attempt} {pixmap : DmaBufPixmap} (hwf : Wf client display)
    (hchange : Change client display (.receivePixmapFd attempt pixmap) client' display') :
    (attempt.construction pixmap = .ok () ∧ Served client' display') ∨
      (attempt.construction pixmap ≠ .ok () ∧ client'.qt = client.qt) := by
  cases hchange with
  | built _ _ _ hok hwindow hegl hconstructed =>
      rw [← hwf.built] at hegl
      exact .inl ⟨hok, served_build hegl⟩
  | terminated _ _ _ hfailed _ hqt | failed _ _ _ hfailed _ hqt => exact .inr ⟨hfailed, hqt⟩

theorem wf_afterProbe {client : Session} {display : SharedDisplay} (h : Wf client display)
    (probe : Probe) : Wf client (display.afterProbe probe) := by
  refine ⟨h.window, ?_⟩
  unfold SharedDisplay.afterProbe
  split <;> exact h.built

theorem Served.afterProbe {client : Session} {display : SharedDisplay} {probe : Probe}
    (h : Served client display) (hok : probe.terminates = true → client.qt.egl = none) :
    Served client (display.afterProbe probe) := by
  unfold SharedDisplay.afterProbe
  split
  · next hterminates =>
      intro egl hegl
      rw [hok hterminates] at hegl
      cases hegl
  · exact h

/-! ## Any callbacks -/

theorem step_cases {s s' : State} {a : Action} (hwf : Wf s.client s.display)
    (hstep : step s a = some s') :
    (∃ c, a = .callback c ∧ Change s.client s.display c s'.client s'.display) ∨
      ∃ probe, a = .probe probe ∧ s'.client = s.client ∧
        s'.display = s.display.afterProbe probe := by
  cases a with
  | callback c =>
      obtain ⟨client, hclient, rfl⟩ := Option.map_eq_some_iff.mp hstep
      exact .inl ⟨c, rfl, change_of_step hwf.window hclient s.display⟩
  | probe probe =>
      rw [step, Option.ite_none_left_eq_some] at hstep
      obtain rfl := Option.some.inj hstep.2
      exact .inr ⟨probe, rfl, rfl, rfl⟩

theorem wf_of_reachable {framebuffer : QImage} {ok : State → Action → Prop} {s : State}
    (hreach : (machine framebuffer).ReachableBy ok s) : Wf s.client s.display := by
  refine hreach.invariant (I := fun s => Wf s.client s.display) (wf_start framebuffer) ?_
  intro s s' a _ hwf _ hstep
  obtain ⟨c, _, hchange⟩ | ⟨probe, _, hclient, hdisplay⟩ := step_cases hwf hstep
  · exact hwf.change hchange
  · rw [hclient, hdisplay]
    exact wf_afterProbe hwf probe

theorem served_step {s s' : State} {a : Action} (hwf : Wf s.client s.display)
    (hserved : Served s.client s.display) (hok : NoTermination s a)
    (hstep : step s a = some s') : Served s'.client s'.display := by
  obtain ⟨c, rfl, hchange⟩ | ⟨probe, rfl, hclient, hdisplay⟩ := step_cases hwf hstep
  · refine hserved.change hwf hchange fun attempt pixmap heq => ?_
    subst c
    exact hok
  · rw [hclient, hdisplay]
    exact hserved.afterProbe hok

theorem not_served_step {s s' : State} {a : Action} (hwf : Wf s.client s.display)
    (hmiss : ¬ NoTermination s a) (hstep : step s a = some s') :
    ¬ Served s'.client s'.display := by
  obtain ⟨c, rfl, hchange⟩ | ⟨probe, rfl, hclient, hdisplay⟩ := step_cases hwf hstep
  · cases c with
    | receivePixmapFd attempt pixmap =>
        rw [NoTermination, Classical.not_imp] at hmiss
        generalize s'.display = display at hchange ⊢
        cases hchange with
        | built _ _ _ hok =>
            rw [not_terminates_of_ok hok] at hmiss
            cases hmiss.1
        | terminated _ _ _ _ _ hqt => exact not_served_of_terminated hqt hmiss.2
        | failed _ _ _ _ hnot hqt =>
            rw [hnot] at hmiss
            cases hmiss.1
    | deactivate => exact absurd trivial hmiss
    | paintPixmap => exact absurd trivial hmiss
  · rw [NoTermination, Classical.not_imp] at hmiss
    rw [hdisplay, SharedDisplay.afterProbe, if_pos hmiss.1]
    exact not_served_of_terminated (by rw [hclient]) hmiss.2

/-- The `EGLState` in use has its display after every callback and the probe,
exactly when neither a construction nor the probe terminates the display while
there is one. -/
theorem always_served_iff (framebuffer : QImage) (actions : List Action) :
    (machine framebuffer).Always (fun s => Served s.client s.display) (machine framebuffer).start
        actions ↔
      (machine framebuffer).StepsMeet NoTermination (machine framebuffer).start actions := by
  apply Machine.sharp
  · intro s hreach
    refine hreach.invariant (I := fun s => Served s.client s.display) ?_ ?_
    · intro egl hegl
      cases hegl
    · exact fun hreach hserved hok hstep => served_step (wf_of_reachable hreach) hserved hok hstep
  · exact fun s s' a hreach hstep hmiss => not_served_step (wf_of_reachable hreach) hmiss hstep

end XrdpLocal.DmaBuf.Shared
