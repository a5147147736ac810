import XrdpLocal.Threads.Steps
/-!
# Starting up while the communicator thread runs

The communicator thread starts before `launch` has created the window and
before `exec` runs. `enable_dma_buf` tests the window and `paint_rects` waits
for `app_ready_latch`; a cursor or a deactivate does neither
(`callsAfterCreate_guards`). A connection that is closed before `exec` quits
nothing (`exitsInExec_guards`).
-/

namespace XrdpLocal.Threads

open StateMachine XrdpLocal.Qt

variable {cfg : Config} {s s' : State} {a : Action}

/-! ## The window -/

/-- The next statement of the communicator thread finds the window it
dereferences. -/
def WindowNotNull (s : State) : Prop := .window ∈ s.comm.uses → s.qt.window.isSome

/-- The callbacks that dereference the window without a test or a wait. -/
def Callback.unguarded : Callback → Bool
  | .setCursorEx | .setPointerLarge | .deactivate => true
  | _ => false

def CallsAfterCreate (s : State) : Action → Prop
  | .dispatch c => c.unguarded = true → s.qt.window.isSome
  | _ => True

instance (s : State) (a : Action) : Decidable (CallsAfterCreate s a) :=
  match a with
  | .dispatch _ => inferInstanceAs (Decidable (_ → _))
  | .main | .runSlot | .drawThrows _ | .leaveLoop | .comm | .checkWaitObjsReturns _ =>
      .isTrue trivial

/-- The callback that runs needs the window, now or in its next statement. -/
def CommPc.NeedsWindow (pc : CommPc) : Prop := .window ∈ pc.uses ∨ pc = .clearEgl

theorem unguarded_of_entry {n : Nat} {c : Callback} (hneeds : (c.entry n).NeedsWindow) :
    c.unguarded = true := by
  cases c <;> simp_all [Callback.entry, Callback.unguarded, CommPc.NeedsWindow, CommPc.uses]

theorem needsWindow_of_next {pc pc' : CommPc} (hnext : pc' ∈ pc.next)
    (hneeds : pc'.NeedsWindow) : .window ∈ pc'.uses := by
  rcases hneeds with huses | rfl
  · exact huses
  · cases pc <;> simp [CommPc.next] at hnext

theorem window_of_stage_le (hstarted : Started s) (hstarted' : Started s')
    (hle : s.main.stage ≤ s'.main.stage) (hwindow : s.qt.window.isSome) :
    s'.qt.window.isSome := by
  rw [hstarted'.window]
  exact Nat.lt_of_lt_of_le (hstarted.window.mp hwindow) hle

def WindowKept (s : State) : Prop := s.comm.NeedsWindow → s.qt.window.isSome

theorem windowKept_commEffect (h : WindowKept s) (heffect : CommEffect cfg s s') :
    WindowKept s' := by
  have hnone : ∀ comm : CommPc, comm.uses = [] ∨ comm.uses = [.qtState] → comm ≠ .clearEgl →
      ¬ comm.NeedsWindow := by
    rintro comm (huses | huses) hne (hmem | heq)
    · simp [huses] at hmem
    · exact hne heq
    · simp [huses] at hmem
    · exact hne heq
  cases heffect with
  | fault fault huse => exact h
  | ready n p hcomm hlatch => exact fun hneeds => absurd hneeds (hnone _ (.inr rfl) nofun)
  | emitted n p hcomm hlive => exact fun hneeds => absurd hneeds (hnone _ (.inl rfl) nofun)
  | released n p change hcomm hchange hlatch =>
      exact fun hneeds => absurd hneeds (hnone _ (.inl rfl) nofun)
  | acked p hcomm => exact fun hneeds => absurd hneeds (hnone _ (.inl rfl) nofun)
  | unmapped p hcomm => exact fun hneeds => absurd hneeds (hnone _ (.inl rfl) nofun)
  | exited hcomm => exact fun hneeds => absurd hneeds (hnone _ (.inl rfl) nofun)
  | moved comm qt hnext hpixels hlive hwindow =>
      intro hneeds
      have hsome := congrArg Option.isSome hpixels
      simp only [pixels, Option.isSome_map] at hsome
      show qt.window.isSome
      rw [hsome]
      rcases hwindow (needsWindow_of_next hnext hneeds) with hcomm | hwindow
      · exact h (.inr hcomm)
      · exact hwindow

theorem windowKept_step (h : WindowKept s) (hstarted : Started s) (hok : CallsAfterCreate s a)
    (hstep : step cfg s a = some s') : WindowKept s' := by
  have hstarted' := started_step hstarted hstep
  have hsame : s'.comm = s.comm → s.main.stage ≤ s'.main.stage → WindowKept s' := by
    intro hcomm hle hneeds
    rw [hcomm] at hneeds
    exact window_of_stage_le hstarted hstarted' hle (h hneeds)
  cases step_effect hstarted hstep with
  | main _ heffect =>
      rcases comm_of_mainEffect heffect with hcomm | ⟨_, hcomm⟩
      · exact hsame hcomm (stage_of_mainEffect heffect)
      · intro hneeds
        rw [hcomm] at hneeds
        rcases hneeds with hmem | heq
        · simp [CommPc.uses] at hmem
        · cases heq
  | runSlot n rest hmain hposted => exact hsame rfl (by rw [hmain]; exact Nat.le_refl _)
  | drawThrows n drawn hmain =>
      exact hsame (comm_drawSlot cfg s n drawn) (Nat.le_of_eq (stage_drawSlot hmain drawn).symm)
  | leaveLoop hmain => exact hsame rfl (by rw [hmain]; exact Nat.le_succ _)
  | comm _ heffect => exact windowKept_commEffect h heffect
  | dispatch c hcomm => exact fun hneeds => hok (unguarded_of_entry hneeds)
  | returned closed hcomm =>
      rintro (hmem | heq)
      · cases closed <;> simp [CommPc.uses] at hmem
      · cases closed <;> cases heq

theorem windowKept_of_reachable (hreach : (machine cfg).ReachableBy CallsAfterCreate s) :
    WindowKept s := by
  have hstart : WindowKept (machine cfg).start := by
    rintro (hmem | heq)
    · simp [machine, CommPc.uses] at hmem
    · cases heq
  exact hreach.invariant hstart fun hreach h hok hstep =>
    windowKept_step h (started_of_reachable hreach) hok hstep

theorem canReach_nullWindow (hcrashed : s.crashed = none) (hstarted : Started s)
    (hkept : EglKept s) (hcomm : s.comm = .clearEgl) (hwindow : s.qt.window = none) :
    (machine cfg).CanReach (fun t => ¬ WindowNotNull t) s := by
  have hbefore : ¬ s.main.after .deleteEgl := by
    intro hafter
    have hsome := hstarted.window.mpr (after_trans hafter (by decide))
    rw [hwindow] at hsome
    cases hsome
  have hlive := commStep_of_live cfg fun object _ => not_deleted hbefore hkept object
  have hstep : (machine cfg).step s .comm =
      some { s with comm := .enablePaint, qt := s.qt.clearEgl } := by
    simp only [machine, step, hcrashed, hlive, State.commNext, hcomm]
  refine .of_step hstep (.here fun hnot => ?_)
  have hsome := hnot (by simp [CommPc.uses])
  rw [QtState.window_clearEgl, hwindow] at hsome
  cases hsome

/-- Unguarded callbacks that come after the window find it, and any other one
may not. -/
theorem callsAfterCreate_guards (cfg : Config) :
    (machine cfg).Guards CallsAfterCreate WindowNotNull := by
  constructor
  · exact fun hreach huses => windowKept_of_reachable hreach (.inl huses)
  · intro s s' a hreach hstep hmiss
    have hrunning := running_of_step hstep
    have hstarted := started_of_reachable hreach
    have hkept := eglKept_of_reachable hreach
    simp only [machine, step, hrunning] at hstep
    cases a with
    | dispatch c =>
        obtain ⟨hunguarded, hnot⟩ := Classical.not_imp.mp hmiss
        have hwindow : s.qt.window = none := by simpa using hnot
        obtain ⟨hcomm, rfl⟩ := dispatch_cases hstep
        have hcursor : ¬ WindowNotNull { s with
            comm := .setCursor
            callbacks := s.callbacks ++ [] } := by
          intro h
          have hsome := h (by simp [CommPc.uses])
          rw [hwindow] at hsome
          cases hsome
        cases c <;> simp only [Callback.unguarded, Bool.false_eq_true] at hunguarded
        case setCursorEx => exact .here hcursor
        case setPointerLarge => exact .here hcursor
        case deactivate =>
          refine canReach_nullWindow hrunning ?_ hkept rfl hwindow
          exact hstarted.of_stage rfl rfl rfl rfl (by simp [hcomm, Callback.entry])
            (by simp [Callback.entry])
    | _ => exact absurd trivial hmiss

/-- A cursor arrives before `launch`. -/
theorem not_always_windowNotNull :
    ¬ ∀ s, (machine ⟨fun device _ _ _ => device, ⟨1, 1, fun _ _ => 0⟩⟩).Reachable s →
      WindowNotNull s := by
  apply Machine.not_always_of_run [.main, .comm, .dispatch .setCursorEx, .comm]
  refine ⟨_, rfl, fun h => ?_⟩
  have hsome := h (by decide)
  cases hsome

/-! ## The connection -/

/-- When a closed connection has ended the communicator thread, the event loop
does not go on without a quit. -/
def CloseEnds (s : State) : Prop :=
  s.comm = .ended true → s.main.InExec → s.quit = true

def CommPc.exits : CommPc → Bool
  | .callExit => true
  | _ => false

def ExitsInExec (s : State) : Action → Prop
  | .comm => s.comm.exits = true → s.main.after .callExec
  | _ => True

instance (s : State) (a : Action) : Decidable (ExitsInExec s a) :=
  match a with
  | .comm => inferInstanceAs (Decidable (_ → _))
  | .main | .runSlot | .drawThrows _ | .leaveLoop | .dispatch _ | .checkWaitObjsReturns _ =>
      .isTrue trivial

theorem ended_of_next {pc pc' : CommPc} (hnext : pc' ∈ pc.next) : pc' ≠ .ended true := by
  rintro rfl
  cases pc <;> simp [CommPc.next] at hnext

def ClosedInExec (s : State) : Prop :=
  s.comm = .ended true → s.main.after .callExec ∧ (s.main.InExec → s.quit = true)

theorem ClosedInExec.of_frame (h : ClosedInExec s)
    (hcomm : s'.comm = .ended true → s.comm = .ended true)
    (hstage : s.main.stage ≤ s'.main.stage)
    (hexec : s'.main.InExec → s.main.InExec) (hquit : s.quit = true → s'.quit = true) :
    ClosedInExec s' := by
  intro hended
  obtain ⟨hafter, hpending⟩ := h (hcomm hended)
  exact ⟨Nat.lt_of_lt_of_le hafter hstage, fun hin => hquit (hpending (hexec hin))⟩

theorem quit_drawSlot (cfg : Config) (s : State) (n drawn : Nat) :
    (s.drawSlot cfg n drawn).quit = s.quit := by
  rcases drawSlot_cases cfg s n drawn with ⟨_, heq⟩ | ⟨_, _, _, _, heq⟩ <;> rw [heq]
  rfl

theorem inExec_of_stage {pc : MainPc} (hstage : pc.stage = 7) : pc.InExec := by
  constructor
  · show 6 < pc.stage
    omega
  · show ¬ 7 < pc.stage
    omega

theorem closedInExec_drawSlot (h : ClosedInExec s) {n : Nat} (hmain : s.main = .slotDraw n)
    (drawn : Nat) : ClosedInExec (s.drawSlot cfg n drawn) := by
  refine h.of_frame ?_ (Nat.le_of_eq (stage_drawSlot hmain drawn).symm) ?_ ?_
  · rw [comm_drawSlot]
    exact id
  · exact fun _ => inExec_of_stage (by rw [hmain]; rfl)
  · rw [quit_drawSlot]
    exact id

theorem closedInExec_mainEffect (h : ClosedInExec s) (heffect : MainEffect cfg s s') :
    ClosedInExec s' := by
  cases heffect with
  | drew n drawn hmain hdrawn => exact closedInExec_drawSlot h hmain drawn
  | signalled n hmain =>
      refine h.of_frame ?_ (Nat.le_of_eq (stage_signalSlot hmain).symm) ?_ ?_
      · rw [comm_signalSlot]
        exact id
      · exact fun _ => inExec_of_stage (by rw [hmain]; rfl)
      · rw [State.signalSlot]
        cases s.change? n <;> exact id
  | dropped hmain =>
      have hout : ¬ MainPc.deleteApp.InExec := by decide
      refine h.of_frame id (by rw [hmain]; exact Nat.le_succ _) (fun hin => absurd hin hout) id
  | advanced main comm qt connected latch quit running hslot hslot' hloop hstage hlive hcomm
      hpixels =>
      -- the main thread has left the event loop already
      intro hended
      have hcomm' : s.comm = .ended true := by
        rcases hcomm with rfl | ⟨_, rfl⟩
        · exact hended
        · cases hended
      have hleft : 7 < s.main.stage := after_eventLoop hslot hloop (h hcomm').1
      have hleft' : 7 < main.stage := by omega
      exact ⟨Nat.lt_of_succ_lt hleft', fun hin => absurd hleft' hin.2⟩

theorem closedInExec_commEffect (h : ClosedInExec s) (hok : ExitsInExec s .comm)
    (heffect : CommEffect cfg s s') : ClosedInExec s' := by
  cases heffect with
  | fault fault huse => exact h
  | ready n p hcomm hlatch => exact fun hended => nomatch hended
  | emitted n p hcomm hlive => exact fun hended => nomatch hended
  | released n p change hcomm hchange hlatch => exact fun hended => nomatch hended
  | acked p hcomm => exact fun hended => nomatch hended
  | unmapped p hcomm => exact fun hended => nomatch hended
  | exited hcomm =>
      intro _
      refine ⟨hok (by rw [hcomm]; rfl), fun hin => ?_⟩
      have hin' : s.main.InExec := hin
      simp [State.appQuit, hin']
  | moved comm qt hnext hpixels hlive hwindow =>
      exact fun hended => absurd hended (ended_of_next hnext)

theorem closedInExec_step (h : ClosedInExec s) (hstarted : Started s) (hok : ExitsInExec s a)
    (hstep : step cfg s a = some s') : ClosedInExec s' := by
  cases step_effect hstarted hstep with
  | main _ heffect => exact closedInExec_mainEffect h heffect
  | runSlot n rest hmain hposted =>
      refine h.of_frame id (by rw [hmain]; exact Nat.le_refl _) ?_ id
      exact fun _ => inExec_of_stage (by rw [hmain]; rfl)
  | drawThrows n drawn hmain =>
      have hdraw : ClosedInExec (s.drawSlot cfg n drawn) := closedInExec_drawSlot h hmain drawn
      refine hdraw.of_frame id (Nat.le_refl _) id fun hquit => ?_
      simp [State.appQuit, hquit]
  | leaveLoop hmain =>
      have hout : ¬ MainPc.deleteEgl.InExec := by decide
      exact h.of_frame id (by rw [hmain]; exact Nat.le_succ _) (fun hin => absurd hin hout) id
  | comm _ heffect => exact closedInExec_commEffect h hok heffect
  | dispatch c hcomm =>
      intro hended
      cases c <;> cases hended
  | returned closed hcomm =>
      intro hended
      cases closed <;> cases hended

theorem closedInExec_of_reachable (hreach : (machine cfg).ReachableBy ExitsInExec s) :
    ClosedInExec s := by
  have hstart : ClosedInExec (machine cfg).start := fun hended => nomatch hended
  exact hreach.invariant hstart fun hreach h hok hstep =>
    closedInExec_step h (started_of_reachable hreach) hok hstep

theorem startUp_step (cfg : Config) (hcrashed : s.crashed = none)
    (hafter : s.main.after .constructXup) (hbefore : ¬ s.main.after .callExec) :
    ∃ t, step cfg s .main = some t ∧ t.crashed = none ∧ t.comm = s.comm ∧
      t.main.stage = s.main.stage + 1 ∧
      (t.main.after .callExec → t.main = .eventLoop ∧ t.quit = false) := by
  cases hmain : s.main <;> rw [hmain] at hafter hbefore <;>
    simp only [MainPc.after, MainPc.stage, Nat.lt_irrefl, Nat.reduceLT, not_true] at hafter hbefore
  case callExec =>
    exact ⟨{ s with main := .eventLoop, quit := false },
      by simp only [step, hcrashed, State.mainNext, hmain], hcrashed, rfl, rfl, fun _ => ⟨rfl, rfl⟩⟩
  all_goals
    simp only [step, hcrashed, State.mainNext, hmain]
    exact ⟨_, rfl, rfl, rfl, rfl, fun hexec => absurd hexec (by simp [MainPc.after, MainPc.stage])⟩

theorem enters_exec (cfg : Config) (hcrashed : s.crashed = none)
    (hafter : s.main.after .constructXup) (hbefore : ¬ s.main.after .callExec) :
    ∃ actions t, (machine cfg).run s actions = some t ∧ t.main = .eventLoop ∧ t.quit = false ∧
      t.comm = s.comm := by
  induction hn : 6 - s.main.stage generalizing s with
  | zero =>
      obtain ⟨t, hstep, _, hcomm, hstage, hexec⟩ := startUp_step cfg hcrashed hafter hbefore
      have hle : ¬ 6 < s.main.stage := hbefore
      have hlast : 6 < t.main.stage := by omega
      obtain ⟨hmain, hquit⟩ := hexec hlast
      exact ⟨[.main], t, by simp [machine, hstep], hmain, hquit, hcomm⟩
  | succ n ih =>
      obtain ⟨t, hstep, hcrashed', hcomm, hstage, _⟩ := startUp_step cfg hcrashed hafter hbefore
      have hlt : 0 < s.main.stage := hafter
      have hafter' : 0 < t.main.stage := by omega
      have hbefore' : ¬ 6 < t.main.stage := by omega
      obtain ⟨actions, u, hrun, hmain, hquit, hcomm'⟩ :=
        ih hcrashed' hafter' hbefore' (by omega)
      have hstep' : (machine cfg).step s .main = some t := hstep
      refine ⟨.main :: actions, u, ?_, hmain, hquit, by rw [hcomm', hcomm]⟩
      rw [Machine.run_cons_of_step hstep', hrun]

/-- A close reported to a running event loop ends it, and any earlier one may
be lost. -/
theorem exitsInExec_guards (cfg : Config) : (machine cfg).Guards ExitsInExec CloseEnds := by
  constructor
  · exact fun hreach hended => (closedInExec_of_reachable hreach hended).2
  · intro s s' a hreach hstep hmiss
    have hrunning := running_of_step hstep
    have hstarted := started_of_reachable hreach
    simp only [machine, step, hrunning] at hstep
    cases a with
    | comm =>
        obtain ⟨hexits, hbefore⟩ := Classical.not_imp.mp hmiss
        have hcomm : s.comm = .callExit := by
          cases hcomm : s.comm <;> rw [hcomm] at hexits <;> first | rfl | cases hexits
        have hafter : s.main.after .constructXup := by
          by_contra hnot
          rw [← hstarted.notStarted, hcomm] at hnot
          cases hnot
        have hnotDeleted : ¬ s.main.after .deleteEgl :=
          fun hdeleted => hbefore (after_trans hdeleted (by decide))
        have hlive := commStep_of_live cfg fun object _ =>
          not_deleted hnotDeleted (eglKept_of_reachable hreach) object
        simp only [hlive, State.commNext, hcomm, Option.some.injEq] at hstep
        subst s'
        obtain ⟨actions, t, hrun, hmain, hquit, hended⟩ :=
          enters_exec (s := { s.appQuit with comm := .ended true }) cfg hrunning hafter hbefore
        refine .of_run hrun (.here fun hcloses => ?_)
        have hin : t.main.InExec := by
          rw [hmain]
          decide
        rw [hcloses hended hin] at hquit
        cases hquit
    | _ => exact absurd trivial hmiss

/-- The connection is closed while the main thread is about to write its
feedback. -/
theorem not_always_closeEnds :
    ¬ ∀ s, (machine ⟨fun device _ _ _ => device, ⟨1, 1, fun _ _ => 0⟩⟩).Reachable s →
      CloseEnds s := by
  apply Machine.not_always_of_run
    [.main, .comm, .checkWaitObjsReturns true, .comm,
      .main, .main, .main, .main, .main, .main]
  refine ⟨_, rfl, fun h => ?_⟩
  have hquit := h rfl (by decide)
  cases hquit

end XrdpLocal.Threads
