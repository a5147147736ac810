import XrdpLocal.Threads.Exceptions
/-!
# Runs that end

The two threads wait for each other at three places: for `app_ready_latch`, for
the release of a change, and in the join. An environment is orderly when it
closes the application between two callbacks and makes none afterwards. In an
orderly run nothing faults and none of the three waits is for ever: from every
state the threads can be run to their end (`orderly_ends`).
-/

namespace XrdpLocal.Threads

open StateMachine XrdpLocal.Qt

variable {cfg : Config} {s s' : State} {a : Action}

/-! ## Orderly steps -/

def Callback.renders : Callback → Bool
  | .paintPixmap => true
  | _ => false

structure Callback.Fits (s : State) (c : Callback) : Prop where
  window : c.unguarded = true → s.qt.window.isSome
  egl : c.renders = true → s.qt.egl.isSome

/-- The event loop is left between two callbacks. After that there are none,
and the connection is not reported as closed. -/
def Orderly (s : State) : Action → Prop
  | .leaveLoop => s.comm.paint = none ∧ .qtState ∉ s.comm.uses
  | .dispatch c => ¬ s.main.after .eventLoop ∧ c.Fits s
  | .checkWaitObjsReturns true => ¬ s.main.after .eventLoop
  | _ => True

instance (s : State) (c : Callback) : Decidable (c.Fits s) :=
  decidable_of_iff ((c.unguarded = true → s.qt.window.isSome) ∧
    (c.renders = true → s.qt.egl.isSome)) ⟨fun h => ⟨h.1, h.2⟩, fun h => ⟨h.window, h.egl⟩⟩

instance (pc : CommPc) : Decidable (pc.paint = none) :=
  match pc.paint with
  | none => .isTrue rfl
  | some p => .isFalse (by simp)

instance (s : State) (a : Action) : Decidable (Orderly s a) :=
  match a with
  | .leaveLoop => inferInstanceAs (Decidable (_ ∧ _))
  | .dispatch _ => inferInstanceAs (Decidable (_ ∧ _))
  | .checkWaitObjsReturns true => inferInstanceAs (Decidable (¬ _))
  | .main | .runSlot | .drawThrows _ | .comm | .checkWaitObjsReturns false => .isTrue trivial

theorem callsAfterCreate_of_orderly (h : Orderly s a) : CallsAfterCreate s a := by
  cases a with
  | dispatch c => exact h.2.window
  | _ => trivial

structure Calm (s : State) : Prop where
  crashed : s.crashed = none
  apart : s.main.after .eventLoop → s.comm.paint = none ∧ .qtState ∉ s.comm.uses
  egl : s.comm = .renderEgl → s.qt.egl.isSome
  running : s.main.after .stopRunning → s.running = false

theorem renderEgl_notMem_next (pc : CommPc) : .renderEgl ∉ pc.next := by
  cases pc <;> simp [CommPc.next]

theorem egl_mainNext (hstep : s.mainNext cfg = some s') : s'.qt.egl = s.qt.egl := by
  cases hmain : s.main <;> simp only [State.mainNext, hmain] at hstep
  case slotDraw n =>
    rw [← Option.some.inj hstep]
    rcases drawSlot_cases cfg s n _ with ⟨_, heq⟩ | ⟨_, _, _, _, heq⟩ <;> rw [heq]
    rfl
  case slotSignal n =>
    rw [← Option.some.inj hstep, State.signalSlot]
    cases s.change? n <;> rfl
  case deleteEgl =>
    rw [← Option.some.inj hstep]
    exact QtState.egl_deleteEgl s.qt
  case join =>
    cases hcomm : s.comm <;> simp only [hcomm, reduceCtorEq, Option.some.injEq] at hstep
    rw [← hstep]
  all_goals simp only [reduceCtorEq, Option.some.injEq] at hstep
  all_goals rw [← hstep]

theorem running_mainNext (h : s.main.after .stopRunning → s.running = false)
    (hstep : s.mainNext cfg = some s') : s'.main.after .stopRunning → s'.running = false := by
  intro hafter
  cases hmain : s.main <;> simp only [State.mainNext, hmain] at hstep
  case slotDraw n =>
    have hstage : ∀ drawn, (s.drawSlot cfg n drawn).main.stage = s.main.stage :=
      stage_drawSlot hmain
    have hstage := hstage (((s.change? n).map fun change => change.rects.length).getD 0)
    rw [Option.some.inj hstep, hmain] at hstage
    rw [MainPc.after, hstage] at hafter
    exact absurd hafter (by simp [MainPc.stage])
  case slotSignal n =>
    have hstage := stage_signalSlot hmain
    rw [Option.some.inj hstep, hmain] at hstage
    rw [MainPc.after, hstage] at hafter
    exact absurd hafter (by simp [MainPc.stage])
  case stopRunning =>
    rw [← Option.some.inj hstep]
  case join =>
    cases hcomm : s.comm <;> simp only [hcomm, reduceCtorEq, Option.some.injEq] at hstep
    rw [← hstep]
    exact h (by rw [hmain]; decide)
  all_goals simp only [reduceCtorEq, Option.some.injEq] at hstep
  all_goals
    rw [← hstep] at hafter
    exact absurd hafter (by simp [MainPc.after, MainPc.stage])

theorem State.disablePaint_of_window {window : QtWindow} (hwindow : s.qt.window = some window)
    (disable : Bool) (next : CommPc) :
    s.disablePaint disable next = { s with
      comm := next
      qt := { s.qt with window := some (window.setDisablePaint disable) } } := by
  rw [State.disablePaint, QtState.setDisablePaint, hwindow]
  rfl

/-- The statements of the communicator thread do not fault. -/
theorem crashed_commNext (hcalm : Calm s) (hwindow : .window ∈ s.comm.uses → s.qt.window.isSome)
    (hstep : s.commNext cfg = some s') : s'.crashed = none := by
  have hsome : .window ∈ s.comm.uses → ∃ window, s.qt.window = some window := fun hmem =>
    Option.isSome_iff_exists.mp (hwindow hmem)
  have hnone := hcalm.crashed
  cases hcomm : s.comm <;> simp only [State.commNext, hcomm] at hstep
  case disablePaint =>
    obtain ⟨window, hw⟩ := hsome (by simp [hcomm, CommPc.uses])
    rw [State.disablePaint_of_window hw] at hstep
    rw [← Option.some.inj hstep]
    exact hnone
  case enablePaint =>
    obtain ⟨window, hw⟩ := hsome (by simp [hcomm, CommPc.uses])
    rw [State.disablePaint_of_window hw] at hstep
    rw [← Option.some.inj hstep]
    exact hnone
  case setCursor =>
    obtain ⟨window, hw⟩ := hsome (by simp [hcomm, CommPc.uses])
    rw [hw] at hstep
    rw [← Option.some.inj hstep]
    exact hnone
  case constructEgl construction pixmap =>
    obtain ⟨window, hw⟩ := hsome (by simp [hcomm, CommPc.uses])
    cases construction with
    | ok =>
        rw [hw] at hstep
        rw [← Option.some.inj hstep]
        exact hnone
    | error what =>
        rw [hw] at hstep
        rw [← Option.some.inj hstep]
        exact hnone
  case renderEgl =>
    obtain ⟨egl, hegl⟩ := Option.isSome_iff_exists.mp (hcalm.egl hcomm)
    rw [QtState.paintDmaBuf, hegl] at hstep
    rw [← Option.some.inj hstep]
    exact hnone
  all_goals grind [State.emitPaintRects, State.appQuit]

/-- Where the communicator thread uses `QtState`, nothing is deleted. -/
theorem commStep_of_calm (hcalm : Calm s) (hkept : EglKept s) :
    s.commStep cfg = s.commNext cfg := by
  apply commStep_of_live
  intro object hmem
  refine not_deleted (fun hafter => ?_) hkept object
  exact (hcalm.apart (after_trans hafter (by decide))).2 (qtState_of_uses hmem)

theorem calm_commEffect (hcalm : Calm s) (hcrashed : s'.crashed = none)
    (heffect : CommEffect cfg s s') : Calm s' := by
  obtain ⟨_, hapart, hegl, hrunning⟩ := hcalm
  cases heffect with
  | fault fault huse => cases hcrashed
  | ready n p hcomm hlatch =>
      rw [hcomm] at hapart
      refine ⟨hcrashed, fun hafter => ?_, by simp, hrunning⟩
      cases (hapart hafter).1
  | emitted n p hcomm hlive =>
      rw [hcomm] at hapart
      refine ⟨hcrashed, fun hafter => ?_, by simp [State.emitPaintRects], hrunning⟩
      cases (hapart hafter).1
  | released n p change hcomm hchange hlatch =>
      rw [hcomm] at hapart
      refine ⟨hcrashed, fun hafter => ?_, by simp, hrunning⟩
      cases (hapart hafter).1
  | acked p hcomm =>
      rw [hcomm] at hapart
      refine ⟨hcrashed, fun hafter => ?_, by simp, hrunning⟩
      cases (hapart hafter).1
  | unmapped p hcomm =>
      exact ⟨hcrashed, fun _ => ⟨rfl, List.not_mem_nil⟩, by simp, hrunning⟩
  | exited hcomm =>
      exact ⟨hcrashed, fun _ => ⟨rfl, List.not_mem_nil⟩, by simp, hrunning⟩
  | moved comm qt hnext hpixels hlive hwindow =>
      refine ⟨hcrashed, fun hafter => ?_, fun hrender => ?_, hrunning⟩
      · exact ⟨(paint_of_next hnext).2, uses_of_next hnext (hapart hafter).2⟩
      · rw [show comm = .renderEgl from hrender] at hnext
        exact absurd hnext (renderEgl_notMem_next s.comm)

theorem calm_mainNext (hcalm : Calm s) (hout : Outstanding s) (hstarted : Started s)
    (hstep : s.mainNext cfg = some s') : Calm s' := by
  have hegl := egl_mainNext hstep
  have hrunning := running_mainNext hcalm.running hstep
  have heffect := mainNext_effect hstarted hstep
  have hcomm := comm_of_mainEffect heffect
  have hcrashed : s'.crashed = none := by
    cases heffect with
    | drew n drawn hmain hdrawn =>
        obtain ⟨p, window, _, _, _, heq⟩ := drawSlot_of_outstanding cfg hout hstarted hmain drawn
        rw [heq]
        exact hcalm.crashed
    | signalled n hmain =>
        obtain ⟨p, _, _, _, heq⟩ := signalSlot_of_outstanding hout hmain
        rw [heq]
        exact hcalm.crashed
    | dropped hmain => exact hcalm.crashed
    | advanced main comm qt connected latch quit running hslot hslot' hloop hstage hlive hcomm
        hpixels =>
        exact hcalm.crashed
  have hafter : s'.main.after .eventLoop → s.main.after .eventLoop := by
    intro hafter
    cases heffect with
    | drew n drawn hmain hdrawn =>
        rw [MainPc.after, stage_drawSlot hmain] at hafter
        exact hafter
    | signalled n hmain =>
        rw [MainPc.after, stage_signalSlot hmain] at hafter
        exact hafter
    | dropped hmain =>
        rw [hmain]
        decide
    | advanced main comm qt connected latch quit running hslot hslot' hloop hstage hlive hcomm
        hpixels =>
        apply after_eventLoop hslot hloop
        have hlt : 7 < main.stage := hafter
        show 6 < s.main.stage
        omega
  refine ⟨hcrashed, fun h => ?_, fun hrender => ?_, hrunning⟩
  · rcases hcomm with heq | ⟨_, heq⟩ <;> rw [heq]
    · exact hcalm.apart (hafter h)
    · exact ⟨rfl, List.not_mem_nil⟩
  · rw [hegl]
    rcases hcomm with heq | ⟨_, heq⟩ <;> rw [heq] at hrender
    · exact hcalm.egl hrender
    · cases hrender

theorem calm_step (hcalm : Calm s) (hout : Outstanding s) (hstarted : Started s)
    (hkept : EglKept s) (hwindow : WindowKept s) (hok : Orderly s a)
    (hstep : step cfg s a = some s') : Calm s' := by
  have heffect := step_effect hstarted hstep
  simp only [step, hcalm.crashed] at hstep
  obtain ⟨hcrashed, hapart, hegl, hrunning⟩ := id hcalm
  cases heffect with
  | main _ _ => exact calm_mainNext hcalm hout hstarted hstep
  | runSlot n rest hmain hposted =>
      rw [hmain] at hapart hrunning
      exact ⟨hcrashed, hapart, hegl, hrunning⟩
  | drawThrows n drawn hmain =>
      obtain ⟨p, window, _, _, _, heq⟩ := drawSlot_of_outstanding cfg hout hstarted hmain drawn
      rw [hmain] at hapart hrunning
      rw [heq]
      exact ⟨hcrashed, hapart, hegl, hrunning⟩
  | leaveLoop hmain =>
      exact ⟨hcrashed, fun _ => hok, hegl, by simp [MainPc.after, MainPc.stage]⟩
  | comm _ heffect =>
      rw [commStep_of_calm hcalm hkept] at hstep
      have hcrashed' := crashed_commNext hcalm (fun hmem => hwindow (.inl hmem)) hstep
      exact calm_commEffect hcalm hcrashed' heffect
  | dispatch c hcomm =>
      refine ⟨hcrashed, fun hafter => absurd hafter hok.1, fun hrender => ?_, hrunning⟩
      cases c <;> simp only [Callback.entry, reduceCtorEq] at hrender
      exact hok.2.egl rfl
  | returned closed hcomm =>
      cases closed with
      | true =>
          exact ⟨hcrashed, fun hafter => absurd hafter hok, by simp, hrunning⟩
      | false =>
          exact ⟨hcrashed, fun _ => ⟨rfl, List.not_mem_nil⟩, by simp, hrunning⟩

theorem windowKept_of_orderly (hreach : (machine cfg).ReachableBy Orderly s) : WindowKept s :=
  windowKept_of_reachable (hreach.mono fun _ _ => callsAfterCreate_of_orderly)

theorem calm_of_reachable (hreach : (machine cfg).ReachableBy Orderly s) : Calm s := by
  have hstart : Calm (machine cfg).start := by
    constructor <;> simp [machine, MainPc.after, MainPc.stage]
  refine hreach.invariant hstart ?_
  intro s s' a hreach hcalm hok hstep
  exact calm_step hcalm (outstanding_of_reachable hreach) (started_of_reachable hreach)
    (eglKept_of_reachable hreach) (windowKept_of_orderly hreach) hok hstep

/-! ## The rank -/

/-- Statements that the main thread still executes in a running slot call. -/
def MainPc.slotRank : MainPc → Nat
  | .slotDraw _ => 2
  | .slotSignal _ => 1
  | _ => 0

/-- Statements until the communicator thread is between two callbacks, or has
ended once `running` is cleared. A signal not emitted yet is worth a slot
call. -/
def CommPc.rank (running : Bool) : CommPc → Nat
  | .ended _ => 0
  | .testRunning => if running then 4 else 1
  | .processEvents => if running then 5 else 2
  | .checkWaitObjs => 3
  | .callExit => 1
  | .setCursor | .sendNotify _ | .enablePaint | .renderEgl | .unmap _ => 4
  | .notStarted | .clearEgl | .disablePaint | .frameAck _ => 5
  | .constructEgl _ _ | .waitRelease _ _ => 6
  | .testWindow _ _ => 7
  | .emitSignal _ _ => 10
  | .waitReady _ _ => 11

def State.rank (s : State) : Nat :=
  3 * (14 - s.main.stage) + s.main.slotRank + 3 * s.posted.length + s.comm.rank s.running

theorem rank_stop_le (pc : CommPc) (running : Bool) : pc.rank false ≤ pc.rank running := by
  cases running with
  | false => exact Nat.le_refl _
  | true => cases pc <;> simp [CommPc.rank]

theorem main_progress (hcrashed : s.crashed = none) (hout : Outstanding s) (hstarted : Started s)
    (hloop : s.main ≠ .eventLoop) (hjoin : s.main ≠ .join) (hexited : s.main ≠ .exited) :
    ∃ s', step cfg s .main = some s' ∧ s'.rank < s.rank := by
  simp only [step, hcrashed]
  cases hmain : s.main
  case eventLoop => exact absurd hmain hloop
  case join => exact absurd hmain hjoin
  case exited => exact absurd hmain hexited
  case slotDraw n =>
    obtain ⟨p, window, _, _, _, heq⟩ := drawSlot_of_outstanding cfg hout hstarted hmain
      (((s.change? n).map fun change => change.rects.length).getD 0)
    refine ⟨_, by rw [State.mainNext, hmain], ?_⟩
    rw [heq]
    simp [State.rank, hmain, MainPc.stage, MainPc.slotRank]
  case slotSignal n =>
    obtain ⟨p, _, _, _, heq⟩ := signalSlot_of_outstanding hout hmain
    refine ⟨_, by rw [State.mainNext, hmain], ?_⟩
    rw [heq]
    simp [State.rank, hmain, MainPc.stage, MainPc.slotRank]
  case constructXup =>
    have hnotStarted : s.comm = .notStarted := by
      rw [hstarted.notStarted, hmain]
      decide
    refine ⟨_, by rw [State.mainNext, hmain], ?_⟩
    simp only [State.rank, hmain, hnotStarted, MainPc.stage, MainPc.slotRank, CommPc.rank]
    split <;> omega
  case stopRunning =>
    have hle := rank_stop_le s.comm s.running
    refine ⟨_, by rw [State.mainNext, hmain], ?_⟩
    simp only [State.rank, hmain, MainPc.stage, MainPc.slotRank]
    omega
  all_goals
    refine ⟨_, by rw [State.mainNext, hmain], ?_⟩
    simp only [State.rank, hmain, MainPc.stage, MainPc.slotRank, List.length_nil]
    omega

theorem comm_progress (hcalm : Calm s) (hkept : EglKept s) (hwindow : WindowKept s)
    (hstarted : s.comm ≠ .notStarted) (hbetween : s.comm ≠ .checkWaitObjs)
    (hended : ∀ closed, s.comm ≠ .ended closed) (hready : s.appReadyLatch = 0)
    (hreleased : ∀ n p, s.comm = .waitRelease n p →
      ∃ change, s.change? n = some change ∧ change.releaseLatch = 0) :
    ∃ s', step cfg s .comm = some s' ∧ s'.rank < s.rank := by
  have hsome : .window ∈ s.comm.uses → ∃ window, s.qt.window = some window := fun hmem =>
    Option.isSome_iff_exists.mp (hwindow (.inl hmem))
  simp only [step, hcalm.crashed, commStep_of_calm hcalm hkept]
  cases hcomm : s.comm
  case notStarted => exact absurd hcomm hstarted
  case checkWaitObjs => exact absurd hcomm hbetween
  case ended closed => exact absurd hcomm (hended closed)
  case testRunning =>
    refine ⟨_, by rw [State.commNext, hcomm], ?_⟩
    cases hrunning : s.running <;> simp [State.rank, hcomm, hrunning, CommPc.rank]
  case processEvents =>
    refine ⟨_, by rw [State.commNext, hcomm], ?_⟩
    cases hrunning : s.running <;> simp [State.rank, hcomm, hrunning, CommPc.rank]
  case setCursor =>
    obtain ⟨window, hw⟩ := hsome (by simp [hcomm, CommPc.uses])
    exact ⟨_, by rw [State.commNext, hcomm, hw], by simp [State.rank, hcomm, CommPc.rank]⟩
  case waitReady n p =>
    refine ⟨_, by rw [State.commNext, hcomm]; exact if_pos hready, ?_⟩
    simp [State.rank, hcomm, CommPc.rank]
  case emitSignal n p =>
    have hposted : (s.emitPaintRects n p).posted.length ≤ s.posted.length + 1 := by
      simp only [State.emitPaintRects]
      split <;> simp
    refine ⟨_, by rw [State.commNext, hcomm], ?_⟩
    simp only [State.rank, hcomm, CommPc.rank, State.emitPaintRects] at hposted ⊢
    omega
  case waitRelease n p =>
    obtain ⟨change, hchange, hlatch⟩ := hreleased n p hcomm
    refine ⟨{ s with comm := .frameAck p, changes := s.changes.filter fun entry => entry.1 ≠ n },
      by simp [State.commNext, hcomm, hchange, hlatch], ?_⟩
    simp [State.rank, hcomm, CommPc.rank]
  case testWindow construction pixmap =>
    cases hw : s.qt.window with
    | none => exact ⟨_, by rw [State.commNext, hcomm, hw], by simp [State.rank, hcomm, CommPc.rank]⟩
    | some window =>
        exact ⟨_, by rw [State.commNext, hcomm, hw], by simp [State.rank, hcomm, CommPc.rank]⟩
  case constructEgl construction pixmap =>
    obtain ⟨window, hw⟩ := hsome (by simp [hcomm, CommPc.uses])
    cases construction with
    | ok => exact ⟨_, by rw [State.commNext, hcomm, hw], by simp [State.rank, hcomm, CommPc.rank]⟩
    | error what =>
        exact ⟨_, by rw [State.commNext, hcomm, hw], by simp [State.rank, hcomm, CommPc.rank]⟩
  case disablePaint =>
    obtain ⟨window, hw⟩ := hsome (by simp [hcomm, CommPc.uses])
    refine ⟨_, by rw [State.commNext, hcomm], ?_⟩
    simp [State.disablePaint_of_window hw, State.rank, hcomm, CommPc.rank]
  case enablePaint =>
    obtain ⟨window, hw⟩ := hsome (by simp [hcomm, CommPc.uses])
    refine ⟨_, by rw [State.commNext, hcomm], ?_⟩
    simp [State.disablePaint_of_window hw, State.rank, hcomm, CommPc.rank]
  case renderEgl =>
    obtain ⟨egl, hegl⟩ := Option.isSome_iff_exists.mp (hcalm.egl hcomm)
    refine ⟨_, by rw [State.commNext, hcomm, QtState.paintDmaBuf, hegl], ?_⟩
    simp [State.rank, hcomm, CommPc.rank]
  all_goals
    refine ⟨_, by rw [State.commNext, hcomm], ?_⟩
    simp [State.rank, hcomm, CommPc.rank, State.appQuit]

/-! ## The end -/

theorem orderly_comm (s : State) : Orderly s .comm := trivial

/-- In the event loop: posted slot calls first, then the communicator thread
up to the end of its callback; then the loop is left. -/
theorem loop_progress (hreach : (machine cfg).ReachableBy Orderly s) (hmain : s.main = .eventLoop) :
    ∃ a s', Orderly s a ∧ step cfg s a = some s' ∧ s'.rank < s.rank := by
  have hcalm := calm_of_reachable hreach
  have hstarted := started_of_reachable hreach
  have hout := outstanding_of_reachable hreach
  have hcrashed := hcalm.crashed
  cases hposted : s.posted with
  | cons n rest =>
      refine ⟨.runSlot, { s with main := .slotDraw n, posted := rest }, trivial, ?_, ?_⟩
      · simp only [step, hcrashed, State.runSlot, hmain, hposted]
      · simp only [State.rank, hmain, hposted, MainPc.stage, MainPc.slotRank, List.length_cons]
        omega
  | nil =>
      have hleave : s.comm.paint = none → .qtState ∉ s.comm.uses →
          ∃ a s', Orderly s a ∧ step cfg s a = some s' ∧ s'.rank < s.rank := by
        intro hpaint huses
        refine ⟨.leaveLoop, { s with main := .deleteEgl }, ⟨hpaint, huses⟩, ?_, ?_⟩
        · simp only [step, hcrashed, State.leaveLoop, hmain]
        · simp only [State.rank, hmain, MainPc.stage, MainPc.slotRank]
          omega
      by_cases hbetween : s.comm = .checkWaitObjs
      · exact hleave (by rw [hbetween]; rfl) (by simp [hbetween, CommPc.uses])
      · by_cases hended : ∃ closed, s.comm = .ended closed
        · obtain ⟨closed, hclosed⟩ := hended
          exact hleave (by rw [hclosed]; rfl) (by simp [hclosed, CommPc.uses])
        · have hnotStarted : s.comm ≠ .notStarted := by
            rw [Ne, hstarted.notStarted, hmain]
            decide
          have hready : s.appReadyLatch = 0 := by
            rw [hstarted.appReady, hmain]
            rfl
          have hreleased : ∀ n p, s.comm = .waitRelease n p →
              ∃ change, s.change? n = some change ∧ change.releaseLatch = 0 := by
            intro n p hcomm
            cases hout with
            | idle hc hch hp hs => exact absurd hcomm (hc n p)
            | posted m q hc hch hp hs => simp [hposted] at hp
            | running m q hc hch hp hs => simp [hmain, MainPc.slot] at hs
            | lost m q hc hch hp hs hl => exact absurd hl (by rw [hmain]; decide)
            | released m q hc hch hp hs =>
                rw [hcomm, CommPc.waitRelease.injEq] at hc
                obtain ⟨rfl, rfl⟩ := hc
                exact ⟨_, change?_of_changes hch, rfl⟩
          obtain ⟨s', hstep, hlt⟩ := comm_progress hcalm (eglKept_of_reachable hreach)
            (windowKept_of_orderly hreach) hnotStarted hbetween
            (fun closed hclosed => hended ⟨closed, hclosed⟩) hready hreleased
          exact ⟨.comm, s', orderly_comm s, hstep, hlt⟩

/-- In the join: the communicator thread goes round its loop once more. -/
theorem join_progress (hreach : (machine cfg).ReachableBy Orderly s) (hmain : s.main = .join) :
    ∃ a s', Orderly s a ∧ step cfg s a = some s' ∧ s'.rank < s.rank := by
  have hcalm := calm_of_reachable hreach
  have hstarted := started_of_reachable hreach
  have hcrashed := hcalm.crashed
  have hrunning : s.running = false := hcalm.running (by rw [hmain]; decide)
  obtain ⟨hpaint, _⟩ := hcalm.apart (by rw [hmain]; decide)
  by_cases hended : ∃ closed, s.comm = .ended closed
  · obtain ⟨closed, hclosed⟩ := hended
    refine ⟨.main, { s with main := .exited }, trivial, ?_, ?_⟩
    · simp only [step, hcrashed, State.mainNext, hmain, hclosed]
    · simp only [State.rank, hmain, MainPc.stage, MainPc.slotRank]
      omega
  · by_cases hbetween : s.comm = .checkWaitObjs
    · refine ⟨.checkWaitObjsReturns false, { s with comm := .processEvents }, trivial, ?_, ?_⟩
      · simp [step, hcrashed, State.checkWaitObjsReturns, hbetween]
      · simp [State.rank, hbetween, hrunning, CommPc.rank]
    · have hnotStarted : s.comm ≠ .notStarted := by
        rw [Ne, hstarted.notStarted, hmain]
        decide
      have hready : s.appReadyLatch = 0 := by
        rw [hstarted.appReady, hmain]
        rfl
      have hreleased : ∀ n p, s.comm = .waitRelease n p →
          ∃ change, s.change? n = some change ∧ change.releaseLatch = 0 := by
        intro n p hcomm
        rw [hcomm] at hpaint
        cases hpaint
      obtain ⟨s', hstep, hlt⟩ := comm_progress hcalm (eglKept_of_reachable hreach)
        (windowKept_of_orderly hreach) hnotStarted hbetween
        (fun closed hclosed => hended ⟨closed, hclosed⟩) hready hreleased
      exact ⟨.comm, s', orderly_comm s, hstep, hlt⟩

/-- From every state of an orderly run the two threads can be run to their end
by orderly steps. No fault is met, and every paint called has been
acknowledged and returned from. -/
theorem orderly_ends (cfg : Config) (hreach : (machine cfg).ReachableBy Orderly s) :
    ∃ actions t, (machine cfg).run s actions = some t ∧ (machine cfg).StepsMeet Orderly s actions ∧
      t.main = .exited ∧ (∃ closed, t.comm = .ended closed) ∧ t.crashed = none ∧
      t.completed = t.callbacks := by
  have hprogress : ∀ s, (machine cfg).ReachableBy Orderly s → ¬ s.main = .exited →
      ∃ a s', Orderly s a ∧ (machine cfg).step s a = some s' ∧ s'.rank < s.rank := by
    intro s hreach hexited
    by_cases hloop : s.main = .eventLoop
    · exact loop_progress hreach hloop
    · by_cases hjoin : s.main = .join
      · exact join_progress hreach hjoin
      · obtain ⟨s', hstep, hlt⟩ := main_progress (calm_of_reachable hreach).crashed
          (outstanding_of_reachable hreach) (started_of_reachable hreach) hloop hjoin hexited
        exact ⟨.main, s', trivial, hstep, hlt⟩
  obtain ⟨actions, t, hrun, hmeet, hmain⟩ :=
    hreach.reaches_of_rank (fun _ _ h => h) State.rank hprogress
  have hreach' : (machine cfg).ReachableBy Orderly t := hreach.run hmeet hrun
  have hjoined := joined_of_reachable hreach' hmain
  refine ⟨actions, t, hrun, hmeet, hmain, hjoined, (calm_of_reachable hreach').crashed, ?_⟩
  obtain ⟨closed, hcomm⟩ := hjoined
  rw [(booked_of_reachable hreach').calls, State.inHand, hcomm]
  exact (List.append_nil _).symm

/-- The first paint waits for the start-up, the drawing of the second throws. -/
def unfinished : List Action :=
  [.main, .comm, .dispatch (.paintRectsEx (pixelFrame 255 1)), .main, .main, .main, .main, .comm,
    .comm, .main, .main, .runSlot, .main, .main, .comm, .comm, .comm,
    .dispatch (.paintRectsEx (pixelFrame 128 2)), .comm, .comm, .runSlot, .drawThrows 0]

theorem orderly_ends_unfinished :
    ∃ s, (machine ⟨copyPixels, ⟨1, 1, fun _ _ => 0⟩⟩).run {} unfinished = some s ∧
      s.main = .slotSignal 1 ∧
      ∃ actions t, (machine ⟨copyPixels, ⟨1, 1, fun _ _ => 0⟩⟩).run s actions = some t ∧
        (machine ⟨copyPixels, ⟨1, 1, fun _ _ => 0⟩⟩).StepsMeet Orderly s actions ∧
        t.main = .exited ∧ (∃ closed, t.comm = .ended closed) ∧ t.crashed = none ∧
        t.completed = t.callbacks := by
  have hexec : ∃ s, (machine ⟨copyPixels, ⟨1, 1, fun _ _ => 0⟩⟩).run {} unfinished = some s ∧
      s.main = .slotSignal 1 := ⟨_, rfl, rfl⟩
  have hmeet : (machine ⟨copyPixels, ⟨1, 1, fun _ _ => 0⟩⟩).StepsMeet Orderly {} unfinished := by
    decide
  obtain ⟨s, hrun, hmain⟩ := hexec
  exact ⟨s, hrun, hmain, orderly_ends _ (.run .start hmeet hrun)⟩

end XrdpLocal.Threads
