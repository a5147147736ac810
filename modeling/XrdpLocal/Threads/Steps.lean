import XrdpLocal.Threads.Model
/-!
# What one statement of a thread can change

`step_effect` says what a step of `XrdpLocal.Threads.Model` can do; every
invariant of the later modules is derived from it. Two of them are here: what
the start-up has done at each point of the main thread (`Started`), and that
the `EGLState` in use lives until `delete qt` (`EglKept`).
-/

namespace XrdpLocal.Threads

open StateMachine XrdpLocal.Qt

variable {cfg : Config} {s s' : State} {a : Action}

theorem running_of_step (hstep : step cfg s a = some s') : s.crashed = none := by
  cases hcrashed : s.crashed with
  | none => rfl
  | some fault => simp [step, hcrashed] at hstep

theorem after_trans {pc early late : MainPc} (hlate : pc.after late)
    (hle : early.stage ≤ late.stage) : pc.after early := Nat.lt_of_le_of_lt hle hlate

/-- Past `app->exec()` and not in a slot call, the main thread is at the event
loop or has left it. -/
theorem after_eventLoop {pc : MainPc} (hslot : pc.slot = none) (hloop : pc ≠ .eventLoop)
    (hexec : pc.after .callExec) : pc.after .eventLoop := by
  cases pc <;> first | decide | contradiction

/-! ## The steps of the outside world -/

theorem runSlot_cases (hstep : s.runSlot = some s') :
    s.main = .eventLoop ∧ ∃ n rest, s.posted = n :: rest ∧
      s' = { s with main := .slotDraw n, posted := rest } := by
  cases hmain : s.main <;> simp only [State.runSlot, hmain, reduceCtorEq] at hstep
  cases hposted : s.posted with
  | nil => simp [hposted] at hstep
  | cons n rest =>
      simp only [hposted, Option.some.injEq] at hstep
      exact ⟨rfl, n, rest, rfl, hstep.symm⟩

theorem drawThrows_cases {drawn : Nat} (hstep : s.drawThrows cfg drawn = some s') :
    ∃ n, s.main = .slotDraw n ∧ s' = (s.drawSlot cfg n drawn).appQuit := by
  cases hmain : s.main <;> simp only [State.drawThrows, hmain, reduceCtorEq] at hstep
  exact ⟨_, rfl, (Option.some.inj hstep).symm⟩

theorem leaveLoop_cases (hstep : s.leaveLoop = some s') :
    s.main = .eventLoop ∧ s' = { s with main := .deleteEgl } := by
  cases hmain : s.main <;> simp only [State.leaveLoop, hmain, reduceCtorEq] at hstep
  exact ⟨rfl, (Option.some.inj hstep).symm⟩

theorem dispatch_cases {c : Callback} (hstep : s.dispatch c = some s') :
    s.comm = .checkWaitObjs ∧
      s' = { s with
        comm := c.entry s.callbacks.length
        callbacks := s.callbacks ++ c.paints } := by
  cases hcomm : s.comm <;> simp only [State.dispatch, hcomm, reduceCtorEq] at hstep
  exact ⟨rfl, (Option.some.inj hstep).symm⟩

theorem checkWaitObjsReturns_cases {closed : Bool}
    (hstep : s.checkWaitObjsReturns closed = some s') :
    s.comm = .checkWaitObjs ∧
      s' = { s with comm := if closed then .callExit else .processEvents } := by
  cases hcomm : s.comm <;> simp only [State.checkWaitObjsReturns, hcomm, reduceCtorEq] at hstep
  exact ⟨rfl, (Option.some.inj hstep).symm⟩

/-! ## The communicator thread -/

def CommPc.paint : CommPc → Option PaintRectsEx
  | .waitReady _ p | .emitSignal _ p | .waitRelease _ p | .frameAck p | .unmap p => some p
  | _ => none

/-- What follows a statement outside `server_paint_rects_ex`, other than the
call of `exit`. -/
def CommPc.next : CommPc → List CommPc
  | .testRunning => [.checkWaitObjs, .ended false]
  | .setCursor | .sendNotify _ | .enablePaint | .renderEgl => [.checkWaitObjs]
  | .testWindow construction pixmap => [.constructEgl construction pixmap, .sendNotify false]
  | .constructEgl _ _ => [.disablePaint, .sendNotify false]
  | .disablePaint => [.sendNotify true]
  | .clearEgl => [.enablePaint]
  | .processEvents => [.testRunning]
  | _ => []

theorem paint_of_next {pc pc' : CommPc} (hnext : pc' ∈ pc.next) :
    pc.paint = none ∧ pc'.paint = none := by
  cases pc <;> simp only [CommPc.next, List.mem_cons, List.not_mem_nil, or_false] at hnext
  case testRunning => rcases hnext with rfl | rfl <;> exact ⟨rfl, rfl⟩
  case testWindow => rcases hnext with rfl | rfl <;> exact ⟨rfl, rfl⟩
  case constructEgl => rcases hnext with rfl | rfl <;> exact ⟨rfl, rfl⟩
  all_goals
    subst hnext
    exact ⟨rfl, rfl⟩

theorem started_of_next {pc pc' : CommPc} (hnext : pc' ∈ pc.next) :
    pc ≠ .notStarted ∧ pc' ≠ .notStarted := by
  cases pc <;> simp only [CommPc.next, List.mem_cons, List.not_mem_nil, or_false] at hnext
  case testRunning => rcases hnext with rfl | rfl <;> exact ⟨nofun, nofun⟩
  case testWindow => rcases hnext with rfl | rfl <;> exact ⟨nofun, nofun⟩
  case constructEgl => rcases hnext with rfl | rfl <;> exact ⟨nofun, nofun⟩
  all_goals
    subst hnext
    exact ⟨nofun, nofun⟩

def pixels (qt : QtState) : Option QImage := qt.window.map QtWindow.framebuffer

/-- What a statement of the communicator thread can do: fault, advance a paint,
call `exit`, or move on outside the paints. -/
inductive CommEffect (cfg : Config) (s : State) : State → Prop
  | fault (fault : Fault)
      (huse : ∀ object, fault = .useAfterDelete object →
        object ∈ s.comm.uses ∧ s.isDeleted object = true) :
      CommEffect cfg s (s.crash fault)
  | ready (n : Nat) (p : PaintRectsEx) (hcomm : s.comm = .waitReady n p)
      (hlatch : s.appReadyLatch = 0) : CommEffect cfg s { s with comm := .emitSignal n p }
  | emitted (n : Nat) (p : PaintRectsEx) (hcomm : s.comm = .emitSignal n p)
      (hlive : s.isDeleted .qtState = false) :
      CommEffect cfg s (s.emitPaintRects n p)
  | released (n : Nat) (p : PaintRectsEx) (change : SyncChangeReference)
      (hcomm : s.comm = .waitRelease n p) (hchange : s.change? n = some change)
      (hlatch : change.releaseLatch = 0) :
      CommEffect cfg s { s with
        comm := .frameAck p
        changes := s.changes.filter fun entry => entry.1 ≠ n }
  | acked (p : PaintRectsEx) (hcomm : s.comm = .frameAck p) :
      CommEffect cfg s { s with
        comm := .unmap p
        acks := s.acks ++ [⟨p.flags, p.frameId, s.framebuffer cfg⟩] }
  | unmapped (p : PaintRectsEx) (hcomm : s.comm = .unmap p) :
      CommEffect cfg s { s with
        comm := .checkWaitObjs
        unmapped := s.unmapped ++ p.mapping.toList
        completed := s.completed ++ [p] }
  | exited (hcomm : s.comm = .callExit) :
      CommEffect cfg s { s.appQuit with comm := .ended true }
  | moved (comm : CommPc) (qt : QtState) (hnext : comm ∈ s.comm.next)
      (hpixels : pixels qt = pixels s.qt) (hlive : s.qt.EglLive → qt.EglLive)
      (hwindow : .window ∈ comm.uses → s.comm = .clearEgl ∨ s.qt.window.isSome) :
      CommEffect cfg s { s with comm := comm, qt := qt }

theorem commEffect_disablePaint (disable : Bool) {next : CommPc} (hnext : next ∈ s.comm.next)
    (huses : .window ∉ next.uses) : CommEffect cfg s (s.disablePaint disable next) := by
  cases hwindow : s.qt.window with
  | none =>
      rw [State.disablePaint, QtState.setDisablePaint, hwindow]
      exact .fault .nullWindow (by intro _ hfault; cases hfault)
  | some window =>
      rw [State.disablePaint, QtState.setDisablePaint, hwindow]
      apply CommEffect.moved next _ hnext
      · simp only [pixels, hwindow, Option.map_some, QtWindow.setDisablePaint]
      · exact fun hlive => ⟨hlive.live, hlive.deleted⟩
      · exact fun hmem => absurd hmem huses

theorem pixels_clearEgl (qt : QtState) : pixels qt.clearEgl = pixels qt := by
  rw [pixels, QtState.window_clearEgl, pixels]

theorem commNext_effect (hlive : ∀ object ∈ s.comm.uses, s.isDeleted object = false)
    (hstep : s.commNext cfg = some s') : CommEffect cfg s s' := by
  -- most statements only go on to the next one
  have hmoved : ∀ comm, comm ∈ s.comm.next → (.window ∈ comm.uses → s.qt.window.isSome) →
      { s with comm := comm } = s' → CommEffect cfg s s' := by
    intro comm hnext hwindow heq
    rw [← heq]
    exact .moved comm s.qt hnext rfl id fun hmem => .inr (hwindow hmem)
  cases hcomm : s.comm with
  | notStarted => simp [State.commNext, hcomm] at hstep
  | checkWaitObjs => simp [State.commNext, hcomm] at hstep
  | ended closed => simp [State.commNext, hcomm] at hstep
  | testRunning =>
      simp only [State.commNext, hcomm, Option.some.injEq] at hstep
      refine hmoved _ ?_ ?_ hstep
      · cases s.running <;> simp [CommPc.next, hcomm]
      · cases s.running <;> simp [CommPc.uses]
  | setCursor =>
      cases hwindow : s.qt.window with
      | none =>
          simp only [State.commNext, hcomm, hwindow, Option.some.injEq] at hstep
          rw [← hstep]
          exact .fault _ nofun
      | some window =>
          simp only [State.commNext, hcomm, hwindow, Option.some.injEq] at hstep
          exact hmoved _ (by simp [CommPc.next, hcomm]) (by simp [CommPc.uses]) hstep
  | waitReady n p =>
      simp only [State.commNext, hcomm, Option.ite_none_right_eq_some, Option.some.injEq] at hstep
      rw [← hstep.2]
      exact .ready n p hcomm hstep.1
  | emitSignal n p =>
      simp only [State.commNext, hcomm, Option.some.injEq] at hstep
      rw [← hstep]
      exact .emitted n p hcomm (hlive .qtState (by simp [hcomm, CommPc.uses]))
  | waitRelease n p =>
      cases hchange : s.change? n with
      | none => simp [State.commNext, hcomm, hchange] at hstep
      | some change =>
          simp only [State.commNext, hcomm, hchange, Option.ite_none_right_eq_some,
            Option.some.injEq] at hstep
          rw [← hstep.2]
          exact .released n p change hcomm hchange hstep.1
  | frameAck p =>
      simp only [State.commNext, hcomm, Option.some.injEq] at hstep
      rw [← hstep]
      exact .acked p hcomm
  | unmap p =>
      simp only [State.commNext, hcomm, Option.some.injEq] at hstep
      rw [← hstep]
      exact .unmapped p hcomm
  | testWindow construction pixmap =>
      cases hwindow : s.qt.window with
      | none =>
          simp only [State.commNext, hcomm, hwindow, Option.some.injEq] at hstep
          exact hmoved _ (by simp [CommPc.next, hcomm]) (by simp [CommPc.uses]) hstep
      | some window =>
          simp only [State.commNext, hcomm, hwindow, Option.some.injEq] at hstep
          exact hmoved _ (by simp [CommPc.next, hcomm]) (fun _ => by rw [hwindow]; rfl) hstep
  | constructEgl construction pixmap =>
      cases hwindow : s.qt.window with
      | none =>
          simp only [State.commNext, hcomm, hwindow, Option.some.injEq] at hstep
          rw [← hstep]
          exact .fault _ nofun
      | some window =>
          cases construction with
          | ok =>
              simp only [State.commNext, hcomm, hwindow, Option.some.injEq] at hstep
              rw [← hstep]
              exact .moved .disablePaint _ (by simp [CommPc.next, hcomm]) rfl
                (fun hlive => hlive.newEgl pixmap) fun _ => .inr (by rw [hwindow]; rfl)
          | error what =>
              simp only [State.commNext, hcomm, hwindow, Option.some.injEq] at hstep
              exact hmoved _ (by simp [CommPc.next, hcomm]) (by simp [CommPc.uses]) hstep
  | disablePaint =>
      simp only [State.commNext, hcomm, Option.some.injEq] at hstep
      rw [← hstep]
      exact commEffect_disablePaint _ (by simp [CommPc.next, hcomm]) (by simp [CommPc.uses])
  | sendNotify enabled =>
      simp only [State.commNext, hcomm, Option.some.injEq] at hstep
      exact hmoved _ (by simp [CommPc.next, hcomm]) (by simp [CommPc.uses]) hstep
  | clearEgl =>
      simp only [State.commNext, hcomm, Option.some.injEq] at hstep
      rw [← hstep]
      exact .moved .enablePaint _ (by simp [CommPc.next, hcomm]) (pixels_clearEgl s.qt)
        QtState.EglLive.clearEgl fun _ => .inl hcomm
  | enablePaint =>
      simp only [State.commNext, hcomm, Option.some.injEq] at hstep
      rw [← hstep]
      exact commEffect_disablePaint _ (by simp [CommPc.next, hcomm]) (by simp [CommPc.uses])
  | renderEgl =>
      cases hpaint : s.qt.paintDmaBuf with
      | error what =>
          simp only [State.commNext, hcomm, hpaint, Option.some.injEq] at hstep
          rw [← hstep]
          exact .fault _ nofun
      | ok egl =>
          simp only [State.commNext, hcomm, hpaint, Option.some.injEq] at hstep
          exact hmoved _ (by simp [CommPc.next, hcomm]) (by simp [CommPc.uses]) hstep
  | processEvents =>
      simp only [State.commNext, hcomm, Option.some.injEq] at hstep
      exact hmoved _ (by simp [CommPc.next, hcomm]) (by simp [CommPc.uses]) hstep
  | callExit =>
      simp only [State.commNext, hcomm, Option.some.injEq] at hstep
      rw [← hstep]
      exact .exited hcomm

theorem commStep_cases (hstep : s.commStep cfg = some s') :
    (∃ object ∈ s.comm.uses, s.isDeleted object = true ∧
      s' = s.crash (.useAfterDelete object)) ∨
    ((∀ object ∈ s.comm.uses, s.isDeleted object = false) ∧ s.commNext cfg = some s') := by
  rw [State.commStep] at hstep
  cases huses : s.comm.uses.find? s.isDeleted with
  | none =>
      rw [huses] at hstep
      refine .inr ⟨fun object hmem => ?_, hstep⟩
      have hnone := List.find?_eq_none.mp huses object hmem
      simpa using hnone
  | some object =>
      rw [huses] at hstep
      exact .inl ⟨object, List.mem_of_find?_eq_some huses, List.find?_some huses,
        (Option.some.inj hstep).symm⟩

theorem commStep_of_live (cfg : Config)
    (hlive : ∀ object ∈ s.comm.uses, s.isDeleted object = false) :
    s.commStep cfg = s.commNext cfg := by
  have hfind : s.comm.uses.find? s.isDeleted = none := by
    rw [List.find?_eq_none]
    exact fun object hmem => by simp [hlive object hmem]
  rw [State.commStep, hfind]

theorem commStep_effect (hstep : s.commStep cfg = some s') : CommEffect cfg s s' := by
  rcases commStep_cases hstep with ⟨object, hmem, hdeleted, rfl⟩ | ⟨hlive, hnext⟩
  · apply CommEffect.fault
    intro object' heq
    rw [← Fault.useAfterDelete.inj heq]
    exact ⟨hmem, hdeleted⟩
  · exact commNext_effect hlive hnext

/-! ## The main thread -/

/-- What the start-up has done, by the point that the main thread has reached. -/
structure Started (s : State) : Prop where
  window : s.qt.window.isSome ↔ s.main.after .createWindow
  connected : s.connected = true ↔ s.main.after .connectSignal
  appReady : s.appReadyLatch = if s.main.after .countDown then 0 else 1
  notStarted : s.comm = .notStarted ↔ ¬ s.main.after .constructXup
  emitted : ∀ n p, s.comm = .emitSignal n p ∨ s.comm = .waitRelease n p → s.main.after .countDown

/-- Only the stage of the main thread matters. -/
theorem Started.of_stage (h : Started s) (hstage : s'.main.stage = s.main.stage)
    (hconnected : s'.connected = s.connected) (hready : s'.appReadyLatch = s.appReadyLatch)
    (hwindow : s'.qt.window.isSome = s.qt.window.isSome)
    (hnotStarted : s'.comm = .notStarted ↔ s.comm = .notStarted)
    (hemitted : ∀ n p, s'.comm = .emitSignal n p ∨ s'.comm = .waitRelease n p →
      s.main.after .countDown) : Started s' := by
  have hafter : ∀ pc, s'.main.after pc ↔ s.main.after pc := by
    intro pc
    rw [MainPc.after, MainPc.after, hstage]
  refine ⟨?_, ?_, ?_, ?_, ?_⟩
  · rw [hwindow, hafter]
    exact h.window
  · rw [hconnected, hafter]
    exact h.connected
  · simp only [hready, hafter]
    exact h.appReady
  · rw [hnotStarted, hafter]
    exact h.notStarted
  · simp only [hafter]
    exact hemitted

theorem Started.counted (h : Started s) (hlatch : s.appReadyLatch = 0) :
    s.main.after .countDown := by
  by_contra hnot
  have hready := h.appReady
  rw [if_neg hnot] at hready
  omega

theorem started_commEffect (h : Started s) (heffect : CommEffect cfg s s') : Started s' := by
  cases heffect with
  | fault fault huse => exact h.of_stage rfl rfl rfl rfl Iff.rfl h.emitted
  | ready n p hcomm hlatch =>
      exact h.of_stage rfl rfl rfl rfl (by simp [hcomm]) fun _ _ _ => h.counted hlatch
  | emitted n p hcomm hlive =>
      have hcounted := h.emitted n p (.inl hcomm)
      exact h.of_stage rfl rfl rfl rfl (by simp [hcomm, State.emitPaintRects]) fun _ _ _ => hcounted
  | released n p change hcomm hchange hlatch =>
      exact h.of_stage rfl rfl rfl rfl (by simp [hcomm]) (by simp)
  | acked p hcomm => exact h.of_stage rfl rfl rfl rfl (by simp [hcomm]) (by simp)
  | unmapped p hcomm => exact h.of_stage rfl rfl rfl rfl (by simp [hcomm]) (by simp)
  | exited hcomm => exact h.of_stage rfl rfl rfl rfl (by simp [hcomm]) (by simp)
  | moved comm qt hnext hpixels hlive hwindow =>
      have hsome := congrArg Option.isSome hpixels
      simp only [pixels, Option.isSome_map] at hsome
      refine h.of_stage rfl rfl rfl hsome ?_ ?_
      · simp [started_of_next hnext]
      · rintro n p (rfl | rfl) <;> cases (paint_of_next hnext).2

theorem drawSlot_cases (cfg : Config) (s : State) (n drawn : Nat) :
    (s.change? n = none ∨ s.qt.window = none) ∧ s.drawSlot cfg n drawn = s.crash .danglingChange ∨
    ∃ change window, s.change? n = some change ∧ s.qt.window = some window ∧
      s.drawSlot cfg n drawn = { s with
        main := .slotSignal n
        qt := { s.qt with window := some (window.paintRects cfg.drawImage change drawn) } } := by
  cases hchange : s.change? n with
  | none => exact .inl ⟨.inl rfl, by rw [State.drawSlot, hchange]⟩
  | some change =>
      cases hwindow : s.qt.window with
      | none => exact .inl ⟨.inr rfl, by rw [State.drawSlot, hchange, hwindow]⟩
      | some window =>
          exact .inr ⟨change, window, rfl, rfl, by rw [State.drawSlot, hchange, hwindow]⟩

theorem started_drawSlot (h : Started s) {n : Nat} (hmain : s.main = .slotDraw n) (drawn : Nat) :
    Started (s.drawSlot cfg n drawn) := by
  rcases drawSlot_cases cfg s n drawn with ⟨_, heq⟩ | ⟨change, window, _, hwindow, heq⟩
  · rw [heq]
    exact h.of_stage rfl rfl rfl rfl Iff.rfl h.emitted
  · rw [heq]
    exact h.of_stage (by rw [hmain]; rfl) rfl rfl (by rw [hwindow]; rfl) Iff.rfl h.emitted

theorem started_signalSlot (h : Started s) {n : Nat} (hmain : s.main = .slotSignal n) :
    Started (s.signalSlot n) := by
  cases hchange : s.change? n with
  | none =>
      rw [State.signalSlot, hchange]
      exact h.of_stage rfl rfl rfl rfl Iff.rfl h.emitted
  | some change =>
      rw [State.signalSlot, hchange]
      exact h.of_stage (by rw [hmain]; rfl) rfl rfl rfl Iff.rfl h.emitted

theorem started_mainNext (h : Started s) (hstep : s.mainNext cfg = some s') : Started s' := by
  cases hmain : s.main
  case slotDraw n =>
    simp only [State.mainNext, hmain, Option.some.injEq] at hstep
    rw [← hstep]
    exact started_drawSlot h hmain _
  case slotSignal n =>
    simp only [State.mainNext, hmain, Option.some.injEq] at hstep
    rw [← hstep]
    exact started_signalSlot h hmain
  case join =>
    obtain ⟨hwindow, hconnected, hready, hnotStarted, hemitted⟩ := h
    cases hcomm : s.comm <;> simp only [State.mainNext, hmain, hcomm, Option.some.injEq,
      reduceCtorEq] at hstep
    subst s'
    constructor <;> simp_all [MainPc.after, MainPc.stage]
  -- straight-line statements
  all_goals
    obtain ⟨hwindow, hconnected, hready, hnotStarted, hemitted⟩ := h
    simp only [State.mainNext, hmain, Option.some.injEq, reduceCtorEq] at hstep
  all_goals
    subst s'
    constructor <;> simp_all [MainPc.after, MainPc.stage]

theorem started_step (h : Started s) (hstep : step cfg s a = some s') : Started s' := by
  have hrunning := running_of_step hstep
  simp only [step, hrunning] at hstep
  cases a with
  | main => exact started_mainNext h hstep
  | runSlot =>
      obtain ⟨hmain, n, rest, _, rfl⟩ := runSlot_cases hstep
      exact h.of_stage (by rw [hmain]; rfl) rfl rfl rfl Iff.rfl h.emitted
  | drawThrows drawn =>
      obtain ⟨n, hmain, rfl⟩ := drawThrows_cases hstep
      have hdraw : Started (s.drawSlot cfg n drawn) := started_drawSlot h hmain drawn
      exact hdraw.of_stage rfl rfl rfl rfl Iff.rfl hdraw.emitted
  | leaveLoop =>
      obtain ⟨hmain, rfl⟩ := leaveLoop_cases hstep
      obtain ⟨hwindow, hconnected, hready, hnotStarted, hemitted⟩ := h
      constructor <;> simp_all [MainPc.after, MainPc.stage]
  | comm => exact started_commEffect h (commStep_effect hstep)
  | dispatch c =>
      obtain ⟨hcomm, rfl⟩ := dispatch_cases hstep
      refine h.of_stage rfl rfl rfl rfl ?_ ?_
      · cases c <;> simp [hcomm, Callback.entry]
      · cases c <;> simp [Callback.entry]
  | checkWaitObjsReturns closed =>
      obtain ⟨hcomm, rfl⟩ := checkWaitObjsReturns_cases hstep
      refine h.of_stage rfl rfl rfl rfl ?_ ?_
      · cases closed <;> simp [hcomm]
      · cases closed <;> simp

theorem started_of_reachable {ok : State → Action → Prop}
    (hreach : (machine cfg).ReachableBy ok s) : Started s := by
  have hstart : Started (machine cfg).start := by
    constructor <;> simp [machine, MainPc.after, MainPc.stage]
  exact hreach.invariant hstart fun _ h _ hstep => started_step h hstep

/-- What a statement of the main thread can do: run part of a slot call, drop
the posted calls with the window, or advance the start-up or the shutdown. -/
inductive MainEffect (cfg : Config) (s : State) : State → Prop
  | drew (n drawn : Nat) (hmain : s.main = .slotDraw n)
      (hdrawn : ∀ change, s.change? n = some change → drawn = change.rects.length) :
      MainEffect cfg s (s.drawSlot cfg n drawn)
  | signalled (n : Nat) (hmain : s.main = .slotSignal n) : MainEffect cfg s (s.signalSlot n)
  | dropped (hmain : s.main = .deleteWindow) :
      MainEffect cfg s { s with main := .deleteApp, posted := [] }
  | advanced (main : MainPc) (comm : CommPc) (qt : QtState) (connected : Bool) (latch : Nat)
      (quit running : Bool) (hslot : s.main.slot = none) (hslot' : main.slot = none)
      (hloop : s.main ≠ .eventLoop) (hstage : main.stage = s.main.stage + 1)
      (hlive : s.main ≠ .deleteEgl → s.qt.EglLive → qt.EglLive)
      (hcomm : comm = s.comm ∨ s.comm = .notStarted ∧ comm = .testRunning)
      (hpixels : (pixels qt).getD cfg.framebuffer = s.framebuffer cfg) :
      MainEffect cfg s { s with
        main := main
        comm := comm
        qt := qt
        connected := connected
        appReadyLatch := latch
        quit := quit
        running := running }

theorem mainNext_effect (h : Started s) (hstep : s.mainNext cfg = some s') :
    MainEffect cfg s s' := by
  cases hmain : s.main
  case slotDraw n =>
    simp only [State.mainNext, hmain, Option.some.injEq] at hstep
    rw [← hstep]
    apply MainEffect.drew n _ hmain
    intro change hchange
    simp [hchange]
  case slotSignal n =>
    simp only [State.mainNext, hmain, Option.some.injEq] at hstep
    rw [← hstep]
    exact .signalled n hmain
  case deleteWindow =>
    simp only [State.mainNext, hmain, Option.some.injEq] at hstep
    rw [← hstep]
    exact .dropped hmain
  case constructXup =>
    have hnotStarted : s.comm = .notStarted := by
      rw [h.notStarted, hmain]
      decide
    simp only [State.mainNext, hmain, Option.some.injEq] at hstep
    rw [← hstep]
    exact .advanced _ _ _ _ _ _ _ (by rw [hmain]; rfl) rfl (by simp [hmain]) (by rw [hmain]; rfl)
      (fun _ => id) (.inr ⟨hnotStarted, rfl⟩) rfl
  case createWindow =>
    have hwindow : s.qt.window = none := by
      have hnot : ¬ s.main.after .createWindow := by
        rw [hmain]
        decide
      rw [← h.window] at hnot
      simpa using hnot
    have hpixels : cfg.framebuffer = s.framebuffer cfg := by
      rw [State.framebuffer, hwindow]
      rfl
    simp only [State.mainNext, hmain, Option.some.injEq] at hstep
    rw [← hstep]
    exact .advanced _ _ _ _ _ _ _ (by rw [hmain]; rfl) rfl (by simp [hmain]) (by rw [hmain]; rfl)
      (fun _ hlive => ⟨hlive.live, hlive.deleted⟩) (.inl rfl) hpixels
  case deleteEgl =>
    have hpixels : pixels s.qt.deleteEgl = pixels s.qt := by
      rw [pixels, QtState.window_deleteEgl, pixels]
    simp only [State.mainNext, hmain, Option.some.injEq] at hstep
    rw [← hstep]
    exact .advanced _ _ _ _ _ _ _ (by rw [hmain]; rfl) rfl (by simp [hmain]) (by rw [hmain]; rfl)
      (fun hne => absurd hmain hne) (.inl rfl)
      (congrArg (fun image => image.getD cfg.framebuffer) hpixels)
  case join =>
    cases hcomm : s.comm <;> simp only [State.mainNext, hmain, hcomm, Option.some.injEq,
      reduceCtorEq] at hstep
    rw [← hstep]
    exact .advanced _ _ _ _ _ _ _ (by rw [hmain]; rfl) rfl (by simp [hmain]) (by rw [hmain]; rfl)
      (fun _ => id) (.inl hcomm.symm) rfl
  all_goals simp only [State.mainNext, hmain, Option.some.injEq, reduceCtorEq] at hstep
  -- the other straight-line statements touch neither thread's objects
  all_goals
    rw [← hstep]
    exact .advanced _ _ _ _ _ _ _ (by rw [hmain]; rfl) rfl (by simp [hmain]) (by rw [hmain]; rfl)
      (fun _ => id) (.inl rfl) rfl

inductive StepEffect (cfg : Config) (s : State) : Action → State → Prop
  | main (s' : State) (heffect : MainEffect cfg s s') : StepEffect cfg s .main s'
  | runSlot (n : Nat) (rest : List Nat) (hmain : s.main = .eventLoop)
      (hposted : s.posted = n :: rest) :
      StepEffect cfg s .runSlot { s with main := .slotDraw n, posted := rest }
  | drawThrows (n drawn : Nat) (hmain : s.main = .slotDraw n) :
      StepEffect cfg s (.drawThrows drawn) (s.drawSlot cfg n drawn).appQuit
  | leaveLoop (hmain : s.main = .eventLoop) :
      StepEffect cfg s .leaveLoop { s with main := .deleteEgl }
  | comm (s' : State) (heffect : CommEffect cfg s s') : StepEffect cfg s .comm s'
  | dispatch (c : Callback) (hcomm : s.comm = .checkWaitObjs) :
      StepEffect cfg s (.dispatch c) { s with
        comm := c.entry s.callbacks.length
        callbacks := s.callbacks ++ c.paints }
  | returned (closed : Bool) (hcomm : s.comm = .checkWaitObjs) :
      StepEffect cfg s (.checkWaitObjsReturns closed)
        { s with comm := if closed then .callExit else .processEvents }

theorem step_effect (h : Started s) (hstep : step cfg s a = some s') : StepEffect cfg s a s' := by
  have hrunning := running_of_step hstep
  simp only [step, hrunning] at hstep
  cases a with
  | main => exact .main s' (mainNext_effect h hstep)
  | runSlot =>
      obtain ⟨hmain, n, rest, hposted, rfl⟩ := runSlot_cases hstep
      exact .runSlot n rest hmain hposted
  | drawThrows drawn =>
      obtain ⟨n, hmain, rfl⟩ := drawThrows_cases hstep
      exact .drawThrows n drawn hmain
  | leaveLoop =>
      obtain ⟨hmain, rfl⟩ := leaveLoop_cases hstep
      exact .leaveLoop hmain
  | comm => exact .comm s' (commStep_effect hstep)
  | dispatch c =>
      obtain ⟨hcomm, rfl⟩ := dispatch_cases hstep
      exact .dispatch c hcomm
  | checkWaitObjsReturns closed =>
      obtain ⟨hcomm, rfl⟩ := checkWaitObjsReturns_cases hstep
      exact .returned closed hcomm

@[simp] theorem comm_drawSlot (cfg : Config) (s : State) (n drawn : Nat) :
    (s.drawSlot cfg n drawn).comm = s.comm := by
  rcases drawSlot_cases cfg s n drawn with ⟨_, heq⟩ | ⟨_, _, _, _, heq⟩ <;> rw [heq]
  rfl

@[simp] theorem comm_signalSlot (s : State) (n : Nat) : (s.signalSlot n).comm = s.comm := by
  rw [State.signalSlot]
  cases s.change? n <;> rfl

theorem stage_drawSlot {n : Nat} (hmain : s.main = .slotDraw n) (drawn : Nat) :
    (s.drawSlot cfg n drawn).main.stage = s.main.stage := by
  rcases drawSlot_cases cfg s n drawn with ⟨_, heq⟩ | ⟨_, _, _, _, heq⟩ <;> rw [heq]
  · rfl
  · rw [hmain]
    rfl

theorem stage_signalSlot {n : Nat} (hmain : s.main = .slotSignal n) :
    (s.signalSlot n).main.stage = s.main.stage := by
  rw [State.signalSlot]
  cases s.change? n
  · rfl
  · rw [hmain]
    rfl

theorem comm_of_mainEffect (heffect : MainEffect cfg s s') :
    s'.comm = s.comm ∨ s.comm = .notStarted ∧ s'.comm = .testRunning := by
  cases heffect with
  | drew n drawn hmain hdrawn => exact .inl (comm_drawSlot cfg s n drawn)
  | signalled n hmain => exact .inl (comm_signalSlot s n)
  | dropped hmain => exact .inl rfl
  | advanced main comm qt connected latch quit running hslot hslot' hloop hstage hlive hcomm
      hpixels =>
      exact hcomm

theorem stage_of_mainEffect (heffect : MainEffect cfg s s') : s.main.stage ≤ s'.main.stage := by
  cases heffect with
  | drew n drawn hmain hdrawn => exact Nat.le_of_eq (stage_drawSlot hmain drawn).symm
  | signalled n hmain => exact Nat.le_of_eq (stage_signalSlot hmain).symm
  | dropped hmain =>
      rw [hmain]
      exact Nat.le_succ _
  | advanced main comm qt connected latch quit running hslot hslot' hloop hstage hlive hcomm
      hpixels =>
      show s.main.stage ≤ main.stage
      omega

/-! ## Deletion -/

/-- Until the main thread deletes it, the `EGLState` in use is alive. -/
def EglKept (s : State) : Prop := ¬ s.main.after .deleteEgl → s.qt.EglLive

theorem not_deleted (hbefore : ¬ s.main.after .deleteEgl) (hlive : EglKept s) (object : Object) :
    s.isDeleted object = false := by
  cases object with
  | qtState => simpa [State.isDeleted] using fun hafter => hbefore (after_trans hafter (by decide))
  | window => simpa [State.isDeleted] using fun hafter => hbefore (after_trans hafter (by decide))
  | app => simpa [State.isDeleted] using fun hafter => hbefore (after_trans hafter (by decide))
  | egl =>
      cases hegl : s.qt.egl with
      | none => simp [State.isDeleted, hegl]
      | some egl => simpa [State.isDeleted, hegl] using ((hlive hbefore).live egl hegl).2

theorem eglKept_drawSlot (h : EglKept s) {n : Nat} (hmain : s.main = .slotDraw n) (drawn : Nat) :
    EglKept (s.drawSlot cfg n drawn) := by
  have hlive : s.qt.EglLive := h (by rw [hmain]; simp [MainPc.after, MainPc.stage])
  rcases drawSlot_cases cfg s n drawn with ⟨_, heq⟩ | ⟨change, window, _, _, heq⟩ <;> rw [heq]
  · exact fun _ => hlive
  · exact fun _ => ⟨hlive.live, hlive.deleted⟩

theorem eglKept_mainEffect (h : EglKept s) (heffect : MainEffect cfg s s') : EglKept s' := by
  cases heffect with
  | drew n drawn hmain hdrawn => exact eglKept_drawSlot h hmain drawn
  | signalled n hmain =>
      have hlive : s.qt.EglLive := h (by rw [hmain]; simp [MainPc.after, MainPc.stage])
      rw [State.signalSlot]
      cases s.change? n <;> exact fun _ => hlive
  | dropped hmain =>
      have hafter : MainPc.deleteApp.after .deleteEgl := by decide
      exact fun hbefore => absurd hafter hbefore
  | advanced main comm qt connected latch quit running hslot hslot' hloop hstage hlive hcomm
      hpixels =>
      intro hbefore
      have hle : ¬ 8 < main.stage := hbefore
      refine hlive ?_ (h ?_)
      · intro hmain
        rw [hmain] at hstage
        exact hle (by rw [hstage]; decide)
      · show ¬ 8 < s.main.stage
        omega

theorem eglKept_commEffect (h : EglKept s) (heffect : CommEffect cfg s s') : EglKept s' := by
  cases heffect with
  | moved comm qt hnext hpixels hlive hwindow => exact fun hbefore => hlive (h hbefore)
  | _ => exact h

theorem eglKept_step (h : EglKept s) (hstarted : Started s) (hstep : step cfg s a = some s') :
    EglKept s' := by
  cases step_effect hstarted hstep with
  | main _ heffect => exact eglKept_mainEffect h heffect
  | runSlot n rest hmain hposted => exact fun _ => h (by rw [hmain]; decide)
  | drawThrows n drawn hmain => exact eglKept_drawSlot h hmain drawn
  | leaveLoop hmain => exact fun _ => h (by rw [hmain]; decide)
  | comm _ heffect => exact eglKept_commEffect h heffect
  | dispatch c hcomm => exact h
  | returned closed hcomm => exact h

theorem eglKept_of_reachable {ok : State → Action → Prop}
    (hreach : (machine cfg).ReachableBy ok s) : EglKept s := by
  have hstart : EglKept (machine cfg).start := by
    exact fun _ => ⟨nofun, fun _ hmem => absurd hmem List.not_mem_nil⟩
  exact hreach.invariant hstart fun hreach h _ hstep =>
    eglKept_step h (started_of_reachable hreach) hstep

end XrdpLocal.Threads
