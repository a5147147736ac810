import XrdpLocal.Threads.Shutdown
import XrdpLocal.Threads.Startup
/-!
# Paints whose drawing throws

`paint_rects_slot` catches an exception, asks the application to quit and still
counts the latch down. So a paint that was drawn in part is acknowledged and
unmapped like any other, and no slot call touches a change that is gone; in
this module every run counts, with exceptions and while shutting down
(`paints_accounted`). An exception itself is never lost: a quit is pending from
then on (`quit_of_thrown`).
-/

namespace XrdpLocal.Threads

open StateMachine XrdpLocal.Qt

variable {cfg : Config} {s s' : State} {a : Action}

/-! ## The books of the communicator thread -/

def State.inHand (s : State) : List PaintRectsEx := s.comm.paint.toList

def State.confirmed (s : State) : List PaintRectsEx :=
  match s.comm with
  | .unmap p => [p]
  | _ => []

/-- Every paint called is returned from once, acknowledged once before, and
unmapped once, in the order of the calls. -/
structure Booked (s : State) : Prop where
  calls : s.callbacks = s.completed ++ s.inHand
  acks : s.acks.map (fun ack => (ack.flags, ack.frameId)) =
    (s.completed ++ s.confirmed).map fun p => (p.flags, p.frameId)
  unmapped : s.unmapped = s.completed.filterMap PaintRectsEx.mapping

theorem confirmed_of_paint (hpaint : s.comm.paint = none) : s.confirmed = [] := by
  cases hcomm : s.comm <;> simp only [hcomm, CommPc.paint, reduceCtorEq] at hpaint <;>
    simp only [State.confirmed, hcomm]

theorem Booked.outside (h : Booked s) (hpaint : s.comm.paint = none)
    (hpaint' : s'.comm.paint = none) (hcalls : s'.callbacks = s.callbacks)
    (hacks : s'.acks = s.acks) (hunmapped : s'.unmapped = s.unmapped)
    (hcompleted : s'.completed = s.completed) : Booked s' := by
  obtain ⟨hc, ha, hu⟩ := h
  rw [State.inHand, hpaint] at hc
  rw [confirmed_of_paint hpaint] at ha
  constructor
  · rw [hcalls, hcompleted, State.inHand, hpaint', hc]
  · rw [hacks, hcompleted, confirmed_of_paint hpaint', ha]
  · rw [hunmapped, hcompleted, hu]

theorem booked_mainEffect (h : Booked s) (heffect : MainEffect cfg s s') : Booked s' := by
  cases heffect with
  | drew n drawn hmain hdrawn =>
      rcases drawSlot_cases cfg s n drawn with ⟨_, heq⟩ | ⟨_, _, _, _, heq⟩ <;> rw [heq] <;>
        exact ⟨h.calls, h.acks, h.unmapped⟩
  | signalled n hmain =>
      rw [State.signalSlot]
      cases s.change? n <;> exact ⟨h.calls, h.acks, h.unmapped⟩
  | dropped hmain => exact ⟨h.calls, h.acks, h.unmapped⟩
  | advanced main comm qt connected latch quit running hslot hslot' hloop hstage hlive hcomm
      hpixels =>
      rcases hcomm with rfl | ⟨hnot, rfl⟩
      · exact ⟨h.calls, h.acks, h.unmapped⟩
      · exact h.outside (by rw [hnot]; rfl) rfl rfl rfl rfl rfl

theorem booked_commEffect (h : Booked s) (heffect : CommEffect cfg s s') : Booked s' := by
  obtain ⟨hcalls, hacks, hunmapped⟩ := h
  cases heffect with
  | fault fault huse => exact ⟨hcalls, hacks, hunmapped⟩
  | ready n p hcomm hlatch =>
      simp only [State.inHand, State.confirmed, hcomm] at hcalls hacks
      exact ⟨hcalls, hacks, hunmapped⟩
  | emitted n p hcomm hlive =>
      simp only [State.inHand, State.confirmed, hcomm] at hcalls hacks
      exact ⟨hcalls, hacks, hunmapped⟩
  | released n p change hcomm hchange hlatch =>
      simp only [State.inHand, State.confirmed, hcomm] at hcalls hacks
      exact ⟨hcalls, hacks, hunmapped⟩
  | acked p hcomm =>
      simp only [State.inHand, State.confirmed, hcomm, List.append_nil] at hcalls hacks
      refine ⟨hcalls, ?_, hunmapped⟩
      simp only [List.map_append, State.confirmed, hacks]
      rfl
  | unmapped p hcomm =>
      simp only [State.inHand, State.confirmed, hcomm] at hcalls hacks
      refine ⟨?_, ?_, ?_⟩
      · rw [hcalls]
        exact (List.append_nil _).symm
      · simpa only [State.confirmed, List.append_nil] using hacks
      · rw [List.filterMap_append, ← hunmapped]
        cases hmapping : p.mapping <;> simp [hmapping]
  | exited hcomm =>
      have h : Booked s := ⟨hcalls, hacks, hunmapped⟩
      exact h.outside (by rw [hcomm]; rfl) rfl rfl rfl rfl rfl
  | moved comm qt hnext hpixels hlive hwindow =>
      have h : Booked s := ⟨hcalls, hacks, hunmapped⟩
      exact h.outside (paint_of_next hnext).1 (paint_of_next hnext).2 rfl rfl rfl rfl

theorem booked_step (h : Booked s) (hstarted : Started s) (hstep : step cfg s a = some s') :
    Booked s' := by
  cases step_effect hstarted hstep with
  | main _ heffect => exact booked_mainEffect h heffect
  | runSlot n rest hmain hposted => exact ⟨h.calls, h.acks, h.unmapped⟩
  | drawThrows n drawn hmain =>
      rcases drawSlot_cases cfg s n drawn with ⟨_, heq⟩ | ⟨_, _, _, _, heq⟩ <;> rw [heq] <;>
        exact ⟨h.calls, h.acks, h.unmapped⟩
  | leaveLoop hmain => exact ⟨h.calls, h.acks, h.unmapped⟩
  | comm _ heffect => exact booked_commEffect h heffect
  | dispatch c hcomm =>
      obtain ⟨hcalls, hacks, hunmapped⟩ := h
      simp only [State.inHand, State.confirmed, hcomm, CommPc.paint, Option.toList_none,
        List.append_nil] at hcalls hacks
      refine ⟨?_, ?_, hunmapped⟩
      · simp only [hcalls, State.inHand]
        cases c <;> rfl
      · simp only [hacks, State.confirmed]
        cases c <;> simp [Callback.entry]
  | returned closed hcomm =>
      exact h.outside (by rw [hcomm]; rfl) (by cases closed <;> rfl) rfl rfl rfl rfl

theorem booked_of_reachable {ok : State → Action → Prop}
    (hreach : (machine cfg).ReachableBy ok s) : Booked s :=
  hreach.invariant ⟨rfl, rfl, rfl⟩ fun hreach h _ hstep =>
    booked_step h (started_of_reachable hreach) hstep

/-! ## No slot call without its change -/

theorem crashed_disablePaint {disable : Bool} {next : CommPc} (hnone : s.crashed = none) :
    (s.disablePaint disable next).crashed ≠ some .danglingChange := by
  rw [State.disablePaint]
  cases s.qt.setDisablePaint disable <;> simp [State.crash, hnone]

/-- The communicator thread has faults of its own, but not this one. -/
theorem crashed_commStep (hnone : s.crashed = none) (hstep : s.commStep cfg = some s') :
    s'.crashed ≠ some .danglingChange := by
  rcases commStep_cases hstep with ⟨object, _, _, rfl⟩ | ⟨_, hnext⟩
  · simp [State.crash]
  · cases hcomm : s.comm <;> simp only [State.commNext, hcomm] at hnext
    case disablePaint =>
      rw [← Option.some.inj hnext]
      exact crashed_disablePaint hnone
    case enablePaint =>
      rw [← Option.some.inj hnext]
      exact crashed_disablePaint hnone
    -- each of the others keeps `crashed` or sets another fault
    all_goals grind [State.crash, State.emitPaintRects, State.appQuit]

theorem crashed_step (hout : Outstanding s) (hstarted : Started s)
    (hstep : step cfg s a = some s') : s'.crashed ≠ some .danglingChange := by
  have hnone := running_of_step hstep
  have hdraw : ∀ n drawn, s.main = .slotDraw n →
      (s.drawSlot cfg n drawn).crashed ≠ some .danglingChange := by
    intro n drawn hmain
    obtain ⟨p, window, _, _, _, heq⟩ := drawSlot_of_outstanding cfg hout hstarted hmain drawn
    simp [heq, hnone]
  have heffect := step_effect hstarted hstep
  simp only [step, hnone] at hstep
  cases heffect with
  | main _ heffect =>
      cases heffect with
      | drew n drawn hmain hdrawn => exact hdraw n drawn hmain
      | signalled n hmain =>
          obtain ⟨p, _, _, _, heq⟩ := signalSlot_of_outstanding hout hmain
          simp [heq, hnone]
      | dropped hmain => simp [hnone]
      | advanced main comm qt connected latch quit running hslot hslot' hloop hstage hlive hcomm
          hpixels =>
          simp [hnone]
  | runSlot n rest hmain hposted => simp [hnone]
  | drawThrows n drawn hmain => exact hdraw n drawn hmain
  | leaveLoop hmain => simp [hnone]
  | comm _ _ => exact crashed_commStep hnone hstep
  | dispatch c hcomm => simp [hnone]
  | returned closed hcomm => simp [hnone]

theorem crashed_of_reachable {ok : State → Action → Prop}
    (hreach : (machine cfg).ReachableBy ok s) : s.crashed ≠ some .danglingChange :=
  hreach.invariant (I := fun s => s.crashed ≠ some .danglingChange)
    (by intro hcrashed; cases hcrashed) fun hreach _ _ hstep =>
      crashed_step (outstanding_of_reachable hreach) (started_of_reachable hreach) hstep

/-! ## The end -/

def Joined (s : State) : Prop := s.main = .exited → ∃ closed, s.comm = .ended closed

theorem joined_step (h : Joined s) (hstarted : Started s) (hstep : step cfg s a = some s') :
    Joined s' := by
  intro hmain'
  have hrunning := running_of_step hstep
  have hbusy : s.main = .exited → ∀ pc, (∀ closed, pc ≠ .ended closed) → s.comm ≠ pc := by
    intro hmain pc hpc hcomm
    obtain ⟨closed, hclosed⟩ := h hmain
    exact hpc closed (hcomm.symm.trans hclosed)
  have heffect := step_effect hstarted hstep
  simp only [step, hrunning] at hstep
  cases heffect with
  | main _ _ =>
      rcases ended_of_exited hstep hmain' with hmain | hended
      · simp [State.mainNext, hmain] at hstep
      · obtain ⟨closed, hclosed⟩ := hended
        rcases comm_of_mainEffect (mainNext_effect hstarted hstep) with hcomm | ⟨hnot, _⟩
        · exact ⟨closed, hcomm.trans hclosed⟩
        · rw [hclosed] at hnot
          cases hnot
  | runSlot n rest hmain hposted => cases hmain'
  | drawThrows n drawn hmain =>
      have hstage : (s.drawSlot cfg n drawn).main.stage = s.main.stage := stage_drawSlot hmain drawn
      rw [show (s.drawSlot cfg n drawn).main = .exited from hmain', hmain] at hstage
      cases hstage
  | leaveLoop hmain => cases hmain'
  | comm _ heffect =>
      have hmain : s.main = .exited := by
        cases heffect <;> exact hmain'
      obtain ⟨closed, hclosed⟩ := h hmain
      simp [State.commStep, State.commNext, CommPc.uses, hclosed] at hstep
  | dispatch c hcomm => exact absurd hcomm (hbusy hmain' _ fun closed h => by cases h)
  | returned closed hcomm => exact absurd hcomm (hbusy hmain' _ fun closed h => by cases h)

theorem joined_of_reachable {ok : State → Action → Prop}
    (hreach : (machine cfg).ReachableBy ok s) : Joined s :=
  hreach.invariant (by intro hmain; cases hmain) fun hreach h _ hstep =>
    joined_step h (started_of_reachable hreach) hstep

/-- The paint that waits for change `n`, which is alive and not released, and
whose memory is still mapped. -/
structure Awaited (s : State) (n : Nat) (p : PaintRectsEx) : Prop where
  waits : s.comm = .waitRelease n p
  change : s.change? n = some p.change
  mapped : s.callbacks = s.completed ++ [p]

/-- Whether drawing throws or not, and also while the application shuts down:
every paint is acknowledged, unmapped and returned from once, in order, and a
slot call that is posted or running finds its change and its pixels. -/
structure PaintsAccounted (s : State) : Prop extends Booked s where
  exited : s.main = .exited → s.completed = s.callbacks
  slot : ∀ n, s.main.slot = some n → ∃ p, Awaited s n p
  posted : ∀ n ∈ s.posted, ∃ p, Awaited s n p
  noDangling : s.crashed ≠ some .danglingChange

theorem paints_accounted (cfg : Config) (hreach : (machine cfg).Reachable s) :
    PaintsAccounted s := by
  have hout := outstanding_of_reachable hreach
  have hbooked := booked_of_reachable hreach
  have hawaited : ∀ n p, s.comm = .waitRelease n p → s.changes = [(n, p.change)] →
      Awaited s n p := by
    intro n p hcomm hchanges
    refine ⟨hcomm, change?_of_changes hchanges, ?_⟩
    rw [hbooked.calls, State.inHand, hcomm]
    rfl
  refine ⟨hbooked, ?_, ?_, ?_, crashed_of_reachable hreach⟩
  · intro hmain
    obtain ⟨closed, hcomm⟩ := joined_of_reachable hreach hmain
    rw [hbooked.calls, State.inHand, hcomm]
    exact (List.append_nil _).symm
  · intro n hslot
    obtain ⟨p, hcomm, hchanges, _⟩ := hout.of_slot hslot
    exact ⟨p, hawaited n p hcomm hchanges⟩
  · intro n hmem
    cases hout with
    | posted m p hcomm hchanges hposted hslot =>
        rw [hposted, List.mem_singleton] at hmem
        rw [hmem]
        exact ⟨p, hawaited m p hcomm hchanges⟩
    | idle hc hch hp hs => rw [hp] at hmem; cases hmem
    | running m p hc hch hp hs => rw [hp] at hmem; cases hmem
    | lost m p hc hch hp hs hl => rw [hp] at hmem; cases hmem
    | released m p hc hch hp hs => rw [hp] at hmem; cases hmem

/-- The first paint throws before it has drawn anything, and the second is
drawn; then the quit is taken. -/
def thrownPaint : List Action :=
  [.main, .main, .main, .main, .main, .main, .main, .comm,
    .dispatch (.paintRectsEx (pixelFrame 255 1)), .comm, .comm, .runSlot, .drawThrows 0, .main,
    .comm, .comm, .comm, .dispatch (.paintRectsEx (pixelFrame 128 2)), .comm, .comm, .runSlot,
    .main, .main, .comm, .comm, .comm, .checkWaitObjsReturns false, .comm, .leaveLoop,
    .main, .main, .main, .main, .main, .comm, .main]

theorem paints_accounted_thrownPaint :
    ∃ s, (machine ⟨copyPixels, ⟨1, 1, fun _ _ => 0⟩⟩).run {} thrownPaint = some s ∧
      s.main = .exited ∧ s.acks.map (fun ack => ack.framebuffer.pixel 0 0) = [0, 128] ∧
      PaintsAccounted s := by
  have hexec : ∃ s, (machine ⟨copyPixels, ⟨1, 1, fun _ _ => 0⟩⟩).run {} thrownPaint = some s ∧
      s.main = .exited ∧ s.acks.map (fun ack => ack.framebuffer.pixel 0 0) = [0, 128] :=
    ⟨_, rfl, rfl, rfl⟩
  obtain ⟨s, hrun, hmain, hacks⟩ := hexec
  exact ⟨s, hrun, hmain, hacks, paints_accounted _ (Machine.reachable_of_run hrun)⟩

/-! ## An exception quits the application -/

structure Quitting (s : State) : Prop where
  quit : s.quit = true
  exec : s.main.after .callExec

theorem quit_mainNext (h : Quitting s) (hstep : s.mainNext cfg = some s') : s'.quit = true := by
  obtain ⟨hquit, hexec⟩ := h
  cases hmain : s.main <;> rw [hmain] at hexec <;>
    simp only [MainPc.after, MainPc.stage, Nat.lt_irrefl, Nat.reduceLT] at hexec
  case slotDraw n =>
    simp only [State.mainNext, hmain, Option.some.injEq] at hstep
    rw [← hstep, quit_drawSlot, hquit]
  case slotSignal n =>
    simp only [State.mainNext, hmain, Option.some.injEq] at hstep
    rw [← hstep, State.signalSlot]
    cases s.change? n <;> exact hquit
  case join =>
    cases hcomm : s.comm <;> simp only [State.mainNext, hmain, hcomm, Option.some.injEq,
      reduceCtorEq] at hstep
    rw [← hstep, hquit]
  all_goals simp only [State.mainNext, hmain, Option.some.injEq, reduceCtorEq] at hstep
  all_goals rw [← hstep, hquit]

theorem quitting_step (h : Quitting s) (hstarted : Started s) (hstep : step cfg s a = some s') :
    Quitting s' := by
  have hrunning := running_of_step hstep
  have heffect := step_effect hstarted hstep
  simp only [step, hrunning] at hstep
  cases heffect with
  | main _ heffect =>
      exact ⟨quit_mainNext h hstep, Nat.lt_of_lt_of_le h.exec (stage_of_mainEffect heffect)⟩
  | runSlot n rest hmain hposted => exact ⟨h.quit, Nat.lt_succ_self 6⟩
  | drawThrows n drawn hmain =>
      refine ⟨?_, ?_⟩
      · simp [State.appQuit, quit_drawSlot, h.quit]
      · show _ < (s.drawSlot cfg n drawn).main.stage
        rw [stage_drawSlot hmain]
        exact h.exec
  | leaveLoop hmain => exact ⟨h.quit, Nat.lt_succ_of_lt (Nat.lt_succ_self 6)⟩
  | comm _ heffect =>
      cases heffect with
      | exited hcomm => exact ⟨by simp [State.appQuit, h.quit], h.exec⟩
      | _ => exact ⟨h.quit, h.exec⟩
  | dispatch c hcomm => exact ⟨h.quit, h.exec⟩
  | returned closed hcomm => exact ⟨h.quit, h.exec⟩

theorem quitting_of_thrown (hstarted : Started s) {drawn : Nat}
    (hstep : step cfg s (.drawThrows drawn) = some s') : Quitting s' := by
  cases step_effect hstarted hstep with
  | drawThrows n drawn hmain =>
      have hstage : (s.drawSlot cfg n drawn).main.stage = 7 := by
        rw [stage_drawSlot hmain, hmain]
        rfl
      refine ⟨?_, ?_⟩
      · simp [State.appQuit, inExec_of_stage hstage]
      · show 6 < (s.drawSlot cfg n drawn).main.stage
        omega

/-- Once a drawing has thrown, a quit is pending for the rest of the run. -/
theorem quit_of_thrown (hreach : (machine cfg).Reachable s) {drawn : Nat}
    (hthrown : step cfg s (.drawThrows drawn) = some s') {actions : List Action} {t : State}
    (hrun : (machine cfg).run s' actions = some t) : t.quit = true := by
  have hstarted := started_of_reachable hreach
  have hquitting := quitting_of_thrown hstarted hthrown
  have hstarted' := started_step hstarted hthrown
  clear hthrown
  induction actions generalizing s' with
  | nil =>
      obtain rfl : s' = t := by simpa using hrun
      exact hquitting.quit
  | cons a as ih =>
      simp only [Machine.run_cons, Option.bind_eq_some_iff] at hrun
      obtain ⟨u, hstep, hrest⟩ := hrun
      exact ih hrest (quitting_step hquitting hstarted' hstep) (started_step hstarted' hstep)

theorem quit_of_thrown_thrownPaint :
    ∃ s s' t, (machine ⟨copyPixels, ⟨1, 1, fun _ _ => 0⟩⟩).run {} (thrownPaint.take 12) = some s ∧
      step ⟨copyPixels, ⟨1, 1, fun _ _ => 0⟩⟩ s (.drawThrows 0) = some s' ∧
      (machine ⟨copyPixels, ⟨1, 1, fun _ _ => 0⟩⟩).run s' (thrownPaint.drop 13) = some t ∧
      t.quit = true := by
  have hexec : ∃ s s' t,
      (machine ⟨copyPixels, ⟨1, 1, fun _ _ => 0⟩⟩).run {} (thrownPaint.take 12) = some s ∧
      step ⟨copyPixels, ⟨1, 1, fun _ _ => 0⟩⟩ s (.drawThrows 0) = some s' ∧
      (machine ⟨copyPixels, ⟨1, 1, fun _ _ => 0⟩⟩).run s' (thrownPaint.drop 13) = some t :=
    ⟨_, _, _, rfl, rfl, rfl⟩
  obtain ⟨s, s', t, hrun, hthrown, hrest⟩ := hexec
  exact ⟨s, s', t, hrun, hthrown, hrest,
    quit_of_thrown (Machine.reachable_of_run hrun) hthrown hrest⟩

end XrdpLocal.Threads
