import XrdpLocal.Threads.Painting
/-!
# Shutting down while the communicator thread runs

The event loop may be left at any moment, and `XRDPLocalState` deletes `qt`
before it stops the communicator thread. Two things go wrong between the two:
a posted slot call is dropped with the window, and the paint that waits for it
never returns (`always_waitServed_iff`, `lost_forever`); and a callback reaches
a `QtState` that is gone (`deletesUnused_guards`).
-/

namespace XrdpLocal.Threads

open StateMachine XrdpLocal.Qt

variable {cfg : Config} {s s' : State} {a : Action}

/-! ## Paints in flight -/

/-- The slot call that the communicator thread waits for has run, is running,
or is still going to be. -/
def WaitServed (s : State) : Prop :=
  ∀ n p, s.comm = .waitRelease n p →
    (∃ change, s.change? n = some change ∧ change.releaseLatch = 0) ∨
    s.main.slot = some n ∨ (n ∈ s.posted ∧ ¬ s.main.after .eventLoop)

def CommPc.emits : CommPc → Bool
  | .emitSignal _ _ => true
  | _ => false

/-- The event loop is left with no slot call posted, and no signal is emitted
after that until `qt` is gone. -/
def QuietExit (s : State) : Action → Prop
  | .leaveLoop => s.posted = []
  | .comm => s.comm.emits = true → ¬ s.main.after .eventLoop ∨ s.main.after .freeQt
  | _ => True

instance (s : State) (a : Action) : Decidable (QuietExit s a) :=
  match a with
  | .leaveLoop => inferInstanceAs (Decidable (_ = _))
  | .comm => inferInstanceAs (Decidable (_ → _))
  | .main | .runSlot | .drawThrows _ | .dispatch _ | .checkWaitObjsReturns _ => .isTrue trivial

theorem waitServed_of_frame (h : WaitServed s)
    (hcomm : ∀ n p, s'.comm = .waitRelease n p → s.comm = .waitRelease n p)
    (hchanges : s'.changes = s.changes) (hposted : s'.posted = s.posted)
    (hslot : s'.main.slot = s.main.slot)
    (hleft : s'.main.after .eventLoop → s.main.after .eventLoop) : WaitServed s' := by
  intro n p hwait
  rw [State.change?, hchanges, hslot, hposted]
  rcases h n p (hcomm n p hwait) with hdone | hrun | ⟨hmem, hnot⟩
  · exact .inl hdone
  · exact .inr (.inl hrun)
  · exact .inr (.inr ⟨hmem, fun hafter => hnot (hleft hafter)⟩)

theorem waitServed_drawSlot (h : WaitServed s) (hout : Outstanding s) (hstarted : Started s)
    {n : Nat} (hmain : s.main = .slotDraw n) (drawn : Nat) :
    WaitServed (s.drawSlot cfg n drawn) := by
  obtain ⟨p, window, _, _, _, heq⟩ := drawSlot_of_outstanding cfg hout hstarted hmain drawn
  rw [heq]
  refine waitServed_of_frame h (fun _ _ => id) rfl rfl (by rw [hmain]; rfl) ?_
  rw [hmain]
  exact id

theorem waitServed_mainEffect (h : WaitServed s) (hout : Outstanding s) (hstarted : Started s)
    (heffect : MainEffect cfg s s') : WaitServed s' := by
  cases heffect with
  | drew n drawn hmain hdrawn => exact waitServed_drawSlot h hout hstarted hmain drawn
  | signalled n hmain =>
      obtain ⟨p, hcomm, _, _, heq⟩ := signalSlot_of_outstanding hout hmain
      rw [heq]
      intro m q hwait
      have hsame : m = n := by
        rw [show s.comm = .waitRelease m q from hwait, CommPc.waitRelease.injEq] at hcomm
        exact hcomm.1
      rw [hsame]
      exact .inl ⟨_, change?_of_changes rfl, rfl⟩
  | dropped hmain =>
      intro n p hwait
      rcases h n p hwait with hdone | hrun | ⟨_, hnot⟩
      · exact .inl hdone
      · rw [hmain] at hrun
        cases hrun
      · rw [hmain] at hnot
        exact absurd (by decide) hnot
  | advanced main comm qt connected latch quit running hslot hslot' hloop hstage hlive hcomm
      hpixels =>
      refine waitServed_of_frame h ?_ rfl rfl (by rw [hslot, hslot']) ?_
      · rintro n p hwait
        rcases hcomm with rfl | ⟨_, rfl⟩
        · exact hwait
        · cases hwait
      · intro hafter
        apply after_eventLoop hslot hloop
        have hlt : 7 < main.stage := hafter
        show 6 < s.main.stage
        omega

theorem waitServed_commEffect (h : WaitServed s) (hstarted : Started s) (hok : QuietExit s .comm)
    (heffect : CommEffect cfg s s') : WaitServed s' := by
  cases heffect with
  | fault fault huse => exact waitServed_of_frame h (fun _ _ => id) rfl rfl rfl id
  | ready n p hcomm hlatch =>
      intro _ _ hwait
      cases hwait
  | emitted n p hcomm hlive =>
      have halive : ¬ s.main.after .freeQt := by simpa [State.isDeleted] using hlive
      have hloop : ¬ s.main.after .eventLoop :=
        (hok (by rw [hcomm]; rfl)).resolve_right halive
      have hconnected : s.connected = true := by
        rw [hstarted.connected]
        exact after_trans (hstarted.emitted n p (.inl hcomm)) (by decide)
      have hwindow : ¬ s.main.after .deleteWindow :=
        fun hafter => hloop (after_trans hafter (by decide))
      intro m q hwait
      simp only [State.emitPaintRects, CommPc.waitRelease.injEq] at hwait
      obtain ⟨rfl, rfl⟩ := hwait
      refine .inr (.inr ⟨?_, hloop⟩)
      simp [State.emitPaintRects, hconnected, hwindow]
  | released n p change hcomm hchange hlatch =>
      intro _ _ hwait
      cases hwait
  | acked p hcomm =>
      intro _ _ hwait
      cases hwait
  | unmapped p hcomm =>
      intro _ _ hwait
      cases hwait
  | exited hcomm =>
      intro _ _ hwait
      cases hwait
  | moved comm qt hmem hpixels hegl hwindow =>
      intro n p hwait
      have hpaint := (paint_of_next hmem).2
      rw [show comm = .waitRelease n p from hwait] at hpaint
      cases hpaint

theorem waitServed_step (h : WaitServed s) (hout : Outstanding s) (hstarted : Started s)
    (hok : QuietExit s a) (hstep : step cfg s a = some s') : WaitServed s' := by
  cases step_effect hstarted hstep with
  | main _ heffect => exact waitServed_mainEffect h hout hstarted heffect
  | runSlot n rest hmain hposted =>
      intro m q hwait
      refine .inr (.inl ?_)
      cases hout with
      | posted k p hc hch hp hs =>
          rw [show s.comm = .waitRelease m q from hwait, CommPc.waitRelease.injEq] at hc
          rw [hposted, List.cons.injEq] at hp
          rw [hp.1, hc.1]
          rfl
      | idle hc hch hp hs => simp [hposted] at hp
      | running k p hc hch hp hs => simp [hposted] at hp
      | lost k p hc hch hp hs hl => simp [hposted] at hp
      | released k p hc hch hp hs => simp [hposted] at hp
  | drawThrows n drawn hmain =>
      have hdraw : WaitServed (s.drawSlot cfg n drawn) :=
        waitServed_drawSlot h hout hstarted hmain drawn
      exact waitServed_of_frame hdraw (fun _ _ => id) rfl rfl rfl id
  | leaveLoop hmain =>
      intro n p hwait
      rcases h n p hwait with hdone | hrun | ⟨hmem, _⟩
      · exact .inl hdone
      · rw [hmain] at hrun
        cases hrun
      · rw [show s.posted = [] from hok] at hmem
        exact absurd hmem List.not_mem_nil
  | comm _ heffect => exact waitServed_commEffect h hstarted hok heffect
  | dispatch c hcomm =>
      intro n p hwait
      cases c <;> cases hwait
  | returned closed hcomm =>
      intro n p hwait
      cases closed <;> cases hwait

/-- The communicator thread waits for a change that no slot call will release. -/
structure Lost (s : State) (n : Nat) (p : PaintRectsEx) : Prop where
  comm : s.comm = .waitRelease n p
  changes : s.changes = [(n, p.change)]
  slot : s.main.slot = none
  left : s.main.after .eventLoop
  main : s.main ≠ .exited

theorem Lost.not_waitServed {n : Nat} {p : PaintRectsEx} (h : Lost s n p) : ¬ WaitServed s := by
  intro hserved
  rcases hserved n p h.comm with ⟨change, hchange, hlatch⟩ | hrun | ⟨_, hnot⟩
  · rw [change?_of_changes h.changes, Option.some.injEq] at hchange
    rw [← hchange] at hlatch
    cases hlatch
  · rw [h.slot] at hrun
    cases hrun
  · exact hnot h.left

theorem lost_of_not_quietExit (hout : Outstanding s) (hmiss : ¬ QuietExit s a)
    (hstep : step cfg s a = some s') : ∃ n p, Lost s' n p := by
  have hrunning := running_of_step hstep
  simp only [step, hrunning] at hstep
  cases a with
  | leaveLoop =>
      obtain ⟨hmain, rfl⟩ := leaveLoop_cases hstep
      cases hout with
      | posted n p hc hch hp hs =>
          refine ⟨n, p, hc, hch, rfl, Nat.lt_succ_self 7, ?_⟩
          intro hexited
          cases hexited
      | idle hc hch hp hs => exact absurd hp hmiss
      | running n p hc hch hp hs => exact absurd hp hmiss
      | lost n p hc hch hp hs hl => exact absurd hp hmiss
      | released n p hc hch hp hs => exact absurd hp hmiss
  | comm =>
      obtain ⟨hemits, hlate⟩ := Classical.not_imp.mp hmiss
      obtain ⟨hleft, hqt⟩ := not_or.mp hlate
      rw [not_not] at hleft
      cases hcomm : s.comm <;> rw [hcomm] at hemits <;> cases hemits
      rename_i n p
      rcases commStep_cases hstep with ⟨object, hmem, hdeleted, _⟩ | ⟨_, hnext⟩
      · rw [hcomm, CommPc.uses, List.mem_singleton] at hmem
        rw [hmem] at hdeleted
        simp [State.isDeleted, hqt] at hdeleted
      · simp only [State.commNext, hcomm, Option.some.injEq] at hnext
        obtain ⟨hchanges, _, hslot⟩ := hout.of_idle (by simp [hcomm])
        rw [← hnext]
        refine ⟨n, p, rfl, by simp [State.emitPaintRects, hchanges], hslot, hleft, ?_⟩
        intro hexited
        rw [show s.main = .exited from hexited] at hqt
        exact hqt (by decide)
  | _ => exact absurd trivial hmiss

/-- No paint is left waiting in a run exactly when every exit of the event loop
in it is quiet. -/
theorem always_waitServed_iff (cfg : Config) (actions : List Action) :
    (machine cfg).Always WaitServed (machine cfg).start actions ↔
      (machine cfg).StepsMeet QuietExit (machine cfg).start actions := by
  apply Machine.sharp
  · intro s hreach
    refine hreach.invariant (I := WaitServed) (fun _ _ hwait => by cases hwait) ?_
    intro s s' a hreach h hok hstep
    exact waitServed_step h (outstanding_of_reachable hreach) (started_of_reachable hreach) hok
      hstep
  · intro s s' a hreach hstep hmiss
    obtain ⟨n, p, hlost⟩ := lost_of_not_quietExit (outstanding_of_reachable hreach) hmiss hstep
    exact hlost.not_waitServed

/-- The event loop is left between the emit and the slot call. At the join the
communicator thread still waits. -/
theorem not_always_waitServed :
    ¬ ∀ s, (machine ⟨copyPixels, ⟨1, 1, fun _ _ => 0⟩⟩).Reachable s → WaitServed s := by
  apply Machine.not_always_of_run
    [.main, .main, .main, .main, .main, .main, .main, .comm,
      .dispatch (.paintRectsEx (pixelFrame 255 1)), .comm, .comm, .leaveLoop,
      .main, .main, .main, .main, .main]
  have hlost : ∀ s : State, s.main = .join → s.comm = .waitRelease 0 (pixelFrame 255 1) →
      s.changes = [(0, (pixelFrame 255 1).change)] → ¬ WaitServed s := by
    intro s hmain hcomm hchanges
    refine Lost.not_waitServed ⟨hcomm, hchanges, ?_, ?_, ?_⟩ <;> rw [hmain]
    · rfl
    · decide
    · nofun
  exact ⟨_, rfl, hlost _ rfl rfl rfl⟩

theorem ended_of_exited (hstep : s.mainNext cfg = some s') (hmain' : s'.main = .exited) :
    s.main = .exited ∨ ∃ closed, s.comm = .ended closed := by
  cases hmain : s.main
  case join =>
    cases hcomm : s.comm <;> simp only [State.mainNext, hmain, hcomm, reduceCtorEq] at hstep
    exact .inr ⟨_, rfl⟩
  case exited => exact .inl rfl
  case slotDraw n =>
    simp only [State.mainNext, hmain, Option.some.injEq] at hstep
    rcases drawSlot_cases cfg s n _ with ⟨_, heq⟩ | ⟨_, _, _, _, heq⟩ <;>
      rw [← hstep, heq] at hmain'
    · rw [show s.main = .exited from hmain'] at hmain
      cases hmain
    · cases hmain'
  case slotSignal n =>
    simp only [State.mainNext, hmain, Option.some.injEq] at hstep
    rw [← hstep, State.signalSlot] at hmain'
    cases hchange : s.change? n with
    | none =>
        rw [hchange] at hmain'
        rw [show s.main = .exited from hmain'] at hmain
        cases hmain
    | some change =>
        rw [hchange] at hmain'
        cases hmain'
  all_goals
    simp only [State.mainNext, hmain, Option.some.injEq, reduceCtorEq] at hstep
  all_goals
    rw [← hstep] at hmain'
    cases hmain'

theorem Lost.step {n : Nat} {p : PaintRectsEx} (h : Lost s n p) (hstarted : Started s)
    (hstep : step cfg s a = some s') : Lost s' n p := by
  have hrunning := running_of_step hstep
  simp only [Threads.step, hrunning] at hstep
  have hloop : s.main ≠ .eventLoop := by
    intro hmain
    have hleft := h.left
    rw [hmain] at hleft
    exact absurd hleft (by decide)
  cases a with
  | main =>
      have hmain' : s'.main ≠ .exited := by
        intro hexited
        rcases ended_of_exited hstep hexited with hmain | ⟨closed, hended⟩
        · exact h.main hmain
        · rw [h.comm] at hended
          cases hended
      cases mainNext_effect hstarted hstep with
      | drew n drawn hmain hdrawn =>
          have hslot := h.slot
          rw [hmain] at hslot
          cases hslot
      | signalled n hmain =>
          have hslot := h.slot
          rw [hmain] at hslot
          cases hslot
      | dropped hmain =>
          have hleft : MainPc.deleteApp.after .eventLoop := by decide
          exact ⟨h.comm, h.changes, rfl, hleft, hmain'⟩
      | advanced main comm qt connected latch quit running hslot hslot' hne hstage hlive hcomm
          hpixels =>
          have hcomm' : comm = .waitRelease n p := by
            rcases hcomm with rfl | ⟨hnot, _⟩
            · exact h.comm
            · rw [h.comm] at hnot
              cases hnot
          have hleft : 7 < s.main.stage := h.left
          refine ⟨hcomm', h.changes, hslot', ?_, hmain'⟩
          show 7 < main.stage
          omega
  | runSlot => exact absurd (runSlot_cases hstep).1 hloop
  | drawThrows drawn =>
      obtain ⟨m, hmain, _⟩ := drawThrows_cases hstep
      have hslot := h.slot
      rw [hmain] at hslot
      cases hslot
  | leaveLoop => exact absurd (leaveLoop_cases hstep).1 hloop
  | comm =>
      have hchange := change?_of_changes h.changes
      have hlatch : p.change.releaseLatch ≠ 0 := Nat.one_ne_zero
      rcases commStep_cases hstep with ⟨object, hmem, _⟩ | ⟨_, hnext⟩
      · simp [h.comm, CommPc.uses] at hmem
      · simp [State.commNext, h.comm, hchange, hlatch] at hnext
  | dispatch c =>
      have hcomm := (dispatch_cases hstep).1
      rw [h.comm] at hcomm
      cases hcomm
  | checkWaitObjsReturns closed =>
      have hcomm := (checkWaitObjsReturns_cases hstep).1
      rw [h.comm] at hcomm
      cases hcomm

/-- A lost paint waits forever, and the main thread never gets past the join. -/
theorem lost_forever {n : Nat} {p : PaintRectsEx} {actions : List Action} (h : Lost s n p)
    (hstarted : Started s) (hrun : (machine cfg).run s actions = some s') :
    s'.comm = .waitRelease n p ∧ s'.main ≠ .exited := by
  induction actions generalizing s with
  | nil =>
      obtain rfl : s = s' := by simpa using hrun
      exact ⟨h.comm, h.main⟩
  | cons a actions ih =>
      simp only [Machine.run_cons, Option.bind_eq_some_iff] at hrun
      obtain ⟨t, hstep, hrest⟩ := hrun
      exact ih (h.step hstarted hstep) (started_step hstarted hstep) hrest

/-! ## Callbacks on a deleted `QtState` -/

def NoUseAfterDelete (s : State) : Prop :=
  ∀ object, s.crashed ≠ some (.useAfterDelete object)

/-- `delete qt` starts while the communicator thread is outside `QtState`, and
from then on `mod_check_wait_objs` neither calls back nor reports a closed
connection. -/
def DeletesUnused (s : State) : Action → Prop
  | .main => s.main = .deleteEgl → .qtState ∉ s.comm.uses
  | .dispatch _ | .checkWaitObjsReturns true => ¬ s.main.after .deleteEgl
  | _ => True

instance (s : State) (a : Action) : Decidable (DeletesUnused s a) :=
  match a with
  | .main => inferInstanceAs (Decidable (_ → _))
  | .dispatch _ | .checkWaitObjsReturns true => inferInstanceAs (Decidable (¬ _))
  | .runSlot | .drawThrows _ | .leaveLoop | .comm | .checkWaitObjsReturns false => .isTrue trivial

theorem qtState_of_uses {pc : CommPc} {object : Object} (hmem : object ∈ pc.uses) :
    .qtState ∈ pc.uses := by
  cases pc <;> simp_all [CommPc.uses]

theorem qtState_of_entry (n : Nat) (c : Callback) : .qtState ∈ (c.entry n).uses := by
  cases c <;> simp [Callback.entry, CommPc.uses]

theorem uses_of_next {pc pc' : CommPc} (hnext : pc' ∈ pc.next) (huses : .qtState ∉ pc.uses) :
    .qtState ∉ pc'.uses := by
  cases pc <;> simp [CommPc.uses] at huses <;> simp [CommPc.next] at hnext
  case testRunning => rcases hnext with rfl | rfl <;> simp [CommPc.uses]
  all_goals
    subst hnext
    simp [CommPc.uses]

structure Unused (s : State) : Prop where
  fault : NoUseAfterDelete s
  comm : s.main.after .deleteEgl → .qtState ∉ s.comm.uses

theorem Unused.of_frame (h : Unused s) (hcrashed : s'.crashed = s.crashed)
    (hafter : s'.main.after .deleteEgl ↔ s.main.after .deleteEgl)
    (hcomm : s.main.after .deleteEgl → .qtState ∉ s.comm.uses → .qtState ∉ s'.comm.uses) :
    Unused s' := by
  refine ⟨?_, ?_⟩
  · intro object
    rw [hcrashed]
    exact h.fault object
  · exact fun h' => hcomm (hafter.mp h') (h.comm (hafter.mp h'))

theorem unused_drawSlot (h : Unused s) (hout : Outstanding s) (hstarted : Started s) {n : Nat}
    (hmain : s.main = .slotDraw n) (drawn : Nat) : Unused (s.drawSlot cfg n drawn) := by
  obtain ⟨p, window, _, _, _, heq⟩ := drawSlot_of_outstanding cfg hout hstarted hmain drawn
  rw [heq]
  exact h.of_frame rfl (by rw [hmain]; rfl) fun _ => id

theorem unused_mainEffect (h : Unused s) (hout : Outstanding s) (hstarted : Started s)
    (hok : DeletesUnused s .main) (heffect : MainEffect cfg s s') : Unused s' := by
  cases heffect with
  | drew n drawn hmain hdrawn => exact unused_drawSlot h hout hstarted hmain drawn
  | signalled n hmain =>
      obtain ⟨p, _, _, _, heq⟩ := signalSlot_of_outstanding hout hmain
      rw [heq]
      exact h.of_frame rfl (by rw [hmain]; rfl) fun _ => id
  | dropped hmain =>
      have hafter : s.main.after .deleteEgl := by
        rw [hmain]
        decide
      exact ⟨h.fault, fun _ => h.comm hafter⟩
  | advanced main comm qt connected latch quit running hslot hslot' hloop hstage hlive hcomm
      hpixels =>
      refine ⟨h.fault, fun hafter => ?_⟩
      have hqt : .qtState ∉ s.comm.uses := by
        by_cases hmain : s.main = .deleteEgl
        · exact hok hmain
        · apply h.comm
          have hlt : 8 < main.stage := hafter
          have hne : s.main.stage ≠ 8 := by
            intro h8
            cases hpc : s.main <;> simp [hpc, MainPc.stage] at h8
            exact hmain hpc
          show 8 < s.main.stage
          omega
      rcases hcomm with rfl | ⟨_, rfl⟩
      · exact hqt
      · exact List.not_mem_nil

theorem unused_commEffect (h : Unused s) (hlive : EglKept s) (heffect : CommEffect cfg s s') :
    Unused s' := by
  cases heffect with
  | fault fault huse =>
      refine ⟨?_, h.comm⟩
      intro object heq
      obtain ⟨hmem, hdeleted⟩ := huse object (Option.some.inj heq)
      have hbefore : ¬ s.main.after .deleteEgl :=
        fun hafter => h.comm hafter (qtState_of_uses hmem)
      rw [not_deleted hbefore hlive object] at hdeleted
      cases hdeleted
  | ready n p hcomm hlatch =>
      exact h.of_frame rfl Iff.rfl fun _ huses => absurd (by simp [hcomm, CommPc.uses]) huses
  | emitted n p hcomm hlive =>
      exact h.of_frame rfl Iff.rfl fun _ huses => absurd (by simp [hcomm, CommPc.uses]) huses
  | released n p change hcomm hchange hlatch =>
      exact h.of_frame rfl Iff.rfl fun _ _ => List.not_mem_nil
  | acked p hcomm => exact h.of_frame rfl Iff.rfl fun _ _ => List.not_mem_nil
  | unmapped p hcomm => exact h.of_frame rfl Iff.rfl fun _ _ => List.not_mem_nil
  | exited hcomm => exact h.of_frame rfl Iff.rfl fun _ _ => List.not_mem_nil
  | moved comm qt hnext hpixels hlive hwindow =>
      exact h.of_frame rfl Iff.rfl fun _ huses => uses_of_next hnext huses

theorem unused_step (h : Unused s) (hlive : EglKept s) (hout : Outstanding s)
    (hstarted : Started s) (hok : DeletesUnused s a) (hstep : step cfg s a = some s') :
    Unused s' := by
  cases step_effect hstarted hstep with
  | main _ heffect => exact unused_mainEffect h hout hstarted hok heffect
  | runSlot n rest hmain hposted => exact h.of_frame rfl (by rw [hmain]; rfl) fun _ => id
  | drawThrows n drawn hmain =>
      have hdraw : Unused (s.drawSlot cfg n drawn) := unused_drawSlot h hout hstarted hmain drawn
      exact hdraw.of_frame rfl Iff.rfl fun _ => id
  | leaveLoop hmain =>
      refine h.of_frame rfl ?_ fun _ => id
      rw [hmain]
      simp [MainPc.after, MainPc.stage]
  | comm _ heffect => exact unused_commEffect h hlive heffect
  | dispatch c hcomm => exact h.of_frame rfl Iff.rfl fun hafter => absurd hafter hok
  | returned closed hcomm =>
      cases closed with
      | true => exact h.of_frame rfl Iff.rfl fun hafter => absurd hafter hok
      | false => exact h.of_frame rfl Iff.rfl fun _ _ => List.not_mem_nil

theorem unused_of_reachable (hreach : (machine cfg).ReachableBy DeletesUnused s) : Unused s := by
  have hstart : Unused (machine cfg).start := ⟨nofun, fun _ => List.not_mem_nil⟩
  refine hreach.invariant hstart ?_
  intro s s' a hreach h hok hstep
  exact unused_step h (eglKept_of_reachable hreach) (outstanding_of_reachable hreach)
    (started_of_reachable hreach) hok hstep

theorem frees_qt (cfg : Config) (hcrashed : s.crashed = none) (hafter : s.main.after .deleteEgl) :
    ∃ actions t, (machine cfg).run s actions = some t ∧ t.main.after .freeQt ∧
      t.comm = s.comm ∧ t.crashed = none := by
  cases hmain : s.main
  case deleteWindow =>
    refine ⟨[.main, .main, .main], { s with main := .stopRunning, posted := [] }, ?_,
      Nat.lt_succ_self 11, rfl, hcrashed⟩
    simp [machine, step, hcrashed, State.mainNext, hmain]
  case deleteApp =>
    refine ⟨[.main, .main], { s with main := .stopRunning }, ?_, Nat.lt_succ_self 11, rfl, hcrashed⟩
    simp [machine, step, hcrashed, State.mainNext, hmain]
  case freeQt =>
    refine ⟨[.main], { s with main := .stopRunning }, ?_, Nat.lt_succ_self 11, rfl, hcrashed⟩
    simp [machine, step, hcrashed, State.mainNext, hmain]
  case stopRunning => exact ⟨[], s, rfl, by rw [hmain]; decide, rfl, hcrashed⟩
  case join => exact ⟨[], s, rfl, by rw [hmain]; decide, rfl, hcrashed⟩
  case exited => exact ⟨[], s, rfl, by rw [hmain]; decide, rfl, hcrashed⟩
  all_goals
    rw [hmain] at hafter
    exact absurd hafter (by simp [MainPc.after, MainPc.stage])

/-- A communicator thread that is inside `QtState` when `delete qt` has started
may touch it after the end. -/
theorem canReach_useAfterDelete (hcrashed : s.crashed = none) (hafter : s.main.after .deleteEgl)
    (huses : .qtState ∈ s.comm.uses) :
    (machine cfg).CanReach (fun t => ¬ NoUseAfterDelete t) s := by
  obtain ⟨actions, t, hrun, hfreed, hcomm, hcrashed'⟩ := frees_qt cfg hcrashed hafter
  refine .of_run hrun ?_
  have hdeleted : t.isDeleted .qtState = true := by simp [State.isDeleted, hfreed]
  have hmem : .qtState ∈ t.comm.uses := by rwa [hcomm]
  cases hfind : t.comm.uses.find? t.isDeleted with
  | none =>
      have hnone := List.find?_eq_none.mp hfind _ hmem
      exact absurd hdeleted hnone
  | some object =>
      have hstep : (machine cfg).step t .comm = some (t.crash (.useAfterDelete object)) := by
        simp only [machine, step, hcrashed', State.commStep, hfind]
      exact .of_step hstep (.here fun hno => hno object rfl)

/-- Deleting an unused `QtState` keeps the communicator thread off deleted
objects, and any other step may bring it to one. -/
theorem deletesUnused_guards (cfg : Config) :
    (machine cfg).Guards DeletesUnused NoUseAfterDelete := by
  constructor
  · exact fun hreach => (unused_of_reachable hreach).fault
  · intro s s' a hreach hstep hmiss
    have hrunning := running_of_step hstep
    simp only [machine, step, hrunning] at hstep
    cases a with
    | main =>
        obtain ⟨hmain, huses⟩ := Classical.not_imp.mp hmiss
        rw [not_not] at huses
        simp only [State.mainNext, hmain, Option.some.injEq] at hstep
        rw [← hstep]
        exact canReach_useAfterDelete hrunning (Nat.lt_succ_self 8) huses
    | dispatch c =>
        have hafter : s.main.after .deleteEgl := not_not.mp hmiss
        obtain ⟨_, rfl⟩ := dispatch_cases hstep
        exact canReach_useAfterDelete hrunning hafter (qtState_of_entry _ c)
    | checkWaitObjsReturns closed =>
        cases closed with
        | true =>
            have hafter : s.main.after .deleteEgl := not_not.mp hmiss
            obtain ⟨_, rfl⟩ := checkWaitObjsReturns_cases hstep
            exact canReach_useAfterDelete hrunning hafter (by simp [CommPc.uses])
        | false => exact absurd trivial hmiss
    | _ => exact absurd trivial hmiss

/-- The window is closed and everything deleted; then a cursor arrives. -/
theorem not_always_noUseAfterDelete :
    ¬ ∀ s, (machine ⟨copyPixels, ⟨1, 1, fun _ _ => 0⟩⟩).Reachable s → NoUseAfterDelete s := by
  apply Machine.not_always_of_run
    [.main, .main, .main, .main, .main, .main, .main, .comm, .leaveLoop,
      .main, .main, .main, .main, .dispatch .setCursorEx, .comm]
  exact ⟨_, rfl, fun hno => hno .qtState rfl⟩

/-- The window is closed while the communicator thread sleeps. -/
def orderlyExit : List Action :=
  [.main, .main, .main, .main, .main, .main, .main, .comm,
    .dispatch (.paintRectsEx (pixelFrame 255 1)), .comm, .comm, .runSlot, .main, .main,
    .comm, .comm, .comm, .checkWaitObjsReturns false, .comm, .leaveLoop,
    .main, .main, .main, .main, .main, .comm, .main]

example :
    (machine ⟨copyPixels, ⟨1, 1, fun _ _ => 0⟩⟩).StepsMeet QuietExit {} orderlyExit ∧
    (machine ⟨copyPixels, ⟨1, 1, fun _ _ => 0⟩⟩).StepsMeet DeletesUnused {} orderlyExit ∧
    ((machine ⟨copyPixels, ⟨1, 1, fun _ _ => 0⟩⟩).run {} orderlyExit).map State.main =
      some .exited :=
  ⟨by decide, by decide, by decide⟩

end XrdpLocal.Threads
