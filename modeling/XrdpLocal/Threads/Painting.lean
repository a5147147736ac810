import XrdpLocal.Library.Handoff
import XrdpLocal.Threads.Steps
/-!
# Painting across the two threads

A paint is called on the communicator thread and drawn on the main thread, from
a change on the stack of the former. `Outstanding` says where that change can
be; from it the two threads together are a hand-off, so that the client
acknowledges what a client that draws every frame itself would.
-/

namespace XrdpLocal.Threads

open StateMachine XrdpLocal.Qt

variable {cfg : Config} {s s' : State} {a : Action}

/-! ## The outstanding change -/

/-- The change that the communicator thread waits for is posted, drawn, lost
with the window, or released; when it waits for none, there is none. -/
inductive Outstanding (s : State) : Prop
  | idle (hcomm : ∀ n p, s.comm ≠ .waitRelease n p) (hchanges : s.changes = [])
      (hposted : s.posted = []) (hslot : s.main.slot = none)
  | posted (n : Nat) (p : PaintRectsEx) (hcomm : s.comm = .waitRelease n p)
      (hchanges : s.changes = [(n, p.change)]) (hposted : s.posted = [n])
      (hslot : s.main.slot = none)
  | running (n : Nat) (p : PaintRectsEx) (hcomm : s.comm = .waitRelease n p)
      (hchanges : s.changes = [(n, p.change)]) (hposted : s.posted = [])
      (hslot : s.main.slot = some n)
  | lost (n : Nat) (p : PaintRectsEx) (hcomm : s.comm = .waitRelease n p)
      (hchanges : s.changes = [(n, p.change)]) (hposted : s.posted = [])
      (hslot : s.main.slot = none) (hleft : s.main.after .eventLoop)
  | released (n : Nat) (p : PaintRectsEx) (hcomm : s.comm = .waitRelease n p)
      (hchanges : s.changes = [(n, p.change.signalDataIsNotUsed)]) (hposted : s.posted = [])
      (hslot : s.main.slot = none)

theorem change?_of_changes {n : Nat} {change : SyncChangeReference}
    (hchanges : s.changes = [(n, change)]) : s.change? n = some change := by
  simp [State.change?, hchanges]

theorem Outstanding.of_frame (h : Outstanding s)
    (hcomm : ∀ n p, s'.comm = .waitRelease n p ↔ s.comm = .waitRelease n p)
    (hchanges : s'.changes = s.changes) (hposted : s'.posted = s.posted)
    (hslot : s'.main.slot = s.main.slot) (hstage : s.main.stage ≤ s'.main.stage) :
    Outstanding s' := by
  cases h with
  | idle hc hch hp hs =>
      apply Outstanding.idle
      · exact fun n p heq => hc n p ((hcomm n p).mp heq)
      · rw [hchanges, hch]
      · rw [hposted, hp]
      · rw [hslot, hs]
  | posted n p hc hch hp hs =>
      exact .posted n p ((hcomm n p).mpr hc) (hchanges ▸ hch) (hposted ▸ hp) (hslot ▸ hs)
  | running n p hc hch hp hs =>
      exact .running n p ((hcomm n p).mpr hc) (hchanges ▸ hch) (hposted ▸ hp) (hslot ▸ hs)
  | lost n p hc hch hp hs hl =>
      exact .lost n p ((hcomm n p).mpr hc) (hchanges ▸ hch) (hposted ▸ hp) (hslot ▸ hs)
        (Nat.lt_of_lt_of_le hl hstage)
  | released n p hc hch hp hs =>
      exact .released n p ((hcomm n p).mpr hc) (hchanges ▸ hch) (hposted ▸ hp) (hslot ▸ hs)

theorem Outstanding.of_idle (h : Outstanding s) (hcomm : ∀ n p, s.comm ≠ .waitRelease n p) :
    s.changes = [] ∧ s.posted = [] ∧ s.main.slot = none := by
  cases h with
  | idle hc hch hp hs => exact ⟨hch, hp, hs⟩
  | posted n p hc hch hp hs => exact absurd hc (hcomm n p)
  | running n p hc hch hp hs => exact absurd hc (hcomm n p)
  | lost n p hc hch hp hs hl => exact absurd hc (hcomm n p)
  | released n p hc hch hp hs => exact absurd hc (hcomm n p)

theorem Outstanding.of_slot (h : Outstanding s) {n : Nat} (hslot : s.main.slot = some n) :
    ∃ p, s.comm = .waitRelease n p ∧ s.changes = [(n, p.change)] ∧ s.posted = [] := by
  cases h with
  | running m p hc hch hp hs =>
      rw [hslot, Option.some.injEq] at hs
      subst m
      exact ⟨p, hc, hch, hp⟩
  | idle hc hch hp hs => simp [hslot] at hs
  | posted m p hc hch hp hs => simp [hslot] at hs
  | lost m p hc hch hp hs hl => simp [hslot] at hs
  | released m p hc hch hp hs => simp [hslot] at hs

theorem Outstanding.of_latch (h : Outstanding s) {n : Nat} {p : PaintRectsEx}
    {change : SyncChangeReference} (hcomm : s.comm = .waitRelease n p)
    (hchange : s.change? n = some change) (hlatch : change.releaseLatch = 0) :
    s.changes = [(n, change)] ∧ s.posted = [] ∧ s.main.slot = none := by
  have hup : s.changes ≠ [(n, p.change)] := by
    intro hchanges
    rw [change?_of_changes hchanges, Option.some.injEq] at hchange
    rw [← hchange] at hlatch
    cases hlatch
  cases h with
  | idle hc hch hp hs => exact absurd hcomm (hc n p)
  | posted m q hc hch hp hs =>
      rw [hcomm, CommPc.waitRelease.injEq] at hc
      obtain ⟨rfl, rfl⟩ := hc
      exact absurd hch hup
  | running m q hc hch hp hs =>
      rw [hcomm, CommPc.waitRelease.injEq] at hc
      obtain ⟨rfl, rfl⟩ := hc
      exact absurd hch hup
  | lost m q hc hch hp hs hl =>
      rw [hcomm, CommPc.waitRelease.injEq] at hc
      obtain ⟨rfl, rfl⟩ := hc
      exact absurd hch hup
  | released m q hc hch hp hs =>
      rw [hcomm, CommPc.waitRelease.injEq] at hc
      obtain ⟨rfl, rfl⟩ := hc
      rw [change?_of_changes hch, Option.some.injEq] at hchange
      rw [hch, hchange]
      exact ⟨rfl, hp, hs⟩

theorem drawSlot_of_outstanding (cfg : Config) (h : Outstanding s) (hstarted : Started s) {n : Nat}
    (hmain : s.main = .slotDraw n) (drawn : Nat) :
    ∃ p window, s.comm = .waitRelease n p ∧ s.change? n = some p.change ∧
      s.qt.window = some window ∧ s.drawSlot cfg n drawn = { s with
        main := .slotSignal n
        qt := { s.qt with window := some (window.paintRects cfg.drawImage p.change drawn) } } := by
  obtain ⟨p, hcomm, hchanges, _⟩ := h.of_slot (n := n) (by rw [hmain]; rfl)
  have hchange := change?_of_changes hchanges
  have hwindow : s.qt.window.isSome := by
    rw [hstarted.window, hmain]
    show 2 < 7
    decide
  obtain ⟨window, hwindow⟩ := Option.isSome_iff_exists.mp hwindow
  exact ⟨p, window, hcomm, hchange, hwindow, by rw [State.drawSlot, hchange, hwindow]⟩

theorem signalSlot_of_outstanding (h : Outstanding s) {n : Nat} (hmain : s.main = .slotSignal n) :
    ∃ p, s.comm = .waitRelease n p ∧ s.change? n = some p.change ∧ s.posted = [] ∧
      s.signalSlot n = { s with
        main := .eventLoop
        changes := [(n, p.change.signalDataIsNotUsed)] } := by
  obtain ⟨p, hcomm, hchanges, hposted⟩ := h.of_slot (n := n) (by rw [hmain]; rfl)
  have hchange := change?_of_changes hchanges
  refine ⟨p, hcomm, hchange, hposted, ?_⟩
  rw [State.signalSlot, hchange, hchanges]
  simp

theorem outstanding_drawSlot (h : Outstanding s) (hstarted : Started s) {n : Nat}
    (hmain : s.main = .slotDraw n) (drawn : Nat) : Outstanding (s.drawSlot cfg n drawn) := by
  obtain ⟨p, window, _, _, _, heq⟩ := drawSlot_of_outstanding cfg h hstarted hmain drawn
  rw [heq]
  refine h.of_frame (fun _ _ => Iff.rfl) rfl rfl (by rw [hmain]; rfl) ?_
  rw [hmain]
  exact Nat.le_refl _

theorem outstanding_mainEffect (h : Outstanding s) (hstarted : Started s)
    (heffect : MainEffect cfg s s') : Outstanding s' := by
  cases heffect with
  | drew n drawn hmain hdrawn => exact outstanding_drawSlot h hstarted hmain drawn
  | signalled n hmain =>
      obtain ⟨p, hcomm, _, hposted, heq⟩ := signalSlot_of_outstanding h hmain
      rw [heq]
      exact .released n p hcomm rfl hposted rfl
  | dropped hmain =>
      have hleft : MainPc.deleteApp.after .eventLoop := by decide
      cases h with
      | idle hc hch hp hs => exact .idle hc hch rfl rfl
      | posted n p hc hch hp hs => exact .lost n p hc hch rfl rfl hleft
      | running n p hc hch hp hs => rw [hmain] at hs; cases hs
      | lost n p hc hch hp hs hl => exact .lost n p hc hch rfl rfl hleft
      | released n p hc hch hp hs => exact .released n p hc hch rfl rfl
  | advanced main comm qt connected latch quit running hslot hslot' hloop hstage hlive hcomm
      hpixels =>
      refine h.of_frame ?_ rfl rfl (by rw [hslot, hslot']) (by simp only [hstage]; omega)
      intro n p
      rcases hcomm with rfl | ⟨hnot, rfl⟩
      · rfl
      · simp [hnot]

theorem outstanding_commEffect (h : Outstanding s) (hstarted : Started s)
    (heffect : CommEffect cfg s s') : Outstanding s' := by
  cases heffect with
  | fault fault huse => exact h.of_frame (fun _ _ => Iff.rfl) rfl rfl rfl (Nat.le_refl _)
  | ready n p hcomm hlatch =>
      exact h.of_frame (by simp [hcomm]) rfl rfl rfl (Nat.le_refl _)
  | emitted n p hcomm hlive =>
      obtain ⟨hch, hp, hs⟩ := h.of_idle (by simp [hcomm])
      have hchanges : (s.emitPaintRects n p).changes = [(n, p.change)] := by
        simp [State.emitPaintRects, hch]
      have hconnected : s.connected = true := by
        rw [hstarted.connected]
        have hcounted := hstarted.emitted n p (.inl hcomm)
        simp only [MainPc.after, MainPc.stage] at hcounted ⊢
        omega
      by_cases hdeleted : s.main.after .deleteWindow
      · apply Outstanding.lost n p rfl hchanges _ hs
        · simp only [MainPc.after, MainPc.stage, State.emitPaintRects] at hdeleted ⊢
          omega
        · simp [State.emitPaintRects, hdeleted, hp]
      · apply Outstanding.posted n p rfl hchanges _ hs
        simp [State.emitPaintRects, hconnected, hdeleted, hp]
  | released n p change hcomm hchange hlatch =>
      obtain ⟨hchanges, hposted, hslot⟩ := h.of_latch hcomm hchange hlatch
      refine Outstanding.idle ?_ ?_ hposted hslot
      · simp
      · simp [hchanges]
  | acked p hcomm => exact h.of_frame (by simp [hcomm]) rfl rfl rfl (Nat.le_refl _)
  | unmapped p hcomm => exact h.of_frame (by simp [hcomm]) rfl rfl rfl (Nat.le_refl _)
  | exited hcomm => exact h.of_frame (by simp [hcomm]) rfl rfl rfl (Nat.le_refl _)
  | moved comm qt hnext hpixels hlive hwindow =>
      refine h.of_frame ?_ rfl rfl rfl (Nat.le_refl _)
      obtain ⟨hpaint, hpaint'⟩ := paint_of_next hnext
      intro n p
      constructor
      · rintro rfl
        cases hpaint'
      · intro hcomm
        rw [hcomm] at hpaint
        cases hpaint

theorem outstanding_step (h : Outstanding s) (hstarted : Started s)
    (hstep : step cfg s a = some s') : Outstanding s' := by
  cases step_effect hstarted hstep with
  | main _ heffect => exact outstanding_mainEffect h hstarted heffect
  | runSlot n rest hmain hposted =>
      cases h with
      | idle hc hch hp hs => simp [hposted] at hp
      | posted m p hc hch hp hs =>
          rw [hposted, List.cons.injEq] at hp
          obtain ⟨rfl, rfl⟩ := hp
          exact .running n p hc hch rfl rfl
      | running m p hc hch hp hs => simp [hposted] at hp
      | lost m p hc hch hp hs hl => simp [hposted] at hp
      | released m p hc hch hp hs => simp [hposted] at hp
  | drawThrows n drawn hmain =>
      have hdraw : Outstanding (s.drawSlot cfg n drawn) :=
        outstanding_drawSlot h hstarted hmain drawn
      exact hdraw.of_frame (fun _ _ => Iff.rfl) rfl rfl rfl (Nat.le_refl _)
  | leaveLoop hmain =>
      refine h.of_frame (fun _ _ => Iff.rfl) rfl rfl (by rw [hmain]; rfl) ?_
      rw [hmain]
      exact Nat.le_succ _
  | comm _ heffect => exact outstanding_commEffect h hstarted heffect
  | dispatch c hcomm =>
      refine h.of_frame ?_ rfl rfl rfl (Nat.le_refl _)
      cases c <;> simp [hcomm, Callback.entry]
  | returned closed hcomm =>
      refine h.of_frame ?_ rfl rfl rfl (Nat.le_refl _)
      cases closed <;> simp [hcomm]

theorem outstanding_of_reachable {ok : State → Action → Prop}
    (hreach : (machine cfg).ReachableBy ok s) : Outstanding s :=
  hreach.invariant (.idle nofun rfl rfl rfl) fun hreach h _ hstep =>
    outstanding_step h (started_of_reachable hreach) hstep

/-! ## The two threads as a hand-off -/

def applyFrame (drawImage : DrawImage) (framebuffer : QImage) (p : PaintRectsEx) : QImage :=
  drawRects drawImage (QImage.ofData p.data p.width p.height) framebuffer p.drects

def ackFrame : PaintRectsEx × QImage → FrameAck
  | (p, framebuffer) => ⟨p.flags, p.frameId, framebuffer⟩

def MainPc.drew : MainPc → Bool
  | .slotSignal _ => true
  | _ => false

def State.drawn (s : State) (n : Nat) : Bool :=
  s.main.drew || (s.change? n).any fun change => change.releaseLatch == 0

def State.phase (s : State) : Phase PaintRectsEx :=
  match s.comm with
  | .waitReady _ p | .emitSignal _ p => .called p
  | .waitRelease n p => if s.drawn n then .worked p else .posted p
  | .frameAck p => .worked p
  | .unmap p => .acked p
  | _ => .idle

structure Shows (cfg : Config) (s : State) (d : Handoff PaintRectsEx QImage) : Prop where
  phase : d.phase = s.phase
  worker : d.worker = s.framebuffer cfg
  calls : d.calls = s.callbacks
  acks : s.acks = d.acks.map ackFrame
  returned : d.returned = s.completed
  unmapped : s.unmapped = s.completed.filterMap PaintRectsEx.mapping

theorem drew_of_slot {pc : MainPc} (hslot : pc.slot = none) : pc.drew = false := by
  cases pc <;> first | rfl | cases hslot

theorem phase_of_paint (hpaint : s.comm.paint = none) : s.phase = .idle := by
  cases hcomm : s.comm <;> simp only [hcomm, CommPc.paint, reduceCtorEq] at hpaint <;>
    simp only [State.phase, hcomm]

theorem phase_congr (hcomm : s'.comm = s.comm) (hchanges : s'.changes = s.changes)
    (hdrew : s'.main.drew = s.main.drew) : s'.phase = s.phase := by
  have hdrawn : ∀ n, s'.drawn n = s.drawn n := by
    intro n
    rw [State.drawn, State.drawn, State.change?, State.change?, hchanges, hdrew]
  simp only [State.phase, hcomm, hdrawn]

theorem phase_of_drew {n : Nat} {p : PaintRectsEx} (hcomm : s.comm = .waitRelease n p)
    (hdrew : s.main.drew = true) : s.phase = .worked p := by
  simp [State.phase, State.drawn, hcomm, hdrew]

theorem phase_of_latch {n : Nat} {p : PaintRectsEx} {change : SyncChangeReference}
    (hcomm : s.comm = .waitRelease n p) (hchange : s.change? n = some change)
    (hlatch : change.releaseLatch = 0) : s.phase = .worked p := by
  simp [State.phase, State.drawn, hcomm, hchange, hlatch]

theorem phase_of_change {n : Nat} {p : PaintRectsEx} (hcomm : s.comm = .waitRelease n p)
    (hchange : s.change? n = some p.change) (hdrew : s.main.drew = false) :
    s.phase = .posted p := by
  have hlatch : p.change.releaseLatch = 1 := rfl
  simp [State.phase, State.drawn, hcomm, hchange, hdrew, hlatch]

theorem framebuffer_paintRects {p : PaintRectsEx} {window : QtWindow} {drawn : Nat}
    (hdrawn : drawn = p.change.rects.length) :
    (window.paintRects cfg.drawImage p.change drawn).framebuffer =
      applyFrame cfg.drawImage window.framebuffer p := by
  rw [hdrawn]
  show drawRects _ _ _ (p.drects.take p.drects.length) = _
  rw [List.take_length]
  rfl

/-- Nothing that the hand-off shows has changed. -/
theorem Shows.stutter {d : Handoff PaintRectsEx QImage} (h : Shows cfg s d)
    (hphase : s'.phase = s.phase) (hfb : s'.framebuffer cfg = s.framebuffer cfg)
    (hcalls : s'.callbacks = s.callbacks) (hacks : s'.acks = s.acks)
    (hcompleted : s'.completed = s.completed) (hunmapped : s'.unmapped = s.unmapped) :
    Shows cfg s' d := by
  refine ⟨?_, ?_, ?_, ?_, ?_, ?_⟩
  · rw [hphase, h.phase]
  · rw [hfb, h.worker]
  · rw [hcalls, h.calls]
  · rw [hacks, h.acks]
  · rw [hcompleted, h.returned]
  · rw [hunmapped, hcompleted, h.unmapped]

def NoThrow (_ : State) (a : Action) : Prop := ∀ drawn, a ≠ .drawThrows drawn

def ShowsMove (cfg : Config) (s' : State) (d : Handoff PaintRectsEx QImage) : Prop :=
  Shows cfg s' d ∨
    ∃ m d', Handoff.step (applyFrame cfg.drawImage) d m = some d' ∧ Shows cfg s' d'

theorem shows_mainEffect {d : Handoff PaintRectsEx QImage} (h : Shows cfg s d)
    (hout : Outstanding s) (hstarted : Started s) (heffect : MainEffect cfg s s') :
    ShowsMove cfg s' d := by
  cases heffect with
  | drew n drawn hmain hdrawn =>
      obtain ⟨p, window, hcomm, hchange, hwindow, heq⟩ :=
        drawSlot_of_outstanding cfg hout hstarted hmain drawn
      have hphase : d.phase = .posted p := by
        rw [h.phase]
        exact phase_of_change hcomm hchange (by rw [hmain]; rfl)
      have hfb : s.framebuffer cfg = window.framebuffer := by
        simp [State.framebuffer, hwindow]
      right
      refine ⟨.work, _, Handoff.step_work hphase, ?_⟩
      have hcomm' : (s.drawSlot cfg n drawn).comm = .waitRelease n p := by
        rw [heq]
        exact hcomm
      have hphase' := phase_of_drew hcomm' (by rw [heq]; rfl)
      rw [heq] at hphase' ⊢
      refine ⟨hphase'.symm, ?_, h.calls, h.acks, h.returned, h.unmapped⟩
      show _ = (window.paintRects cfg.drawImage p.change drawn).framebuffer
      rw [framebuffer_paintRects (hdrawn _ hchange), h.worker, hfb]
  | signalled n hmain =>
      obtain ⟨p, hcomm, hchange, _, heq⟩ := signalSlot_of_outstanding hout hmain
      have hphase := phase_of_drew hcomm (by rw [hmain]; rfl)
      have hcomm' : (s.signalSlot n).comm = .waitRelease n p := by
        rw [heq]
        exact hcomm
      have hchange' : (s.signalSlot n).change? n = some p.change.signalDataIsNotUsed := by
        rw [heq]
        exact change?_of_changes rfl
      have hphase' := phase_of_latch hcomm' hchange' rfl
      rw [← hphase, heq] at hphase'
      left
      rw [heq]
      exact h.stutter hphase' rfl rfl rfl rfl rfl
  | dropped hmain =>
      left
      refine h.stutter ?_ rfl rfl rfl rfl rfl
      exact phase_congr rfl rfl (by rw [hmain]; rfl)
  | advanced main comm qt connected latch quit running hslot hslot' hloop hstage hlive hcomm
      hpixels =>
      left
      refine h.stutter ?_ hpixels rfl rfl rfl rfl
      rcases hcomm with rfl | ⟨hnot, rfl⟩
      · exact phase_congr rfl rfl (by rw [drew_of_slot hslot, drew_of_slot hslot'])
      · rw [phase_of_paint (s := s) (by rw [hnot]; rfl)]
        exact phase_of_paint rfl

theorem shows_commEffect {d : Handoff PaintRectsEx QImage} (h : Shows cfg s d)
    (hout : Outstanding s) (heffect : CommEffect cfg s s') : ShowsMove cfg s' d := by
  cases heffect with
  | fault fault huse => exact .inl (h.stutter (phase_congr rfl rfl rfl) rfl rfl rfl rfl rfl)
  | ready n p hcomm hlatch =>
      have hphase : s.phase = .called p := by simp only [State.phase, hcomm]
      left
      exact h.stutter hphase.symm rfl rfl rfl rfl rfl
  | emitted n p hcomm hlive =>
      have hphase : d.phase = .called p := by
        rw [h.phase]
        simp only [State.phase, hcomm]
      obtain ⟨hchanges, _, hslot⟩ := hout.of_idle (by simp [hcomm])
      have hchange : (s.emitPaintRects n p).change? n = some p.change := by
        apply change?_of_changes
        simp [State.emitPaintRects, hchanges]
      have hphase' : (s.emitPaintRects n p).phase = .posted p :=
        phase_of_change rfl hchange (drew_of_slot hslot)
      right
      exact ⟨.post, _, Handoff.step_post hphase, hphase'.symm, h.worker, h.calls, h.acks,
        h.returned, h.unmapped⟩
  | released n p change hcomm hchange hlatch =>
      have hphase := phase_of_latch hcomm hchange hlatch
      left
      exact h.stutter hphase.symm rfl rfl rfl rfl rfl
  | acked p hcomm =>
      have hphase : d.phase = .worked p := by
        rw [h.phase]
        simp only [State.phase, hcomm]
      right
      refine ⟨.ack, _, Handoff.step_ack hphase, rfl, h.worker, h.calls, ?_, h.returned, h.unmapped⟩
      rw [List.map_append, ← h.acks, h.worker]
      rfl
  | unmapped p hcomm =>
      have hphase : d.phase = .acked p := by
        rw [h.phase]
        simp only [State.phase, hcomm]
      right
      refine ⟨.ret, _, Handoff.step_ret hphase, rfl, h.worker, h.calls, h.acks, ?_, ?_⟩
      · rw [h.returned]
      · rw [List.filterMap_append, ← h.unmapped]
        cases hmapping : p.mapping <;> simp [hmapping]
  | exited hcomm =>
      have hphase : s.phase = .idle := phase_of_paint (by rw [hcomm]; rfl)
      left
      exact h.stutter hphase.symm rfl rfl rfl rfl rfl
  | moved comm qt hnext hpixels hlive hwindow =>
      obtain ⟨hpaint, hpaint'⟩ := paint_of_next hnext
      left
      refine h.stutter ?_ ?_ rfl rfl rfl rfl
      · rw [phase_of_paint hpaint]
        exact phase_of_paint hpaint'
      · exact congrArg (fun image => image.getD cfg.framebuffer) hpixels

theorem shows_dispatch {d : Handoff PaintRectsEx QImage} (h : Shows cfg s d) (c : Callback)
    (hcomm : s.comm = .checkWaitObjs) :
    ShowsMove cfg { s with
      comm := c.entry s.callbacks.length
      callbacks := s.callbacks ++ c.paints } d := by
  have hidle : s.phase = .idle := phase_of_paint (by rw [hcomm]; rfl)
  cases c
  case paintRectsEx p =>
    right
    refine ⟨.call p, _, Handoff.step_call (h.phase.trans hidle) p, rfl, h.worker, ?_, h.acks,
      h.returned, h.unmapped⟩
    rw [h.calls]
    rfl
  all_goals
    left
    exact h.stutter hidle.symm rfl (List.append_nil _) rfl rfl rfl

theorem shows_step {d : Handoff PaintRectsEx QImage} (h : Shows cfg s d) (hout : Outstanding s)
    (hstarted : Started s) (hok : NoThrow s a) (hstep : step cfg s a = some s') :
    ShowsMove cfg s' d := by
  cases step_effect hstarted hstep with
  | main _ heffect => exact shows_mainEffect h hout hstarted heffect
  | runSlot n rest hmain hposted =>
      exact .inl (h.stutter (phase_congr rfl rfl (by rw [hmain]; rfl)) rfl rfl rfl rfl rfl)
  | drawThrows n drawn hmain => exact absurd rfl (hok drawn)
  | leaveLoop hmain =>
      exact .inl (h.stutter (phase_congr rfl rfl (by rw [hmain]; rfl)) rfl rfl rfl rfl rfl)
  | comm _ heffect => exact shows_commEffect h hout heffect
  | dispatch c hcomm => exact shows_dispatch h c hcomm
  | returned closed hcomm =>
      have hphase : s.phase = .idle := phase_of_paint (by rw [hcomm]; rfl)
      refine .inl (h.stutter ?_ rfl rfl rfl rfl rfl)
      rw [hphase]
      cases closed <;> rfl

/-- The two threads refine the hand-off. -/
theorem refines_handoff (cfg : Config) :
    Machine.Simulation (machine cfg) (Handoff.machine (applyFrame cfg.drawImage) cfg.framebuffer)
      NoThrow (fun _ _ => True) (Shows cfg) := by
  refine ⟨⟨rfl, rfl, rfl, rfl, rfl, rfl⟩, ?_⟩
  intro s s' a d hreach h hok hstep
  rcases shows_step h (outstanding_of_reachable hreach) (started_of_reachable hreach) hok hstep with
    h' | ⟨m, d', hmove, h'⟩
  · exact ⟨[], d, rfl, trivial, h'⟩
  · refine ⟨[m], d', ?_, Machine.stepsMeet_true _ _, h'⟩
    simp [Handoff.machine, hmove]

/-! ## Painting is sequential -/

/-- Two threads paint as one would. The i-th ack answers the i-th paint called,
with the first i + 1 frames in the framebuffer; every paint returned from has
been acknowledged and has unmapped its memory, in order. A slot call runs only
while its paint waits for it, and a paint unmaps when its change is gone. -/
structure PaintsSequentially (cfg : Config) (s : State) : Prop where
  oneOutstanding : s.changes.length ≤ 1
  connected : ∀ n p, s.comm = .emitSignal n p → s.connected = true
  slot : ∀ n, s.main.slot = some n → ∃ p, s.comm = .waitRelease n p ∧ s.change? n = some p.change
  acks : ∀ i ack, s.acks[i]? = some ack → ∃ p, s.callbacks[i]? = some p ∧
    ack.flags = p.flags ∧ ack.frameId = p.frameId ∧
    ack.framebuffer = (s.callbacks.take (i + 1)).foldl (applyFrame cfg.drawImage) cfg.framebuffer
  completed : s.completed <+: s.callbacks
  acked : s.completed.length ≤ s.acks.length
  unmapped : s.unmapped = s.completed.filterMap PaintRectsEx.mapping
  unmap : ∀ p, s.comm = .unmap p → s.acks.length = s.completed.length + 1 ∧ s.changes = []

theorem paints_sequentially (cfg : Config) {s : State}
    (hreach : (machine cfg).ReachableBy NoThrow s) : PaintsSequentially cfg s := by
  obtain ⟨d, hd, h⟩ := (refines_handoff cfg).reachable hreach
  have hseq := Handoff.sequential hd
  have hstarted := started_of_reachable hreach
  have hout := outstanding_of_reachable hreach
  have hlen : s.acks.length = d.returned.length + d.phase.confirmed.length := by
    rw [h.acks, List.length_map, hseq.acks, length_transcript, List.length_append]
  refine ⟨?_, ?_, ?_, ?_, ?_, ?_, h.unmapped, ?_⟩
  · cases hout with
    | idle hc hch hp hs => rw [hch]; decide
    | posted n p hc hch hp hs => rw [hch]; exact Nat.le_refl _
    | running n p hc hch hp hs => rw [hch]; exact Nat.le_refl _
    | lost n p hc hch hp hs hl => rw [hch]; exact Nat.le_refl _
    | released n p hc hch hp hs => rw [hch]; exact Nat.le_refl _
  · intro n p hcomm
    rw [hstarted.connected]
    have hcounted := hstarted.emitted n p (.inl hcomm)
    simp only [MainPc.after, MainPc.stage] at hcounted ⊢
    omega
  · intro n hslot
    obtain ⟨p, hcomm, hchanges, _⟩ := hout.of_slot hslot
    exact ⟨p, hcomm, change?_of_changes hchanges⟩
  · intro i ack hack
    rw [h.acks, List.getElem?_map, Option.map_eq_some_iff] at hack
    obtain ⟨entry, hentry, rfl⟩ := hack
    obtain ⟨hlt, _⟩ := List.getElem?_eq_some_iff.mp hentry
    obtain ⟨more, hmore⟩ := hseq.acks_isPrefix
    have htranscript : (transcript (applyFrame cfg.drawImage) cfg.framebuffer s.callbacks)[i]? =
        some entry := by
      rw [← h.calls, ← hmore, List.getElem?_append_left hlt, hentry]
    rw [getElem?_transcript, Option.map_eq_some_iff] at htranscript
    obtain ⟨p, hp, rfl⟩ := htranscript
    exact ⟨p, hp, rfl, rfl, rfl⟩
  · rw [← h.returned, ← h.calls, hseq.calls]
    exact List.prefix_append _ _
  · rw [hlen, h.returned]
    exact Nat.le_add_right _ _
  · intro p hcomm
    have hphase : d.phase = .acked p := by
      rw [h.phase]
      simp only [State.phase, hcomm]
    refine ⟨?_, (hout.of_idle (by simp [hcomm])).1⟩
    rw [hlen, hphase, h.returned]
    rfl

instance (s : State) (a : Action) : Decidable (NoThrow s a) :=
  match a with
  | .drawThrows drawn => .isFalse fun h => h drawn rfl
  | .main | .runSlot | .leaveLoop | .comm | .dispatch _ | .checkWaitObjsReturns _ => .isTrue nofun

/-- `drawImage` when the two rectangles have one size and lie inside their
images: the pixels are copied. -/
def copyPixels : DrawImage := fun device target image source =>
  { device with
    pixel := fun x y =>
      if target.x ≤ x ∧ x < target.x + target.width ∧ target.y ≤ y ∧ y < target.y + target.height
      then image.pixel (x - target.x + source.x) (y - target.y + source.y)
      else device.pixel x y }

def pixelFrame (colour : UInt32) (frameId : Int) : PaintRectsEx :=
  ⟨[⟨0, 0, 1, 1⟩], fun _ => colour, 1, 1, 0, frameId, some 4096, 4⟩

/-- A paint that is called before the window exists, and a second one that is
acknowledged but not returned from. -/
def twoPaints : List Action :=
  [.main, .comm, .dispatch (.paintRectsEx (pixelFrame 255 1)),
    .main, .main, .main, .main, .comm, .comm, .main, .main, .runSlot, .main, .main,
    .comm, .comm, .comm, .dispatch (.paintRectsEx (pixelFrame 128 2)),
    .comm, .comm, .runSlot, .main, .main, .comm, .comm]

theorem paints_sequentially_twoPaints :
    ∃ s, (machine ⟨copyPixels, ⟨1, 1, fun _ _ => 0⟩⟩).run {} twoPaints = some s ∧
      s.acks.map FrameAck.frameId = [1, 2] ∧
      s.acks.map (fun ack => ack.framebuffer.pixel 0 0) = [255, 128] ∧
      s.unmapped = [(4096, 4)] ∧ PaintsSequentially ⟨copyPixels, ⟨1, 1, fun _ _ => 0⟩⟩ s := by
  have hexec : ∃ s, (machine ⟨copyPixels, ⟨1, 1, fun _ _ => 0⟩⟩).run {} twoPaints = some s ∧
      s.acks.map FrameAck.frameId = [1, 2] ∧
      s.acks.map (fun ack => ack.framebuffer.pixel 0 0) = [255, 128] ∧
      s.unmapped = [(4096, 4)] := ⟨_, rfl, rfl, rfl, rfl⟩
  have hmeet : (machine ⟨copyPixels, ⟨1, 1, fun _ _ => 0⟩⟩).StepsMeet NoThrow {} twoPaints := by
    decide
  obtain ⟨s, hrun, hacks, hpixels, hunmapped⟩ := hexec
  exact ⟨s, hrun, hacks, hpixels, hunmapped, paints_sequentially _ (.run .start hmeet hrun)⟩

end XrdpLocal.Threads
