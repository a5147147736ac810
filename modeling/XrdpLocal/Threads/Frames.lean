import XrdpLocal.Qt.Painting
import XrdpLocal.Threads.Painting
/-!
# Frames from the server

xorgxrdp sends whole frames and with each of them rectangles that cover what
has changed since the frame before. The client draws these rectangles only.
As long as the server keeps to that, the framebuffer is at every ack the frame
that is acknowledged, and between two acks one frame or the next.
-/

namespace XrdpLocal.Threads

open StateMachine XrdpLocal.Qt

variable {cfg : Config} {s : State}

/-! ## What the server does -/

def PaintRectsEx.frame (p : PaintRectsEx) : QImage := QImage.ofData p.data p.width p.height

def PaintRectsEx.damaged (p : PaintRectsEx) : Set (Int × Int) :=
  {a | ∃ rect ∈ p.drects, a ∈ rect.toQRect.pixels}

/-- The rectangles have an extent, and the frame covers the area. -/
structure PaintRectsEx.Covers (area : Set (Int × Int)) (p : PaintRectsEx) : Prop where
  positive : ∀ rect ∈ p.drects, rect.Positive
  frame : area ⊆ p.frame.area

structure PaintRectsEx.Full (area : Set (Int × Int)) (p : PaintRectsEx) : Prop
    extends p.Covers area where
  damaged : area ⊆ p.damaged

/-- `q` declares every pixel that it changes in the frame of `p`. -/
structure PaintRectsEx.Follows (area : Set (Int × Int)) (p q : PaintRectsEx) : Prop
    extends q.Covers area where
  declared : ∀ a ∈ area, a ∉ q.damaged → p.frame.pixel a.1 a.2 = q.frame.pixel a.1 a.2

structure Incremental (area : Set (Int × Int)) (paints : List PaintRectsEx) : Prop where
  first : ∀ p ∈ paints.head?, p.Full area
  follows : paints.IsChain (PaintRectsEx.Follows area)

theorem Incremental.left_of_append {area : Set (Int × Int)} {paints more : List PaintRectsEx}
    (h : Incremental area (paints ++ more)) : Incremental area paints := by
  constructor
  · intro p hp
    refine h.first p ?_
    rw [Option.mem_def] at hp ⊢
    rw [List.head?_append, hp]
    rfl
  · exact h.follows.left_of_append

/-! ## What the framebuffer shows -/

structure ShowsFrame (area : Set (Int × Int)) (image : QImage) (p : PaintRectsEx) : Prop where
  inside : area ⊆ image.area
  pixel : ∀ a ∈ area, image.pixel a.1 a.2 = p.frame.pixel a.1 a.2

section Drawing

variable {drawImage : DrawImage} (hdraw : CopiesRect drawImage) {area : Set (Int × Int)}

include hdraw

theorem area_applyFrame {image : QImage} {p : PaintRectsEx} (hp : p.Covers area) :
    (applyFrame drawImage image p).area = image.area :=
  area_drawRects hdraw p.frame hp.positive image

theorem pixel_applyFrame_of_damaged {image : QImage} {p : PaintRectsEx} (hp : p.Covers area)
    (harea : area ⊆ image.area) {a : Int × Int} (ha : a ∈ area) (hdamaged : a ∈ p.damaged) :
    (applyFrame drawImage image p).pixel a.1 a.2 = p.frame.pixel a.1 a.2 :=
  pixel_drawRects_of_damaged hdraw p.frame hp.positive image (harea ha) (hp.frame ha) hdamaged

theorem pixel_applyFrame_of_undamaged {image : QImage} {p : PaintRectsEx} (hp : p.Covers area)
    (harea : area ⊆ image.area) {a : Int × Int} (ha : a ∈ area) (hundamaged : a ∉ p.damaged) :
    (applyFrame drawImage image p).pixel a.1 a.2 = image.pixel a.1 a.2 :=
  pixel_drawRects_of_undamaged hdraw p.frame hp.positive image (harea ha)
    fun h => hundamaged h.2

theorem showsFrame_full {image : QImage} (harea : area ⊆ image.area) (p : PaintRectsEx)
    (hp : p.Full area) : ShowsFrame area (applyFrame drawImage image p) p := by
  constructor
  · rw [area_applyFrame hdraw hp.toCovers]
    exact harea
  · exact fun a ha => pixel_applyFrame_of_damaged hdraw hp.toCovers harea ha (hp.damaged ha)

theorem showsFrame_follows (image : QImage) (p q : PaintRectsEx) (h : ShowsFrame area image p)
    (hq : p.Follows area q) : ShowsFrame area (applyFrame drawImage image q) q := by
  constructor
  · rw [area_applyFrame hdraw hq.toCovers]
    exact h.inside
  · intro a ha
    by_cases hdamaged : a ∈ q.damaged
    · exact pixel_applyFrame_of_damaged hdraw hq.toCovers h.inside ha hdamaged
    · calc
        (applyFrame drawImage image q).pixel a.1 a.2 = image.pixel a.1 a.2 :=
          pixel_applyFrame_of_undamaged hdraw hq.toCovers h.inside ha hdamaged
        _ = p.frame.pixel a.1 a.2 := h.pixel a ha
        _ = q.frame.pixel a.1 a.2 := hq.declared a ha hdamaged

end Drawing

/-- The paints whose frames have been drawn, the last of them perhaps not
acknowledged yet. -/
def State.drawnPaints (s : State) : List PaintRectsEx := s.completed ++ s.phase.done

/-- The i-th ack shows the i-th frame, and at any time the framebuffer shows
the last frame drawn, which is the last one called or the one before. -/
structure FramesFaithful (area : Set (Int × Int)) (cfg : Config) (s : State) : Prop where
  acks : ∀ (i : Nat) (ack : FrameAck), s.acks[i]? = some ack → ∃ p, s.callbacks[i]? = some p ∧
    ack.flags = p.flags ∧ ack.frameId = p.frameId ∧ ShowsFrame area ack.framebuffer p
  shown : ∀ p ∈ s.drawnPaints.getLast?, ShowsFrame area (s.framebuffer cfg) p
  behind : ∃ waiting, s.callbacks = s.drawnPaints ++ waiting ∧ waiting.length ≤ 1
  settled : s.comm.paint = none → s.drawnPaints = s.callbacks

/-- What is drawn is called, and at most one paint called is not drawn yet. -/
theorem callbacks_of_shows {d : Handoff PaintRectsEx QImage} (h : Shows cfg s d)
    (hseq : Handoff.Sequential (applyFrame cfg.drawImage) cfg.framebuffer d) :
    s.drawnPaints = d.returned ++ d.phase.done ∧
      ∃ waiting, s.callbacks = s.drawnPaints ++ waiting ∧ waiting.length ≤ 1 := by
  have hdrawn : s.drawnPaints = d.returned ++ d.phase.done := by
    rw [State.drawnPaints, h.returned, h.phase]
  have hcalls : s.callbacks = d.returned ++ d.phase.inHand := h.calls.symm.trans hseq.calls
  obtain ⟨waiting, hwaiting⟩ := d.phase.done_isPrefix
  refine ⟨hdrawn, waiting, ?_, ?_⟩
  · rw [hcalls, hdrawn, List.append_assoc, hwaiting]
  · have hlength := congrArg List.length hwaiting
    have hhand : d.phase.inHand.length ≤ 1 := by
      cases d.phase <;> simp [Phase.inHand]
    rw [List.length_append] at hlength
    omega

theorem showsFrame_drawnPaints {area : Set (Int × Int)} (hdraw : CopiesRect cfg.drawImage)
    (harea : area ⊆ cfg.framebuffer.area) (hreach : (machine cfg).ReachableBy NoThrow s)
    (hserver : Incremental area s.callbacks) :
    ∀ p ∈ s.drawnPaints.getLast?, ShowsFrame area (s.framebuffer cfg) p := by
  obtain ⟨d, hd, h⟩ := (refines_handoff cfg).reachable hreach
  have hseq := Handoff.sequential hd
  obtain ⟨hdrawn, waiting, hcalls, _⟩ := callbacks_of_shows h hseq
  rw [hcalls] at hserver
  have hincremental : Incremental area s.drawnPaints := hserver.left_of_append
  have hworker : s.framebuffer cfg =
      s.drawnPaints.foldl (applyFrame cfg.drawImage) cfg.framebuffer := by
    rw [← h.worker, hseq.worker, hdrawn]
  rw [hworker]
  exact foldl_reflects (showsFrame_full hdraw harea) (showsFrame_follows hdraw)
    hincremental.first hincremental.follows

theorem frames_faithful {area : Set (Int × Int)} (hdraw : CopiesRect cfg.drawImage)
    (harea : area ⊆ cfg.framebuffer.area) (hreach : (machine cfg).ReachableBy NoThrow s)
    (hserver : Incremental area s.callbacks) : FramesFaithful area cfg s := by
  obtain ⟨d, hd, h⟩ := (refines_handoff cfg).reachable hreach
  have hseq := Handoff.sequential hd
  obtain ⟨hdrawn, hbehind⟩ := callbacks_of_shows h hseq
  refine ⟨?_, showsFrame_drawnPaints hdraw harea hreach hserver, hbehind, ?_⟩
  · intro i ack hack
    rw [h.acks, List.getElem?_map, Option.map_eq_some_iff] at hack
    obtain ⟨entry, hentry, rfl⟩ := hack
    have htranscript : (transcript (applyFrame cfg.drawImage) cfg.framebuffer s.callbacks)[i]? =
        some entry := by
      obtain ⟨hlt, _⟩ := List.getElem?_eq_some_iff.mp hentry
      obtain ⟨more, hmore⟩ := hseq.acks_isPrefix
      rw [← h.calls, ← hmore, List.getElem?_append_left hlt, hentry]
    have hshows := transcript_reflects (showsFrame_full hdraw harea) (showsFrame_follows hdraw)
      hserver.first hserver.follows entry (List.mem_of_getElem? htranscript)
    rw [getElem?_transcript, Option.map_eq_some_iff] at htranscript
    obtain ⟨p, hp, rfl⟩ := htranscript
    exact ⟨p, hp, rfl, rfl, hshows⟩
  · intro hpaint
    have hidle : d.phase = .idle := h.phase.trans (phase_of_paint hpaint)
    rw [hdrawn, ← h.calls, hseq.calls, hidle]
    rfl

def twoPixelFrame (rect : XrdpRectSpec) (left right : UInt32) (frameId : Int) : PaintRectsEx :=
  ⟨[rect], fun i => if i = 0 then left else right, 2, 1, 0, frameId, none, 0⟩

/-- A full frame, and one that changes the right pixel; the second paint is
drawn and acknowledged. -/
def twoFrames : List Action :=
  [.main, .main, .main, .main, .main, .main, .main, .comm,
    .dispatch (.paintRectsEx (twoPixelFrame ⟨0, 0, 2, 1⟩ 7 7 1)), .comm, .comm, .runSlot, .main,
    .main, .comm, .comm, .comm, .dispatch (.paintRectsEx (twoPixelFrame ⟨1, 0, 1, 1⟩ 7 9 2)),
    .comm, .comm, .runSlot, .main, .main, .comm, .comm]

theorem incremental_twoFrames (image : QImage) (hwidth : image.width = 2)
    (hheight : image.height = 1) :
    Incremental image.area
      [twoPixelFrame ⟨0, 0, 2, 1⟩ 7 7 1, twoPixelFrame ⟨1, 0, 1, 1⟩ 7 9 2] := by
  have hframe : ∀ p : PaintRectsEx, p.width = 2 → p.height = 1 → image.area ⊆ p.frame.area := by
    intro p hp hp'
    have harea : p.frame.area = image.area :=
      area_congr (hp.trans hwidth.symm) (hp'.trans hheight.symm)
    rw [harea]
  constructor
  · intro p hp
    obtain rfl := Option.some.inj hp
    refine ⟨⟨?_, hframe _ rfl rfl⟩, ?_⟩
    · intro rect hrect
      rw [List.mem_singleton.mp hrect]
      exact ⟨by decide, by decide⟩
    · rintro ⟨x, y⟩ ⟨hx, hxlt, hy, hylt⟩
      rw [hwidth] at hxlt
      rw [hheight] at hylt
      exact ⟨_, List.mem_singleton.mpr rfl, hx, hxlt, hy, hylt⟩
  · rw [List.isChain_cons_cons]
    refine ⟨⟨⟨?_, hframe _ rfl rfl⟩, ?_⟩, .singleton _⟩
    · intro rect hrect
      rw [List.mem_singleton.mp hrect]
      exact ⟨by decide, by decide⟩
    · rintro ⟨x, y⟩ ⟨hx, hxlt, hy, hylt⟩ hundamaged
      simp only at hx hxlt hy hylt
      rw [hwidth] at hxlt
      rw [hheight] at hylt
      have hy0 : y = 0 := by omega
      have hx0 : x = 0 := by
        by_contra hne
        refine hundamaged ⟨_, List.mem_singleton.mpr rfl, ?_, hxlt, hy, hylt⟩
        show (1 : Int) ≤ x
        omega
      subst hx0 hy0
      rfl

theorem frames_faithful_twoFrames :
    ∃ s, (machine ⟨copyRect, ⟨2, 1, fun _ _ => 0⟩⟩).run {} twoFrames = some s ∧
      s.acks.map FrameAck.frameId = [1, 2] ∧
      FramesFaithful (QImage.area ⟨2, 1, fun _ _ => 0⟩) ⟨copyRect, ⟨2, 1, fun _ _ => 0⟩⟩ s := by
  have hexec : ∃ s, (machine ⟨copyRect, ⟨2, 1, fun _ _ => 0⟩⟩).run {} twoFrames = some s ∧
      s.acks.map FrameAck.frameId = [1, 2] ∧
      s.callbacks = [twoPixelFrame ⟨0, 0, 2, 1⟩ 7 7 1, twoPixelFrame ⟨1, 0, 1, 1⟩ 7 9 2] :=
    ⟨_, rfl, rfl, rfl⟩
  have hmeet : (machine ⟨copyRect, ⟨2, 1, fun _ _ => 0⟩⟩).StepsMeet NoThrow {} twoFrames := by
    decide
  obtain ⟨s, hrun, hacks, hcallbacks⟩ := hexec
  refine ⟨s, hrun, hacks, frames_faithful copiesRect_copyRect subset_rfl
    (.run .start hmeet hrun) ?_⟩
  rw [hcallbacks]
  exact incremental_twoFrames _ rfl rfl

end XrdpLocal.Threads
