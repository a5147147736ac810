import XrdpLocal.Library.Overlay
import XrdpLocal.Qt.Window
/-!
# Painting the damaged pixels

`paint_rects_slot` draws the rectangles of a change one after the other. As a
picture, that is the framebuffer overlaid with the image on the damage
(`picture_drawRects`), so neither the order of the rectangles nor repeated
ones matter.
-/

namespace XrdpLocal.Qt

open Overlay

/-- What a call of `paint_rects_slot` leaves behind, and whether it has called
`QtState::exit`. -/
structure SlotResult where
  window : QtWindow
  change : SyncChangeReference
  exited : Bool

def SyncChangeReference.newImage (change : SyncChangeReference) : QImage :=
  QImage.ofData change.data change.width change.height

/-- `paint_rects_slot`, whose `x` and `y` are not read. `thrown` is `some n` if
a `std::exception` leaves the `try` block after `n` rectangles, and `none` if
the block is completed. -/
def QtWindow.paintRectsSlot (drawImage : DrawImage) (thrown : Option Nat) (window : QtWindow)
    (change : SyncChangeReference) : SlotResult where
  window := window.paintRects drawImage change (thrown.getD change.rects.length)
  change := change.signalDataIsNotUsed
  exited := thrown.isSome

/-! ## Areas and pictures -/

def QRect.pixels (rect : QRect) : Set (Int × Int) :=
  {p | rect.x ≤ p.1 ∧ p.1 < rect.x + rect.width ∧ rect.y ≤ p.2 ∧ p.2 < rect.y + rect.height}

def QImage.area (image : QImage) : Set (Int × Int) :=
  {p | 0 ≤ p.1 ∧ p.1 < image.width ∧ 0 ≤ p.2 ∧ p.2 < image.height}

instance (rect : QRect) : DecidablePred (· ∈ rect.pixels) :=
  fun p => inferInstanceAs (Decidable (rect.x ≤ p.1 ∧ p.1 < rect.x + rect.width ∧
    rect.y ≤ p.2 ∧ p.2 < rect.y + rect.height))

instance (image : QImage) : DecidablePred (· ∈ image.area) :=
  fun p => inferInstanceAs (Decidable (0 ≤ p.1 ∧ p.1 < image.width ∧
    0 ≤ p.2 ∧ p.2 < image.height))

def QImage.picture (image : QImage) (p : Int × Int) : Option UInt32 :=
  if p ∈ image.area then some (image.pixel p.1 p.2) else none

theorem picture_of_mem {image : QImage} {p : Int × Int} (hp : p ∈ image.area) :
    image.picture p = some (image.pixel p.1 p.2) := if_pos hp

theorem picture_of_notMem {image : QImage} {p : Int × Int} (hp : p ∉ image.area) :
    image.picture p = none := if_neg hp

theorem area_congr {image image' : QImage} (hwidth : image.width = image'.width)
    (hheight : image.height = image'.height) : image.area = image'.area := by
  unfold QImage.area
  rw [hwidth, hheight]

theorem QImage.Same.of_picture {image image' : QImage} (hwidth : image.width = image'.width)
    (hheight : image.height = image'.height) (h : image.picture = image'.picture) :
    image.Same image' := by
  refine ⟨hwidth, hheight, fun x y hx hxlt hy hylt => ?_⟩
  have hp : (x, y) ∈ image.area := ⟨hx, hxlt, hy, hylt⟩
  have hp' : (x, y) ∈ image'.area := by rwa [← area_congr hwidth hheight]
  have hpixel := congrFun h (x, y)
  rw [picture_of_mem hp, picture_of_mem hp'] at hpixel
  exact Option.some.inj hpixel

/-! ## One rectangle -/

/-- `result` is the framebuffer with the pixels of the rectangle copied from
the image, where they lie in both, and nothing else changed. -/
structure CopiedRect (image framebuffer : QImage) (rect : QRect) (result : QImage) : Prop where
  width : result.width = framebuffer.width
  height : result.height = framebuffer.height
  copied : ∀ p ∈ framebuffer.area, p ∈ image.area → p ∈ rect.pixels →
    result.pixel p.1 p.2 = image.pixel p.1 p.2
  kept : ∀ p ∈ framebuffer.area, ¬ (p ∈ image.area ∧ p ∈ rect.pixels) →
    result.pixel p.1 p.2 = framebuffer.pixel p.1 p.2

/-- What is assumed of `drawImage`. An extent that is not positive has a
meaning of its own in Qt. -/
def CopiesRect (drawImage : DrawImage) : Prop :=
  ∀ (framebuffer image : QImage) (rect : QRect), 0 < rect.width → 0 < rect.height →
    CopiedRect image framebuffer rect (drawImage framebuffer rect image rect)

def copyRect : DrawImage := fun framebuffer target image _ =>
  { framebuffer with pixel := fun x y =>
      if (x, y) ∈ image.area ∧ (x, y) ∈ target.pixels then image.pixel x y
      else framebuffer.pixel x y }

theorem copiesRect_copyRect : CopiesRect copyRect := by
  intro framebuffer image rect _ _
  constructor
  · rfl
  · rfl
  · exact fun p _ himage hrect => if_pos ⟨himage, hrect⟩
  · exact fun p _ hnot => if_neg hnot

def copiedPixels (framebuffer image : QImage) (rect : QRect) : Set (Int × Int) :=
  framebuffer.area ∩ (image.area ∩ rect.pixels)

open Classical in
theorem CopiedRect.picture {image framebuffer result : QImage} {rect : QRect}
    (h : CopiedRect image framebuffer rect result) :
    result.picture =
      (copiedPixels framebuffer image rect).piecewise image.picture framebuffer.picture := by
  have harea := area_congr h.width h.height
  ext1 p
  by_cases hp : p ∈ framebuffer.area
  · have hresult : p ∈ result.area := by rwa [harea]
    rw [picture_of_mem hresult]
    by_cases hcopied : p ∈ image.area ∧ p ∈ rect.pixels
    · have hmem : p ∈ copiedPixels framebuffer image rect := ⟨hp, hcopied⟩
      rw [Set.piecewise_eq_of_mem _ _ _ hmem, picture_of_mem hcopied.1,
        h.copied p hp hcopied.1 hcopied.2]
    · rw [Set.piecewise_eq_of_notMem _ _ _ fun hmem => hcopied hmem.2, picture_of_mem hp,
        h.kept p hp hcopied]
  · have hresult : p ∉ result.area := by rwa [harea]
    rw [Set.piecewise_eq_of_notMem _ _ _ fun hmem => hp hmem.1, picture_of_notMem hp,
      picture_of_notMem hresult]

/-! ## The loop -/

theorem mem_damage_copiedPixels {framebuffer image : QImage} {rects : List XrdpRectSpec}
    {p : Int × Int} :
    p ∈ damage (rects.map fun rect => copiedPixels framebuffer image rect.toQRect) ↔
      p ∈ framebuffer.area ∧ p ∈ image.area ∧ ∃ rect ∈ rects, p ∈ rect.toQRect.pixels := by
  constructor
  · rintro ⟨region, hregion, hp⟩
    obtain ⟨rect, hrect, rfl⟩ := List.mem_map.mp hregion
    exact ⟨hp.1, hp.2.1, rect, hrect, hp.2.2⟩
  · rintro ⟨hp, himage, rect, hrect, hpixel⟩
    exact ⟨_, List.mem_map_of_mem hrect, hp, himage, hpixel⟩

structure XrdpRectSpec.Positive (rect : XrdpRectSpec) : Prop where
  cx : 0 < rect.cx
  cy : 0 < rect.cy

theorem XrdpRectSpec.Positive.width {rect : XrdpRectSpec} (h : rect.Positive) :
    0 < rect.toQRect.width := Int16.lt_iff_toInt_lt.mp h.cx

theorem XrdpRectSpec.Positive.height {rect : XrdpRectSpec} (h : rect.Positive) :
    0 < rect.toQRect.height := Int16.lt_iff_toInt_lt.mp h.cy

section Loop

variable {drawImage : DrawImage} (hdraw : CopiesRect drawImage) (image : QImage)
  {rects : List XrdpRectSpec} (hrects : ∀ rect ∈ rects, rect.Positive) (framebuffer : QImage)

include hdraw hrects

theorem size_drawRects :
    (drawRects drawImage image framebuffer rects).width = framebuffer.width ∧
      (drawRects drawImage image framebuffer rects).height = framebuffer.height := by
  induction rects generalizing framebuffer with
  | nil => exact ⟨rfl, rfl⟩
  | cons rect rects ih =>
      obtain ⟨hrect, hrest⟩ := List.forall_mem_cons.mp hrects
      have hone := hdraw framebuffer image rect.toQRect hrect.width hrect.height
      have hloop := ih hrest (drawImage framebuffer rect.toQRect image rect.toQRect)
      rw [hone.width, hone.height] at hloop
      exact hloop

/-- The loop overlays the framebuffer with the image, on the rectangles. -/
theorem picture_drawRects :
    (drawRects drawImage image framebuffer rects).picture =
      overlay image.picture (rects.map fun rect => copiedPixels framebuffer image rect.toQRect)
        framebuffer.picture := by
  induction rects generalizing framebuffer with
  | nil => rfl
  | cons rect rects ih =>
      obtain ⟨hrect, hrest⟩ := List.forall_mem_cons.mp hrects
      have hone := hdraw framebuffer image rect.toQRect hrect.width hrect.height
      have hregions : copiedPixels (drawImage framebuffer rect.toQRect image rect.toQRect) image =
          copiedPixels framebuffer image := by
        unfold copiedPixels
        rw [area_congr hone.width hone.height]
      rw [List.map_cons, overlay_cons, ← hone.picture, ← hregions]
      exact ih hrest _

theorem area_drawRects :
    (drawRects drawImage image framebuffer rects).area = framebuffer.area := by
  obtain ⟨hwidth, hheight⟩ := size_drawRects hdraw image hrects framebuffer
  exact area_congr hwidth hheight

theorem pixel_drawRects_of_damaged {p : Int × Int} (hp : p ∈ framebuffer.area)
    (himage : p ∈ image.area) (hdamaged : ∃ rect ∈ rects, p ∈ rect.toQRect.pixels) :
    (drawRects drawImage image framebuffer rects).pixel p.1 p.2 = image.pixel p.1 p.2 := by
  have hmem := mem_damage_copiedPixels.mpr ⟨hp, himage, hdamaged⟩
  have hp' : p ∈ (drawRects drawImage image framebuffer rects).area := by
    rwa [area_drawRects hdraw image hrects]
  have hpixel := congrFun (picture_drawRects hdraw image hrects framebuffer) p
  rw [overlay_of_mem hmem, picture_of_mem hp', picture_of_mem himage] at hpixel
  exact Option.some.inj hpixel

theorem pixel_drawRects_of_undamaged {p : Int × Int} (hp : p ∈ framebuffer.area)
    (hnot : ¬ (p ∈ image.area ∧ ∃ rect ∈ rects, p ∈ rect.toQRect.pixels)) :
    (drawRects drawImage image framebuffer rects).pixel p.1 p.2 = framebuffer.pixel p.1 p.2 := by
  have hmem : p ∉ damage (rects.map fun rect => copiedPixels framebuffer image rect.toQRect) :=
    fun h => hnot (mem_damage_copiedPixels.mp h).2
  have hp' : p ∈ (drawRects drawImage image framebuffer rects).area := by
    rwa [area_drawRects hdraw image hrects]
  have hpixel := congrFun (picture_drawRects hdraw image hrects framebuffer) p
  rw [overlay_of_notMem hmem, picture_of_mem hp', picture_of_mem hp] at hpixel
  exact Option.some.inj hpixel

theorem same_drawRects_of_mem_iff {rects' : List XrdpRectSpec}
    (hmem : ∀ rect, rect ∈ rects' ↔ rect ∈ rects) :
    (drawRects drawImage image framebuffer rects').Same
      (drawRects drawImage image framebuffer rects) := by
  have hrects' : ∀ rect ∈ rects', rect.Positive := fun rect hrect =>
    hrects rect ((hmem rect).mp hrect)
  obtain ⟨hwidth, hheight⟩ := size_drawRects hdraw image hrects framebuffer
  obtain ⟨hwidth', hheight'⟩ := size_drawRects hdraw image hrects' framebuffer
  refine .of_picture (hwidth'.trans hwidth.symm) (hheight'.trans hheight.symm) ?_
  rw [picture_drawRects hdraw image hrects, picture_drawRects hdraw image hrects']
  apply overlay_congr
  intro region
  simp only [List.mem_map, hmem]

theorem same_drawRects_drawRects :
    (drawRects drawImage image (drawRects drawImage image framebuffer rects) rects).Same
      (drawRects drawImage image framebuffer rects) := by
  obtain ⟨hwidth, hheight⟩ :=
    size_drawRects hdraw image hrects (drawRects drawImage image framebuffer rects)
  have hregions : copiedPixels (drawRects drawImage image framebuffer rects) image =
      copiedPixels framebuffer image := by
    unfold copiedPixels
    rw [area_drawRects hdraw image hrects]
  refine .of_picture hwidth hheight ?_
  rw [picture_drawRects hdraw image hrects, picture_drawRects hdraw image hrects framebuffer,
    hregions, overlay_overlay]

end Loop

/-! ## The slot -/

/-- A change is painted on exactly the pixels of its rectangles, in any order
and as often as one likes, and its latch is counted down once. -/
structure PaintsDamage (drawImage : DrawImage) (window : QtWindow)
    (change : SyncChangeReference) : Prop where
  width : (window.paintRectsSlot drawImage none change).window.framebuffer.width =
    window.framebuffer.width
  height : (window.paintRectsSlot drawImage none change).window.framebuffer.height =
    window.framebuffer.height
  painted : ∀ p ∈ window.framebuffer.area, p ∈ change.newImage.area →
    (∃ rect ∈ change.rects, p ∈ rect.toQRect.pixels) →
    (window.paintRectsSlot drawImage none change).window.framebuffer.pixel p.1 p.2 =
      change.newImage.pixel p.1 p.2
  copied : ∀ x y : Int, (x, y) ∈ window.framebuffer.area → 0 ≤ x → x < change.width → 0 ≤ y →
    y < change.height → (∃ rect ∈ change.rects, (x, y) ∈ rect.toQRect.pixels) →
    (window.paintRectsSlot drawImage none change).window.framebuffer.pixel x y =
      change.data (y * change.width + x).toNat
  kept : ∀ p ∈ window.framebuffer.area,
    ¬ (p ∈ change.newImage.area ∧ ∃ rect ∈ change.rects, p ∈ rect.toQRect.pixels) →
    (window.paintRectsSlot drawImage none change).window.framebuffer.pixel p.1 p.2 =
      window.framebuffer.pixel p.1 p.2
  order : ∀ rects : List XrdpRectSpec, (∀ rect, rect ∈ rects ↔ rect ∈ change.rects) →
    (window.paintRectsSlot drawImage none
        { change with rects := rects }).window.framebuffer.Same
      (window.paintRectsSlot drawImage none change).window.framebuffer
  twice : ((window.paintRectsSlot drawImage none change).window.paintRectsSlot drawImage none
      change).window.framebuffer.Same
    (window.paintRectsSlot drawImage none change).window.framebuffer
  latch : ∀ (thrown : Option Nat) (count : Nat),
    (window.paintRectsSlot drawImage thrown
        { change with releaseLatch := count + 1 }).change =
      { change with releaseLatch := count }

theorem framebuffer_paintRectsSlot (drawImage : DrawImage) (window : QtWindow)
    (change : SyncChangeReference) :
    (window.paintRectsSlot drawImage none change).window.framebuffer =
      drawRects drawImage change.newImage window.framebuffer change.rects := by
  show drawRects drawImage change.newImage window.framebuffer
    (change.rects.take change.rects.length) = _
  rw [List.take_length]

theorem paintRectsSlot_paintsDamage {drawImage : DrawImage} (hdraw : CopiesRect drawImage)
    (window : QtWindow) {change : SyncChangeReference}
    (hrects : ∀ rect ∈ change.rects, rect.Positive) : PaintsDamage drawImage window change := by
  obtain ⟨hwidth, hheight⟩ := size_drawRects hdraw change.newImage hrects window.framebuffer
  constructor
  · rw [framebuffer_paintRectsSlot, hwidth]
  · rw [framebuffer_paintRectsSlot, hheight]
  · intro p hp himage hdamaged
    rw [framebuffer_paintRectsSlot]
    exact pixel_drawRects_of_damaged hdraw change.newImage hrects _ hp himage hdamaged
  · intro x y hp hx hxlt hy hylt hdamaged
    have himage : (x, y) ∈ change.newImage.area := ⟨hx, hxlt, hy, hylt⟩
    rw [framebuffer_paintRectsSlot]
    exact pixel_drawRects_of_damaged hdraw change.newImage hrects _ hp himage hdamaged
  · intro p hp hnot
    rw [framebuffer_paintRectsSlot]
    exact pixel_drawRects_of_undamaged hdraw change.newImage hrects _ hp hnot
  · intro rects hmem
    rw [framebuffer_paintRectsSlot, framebuffer_paintRectsSlot]
    exact same_drawRects_of_mem_iff hdraw change.newImage hrects _ hmem
  · rw [framebuffer_paintRectsSlot, framebuffer_paintRectsSlot]
    exact same_drawRects_drawRects hdraw change.newImage hrects _
  · exact fun thrown count => rfl

/-- Two overlapping rectangles, one of them partly outside of window and
image. -/
theorem paintRectsSlot_paintsDamage_overlapping :
    PaintsDamage copyRect { framebuffer := ⟨4, 3, fun _ _ => 0⟩ }
      { width := 3, height := 5, data := fun i => UInt32.ofNat i,
        rects := [⟨-1, -1, 3, 3⟩, ⟨1, 0, 32767, 2⟩, ⟨-1, -1, 3, 3⟩] } :=
  paintRectsSlot_paintsDamage copiesRect_copyRect _ (by
    intro rect hrect
    simp only [List.mem_cons, List.not_mem_nil, or_false] at hrect
    rcases hrect with rfl | rfl | rfl <;> exact ⟨by decide, by decide⟩)

end XrdpLocal.Qt
