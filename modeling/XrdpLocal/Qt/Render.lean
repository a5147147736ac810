import Mathlib.Tactic.FieldSimp
import Mathlib.Tactic.Linarith
import Mathlib.Tactic.NormNum
import XrdpLocal.Library.CInt
import XrdpLocal.Qt.OpenGL
import XrdpLocal.Qt.State
/-!
# Rendering the shared pixmap

`EGLState::render` draws the texture of the pixmap as a quad over the window,
with the projection that `setup_gl_state` has set.
-/

namespace XrdpLocal.Egl

open Texture (Quad)
open XrdpLocal.Qt

def size (pixmap : DmaBufPixmap) : Int × Int :=
  (CInt.wrap pixmap.width.toNat, CInt.wrap pixmap.height.toNat)

/-- The image that `import_dma_buf_fd` makes of the pixmap, of the size in its
attributes. -/
def pixmapImage (pixmap : DmaBufPixmap) (content : Int → Int → UInt32) : QImage :=
  ⟨(size pixmap).1, (size pixmap).2, content⟩

def importTexture (image : QImage) : GLTexture where
  image := image
  minFilter := .nearest
  magFilter := .nearest

/-- `setup_gl_state`, with a texture bound. -/
def setupGlState (width height : Int) (texture : GLTexture) : GLState where
  viewport := ⟨0, 0, width, height⟩
  projection := ⟨0, width, 0, height⟩
  texture2D := true
  texture := texture

def fullscreenQuad (width height : Int) : Quad Rat where
  v₀ := ⟨(0, 0), (0, 1)⟩
  v₁ := ⟨(width, 0), (1, 1)⟩
  v₂ := ⟨(width, height), (1, 0)⟩
  v₃ := ⟨(0, height), (0, 0)⟩

/-- `render`: the buffer that `eglSwapBuffers` shows. `back` is the buffer drawn
to, of the size of the window; what it holds before is undefined. -/
def render (gl : OpenGL) (pixmap : DmaBufPixmap) (content : Int → Int → UInt32) (back : QImage) :
    QImage :=
  gl.drawQuad
    (setupGlState (size pixmap).1 (size pixmap).2 (importTexture (pixmapImage pixmap content)))
    (fullscreenQuad (size pixmap).1 (size pixmap).2) back

/-! ## Where the quad goes -/

section Middle

theorem middle_lt_iff (i n : Int) : (i : Rat) + 1 / 2 < n ↔ i < n := by
  constructor
  · intro h
    have hlt : (i : Rat) < n := by linarith
    exact_mod_cast hlt
  · intro h
    have hle : (i : Rat) + 1 ≤ n := by exact_mod_cast h
    linarith

theorem middle_le_iff (i n : Int) : (i : Rat) + 1 / 2 ≤ n ↔ i < n := by
  constructor
  · intro h
    have hlt : (i : Rat) < n := by linarith
    exact_mod_cast hlt
  · exact fun h => ((middle_lt_iff i n).mpr h).le

theorem middle_pos {i : Int} (hi : 0 ≤ i) : (0 : Rat) < i + 1 / 2 := by
  have hcast : (0 : Rat) ≤ i := by exact_mod_cast hi
  linarith

variable {buffer : QImage} {p : Int × Int} (hp : p ∈ buffer.area)

include hp

theorem middle_mem_Icc_iff (width height : Int) :
    middle buffer p ∈ Set.Icc (0 : Rat) (0 + width) ×ˢ Set.Icc (0 : Rat) (0 + height) ↔
      p.1 < width ∧ buffer.height - height ≤ p.2 := by
  obtain ⟨hx, _, _, hy⟩ := hp
  have hj : 0 ≤ buffer.height - 1 - p.2 := by omega
  rw [zero_add, zero_add, Set.mem_prod, Set.mem_Icc, Set.mem_Icc]
  simp only [middle, middle_le_iff, (middle_pos hx).le, (middle_pos hj).le, true_and]
  omega

theorem middle_mem_Ioo {width height : Int}
    (hcovered : p.1 < width ∧ buffer.height - height ≤ p.2) :
    middle buffer p ∈ Set.Ioo (0 : Rat) (0 + width) ×ˢ Set.Ioo (0 : Rat) (0 + height) := by
  obtain ⟨hx, _, _, hy⟩ := hp
  have hj : 0 ≤ buffer.height - 1 - p.2 := by omega
  have hjlt : buffer.height - 1 - p.2 < height := by omega
  rw [zero_add, zero_add]
  exact ⟨⟨middle_pos hx, (middle_lt_iff _ _).mpr hcovered.1⟩,
    middle_pos hj, (middle_lt_iff _ _).mpr hjlt⟩

end Middle

section Placement

variable {gl : OpenGL} (hgl : gl.Documented) {width height : Int} (hwidth : 0 < width)
  (hheight : 0 < height)

include hwidth hheight

theorem rectangle_fullscreenQuad : (fullscreenQuad width height).Rectangle 0 0 width height := by
  refine ⟨Int.cast_pos.mpr hwidth, Int.cast_pos.mpr hheight, rfl, ?_, ?_, ?_⟩
  all_goals simp only [fullscreenQuad, zero_add]

/-- The texture is upside down with respect to GL's rows. -/
theorem affine_fullscreenQuad :
    (fullscreenQuad width height).Affine ⟨0, 1 / width, 0⟩ ⟨1, 0, -1 / height⟩ := by
  have hw : (width : Rat) ≠ 0 := Int.cast_ne_zero.mpr hwidth.ne'
  have hh : (height : Rat) ≠ 0 := Int.cast_ne_zero.mpr hheight.ne'
  constructor <;> simp only [fullscreenQuad, Texture.Affine.eval] <;> refine Prod.ext ?_ ?_
  all_goals field_simp
  all_goals ring

include hgl

/-- The projection and the viewport cancel out. -/
theorem toWindow_setupGlState (texture : GLTexture) (p : Rat × Rat) :
    gl.toWindow (setupGlState width height texture) p = p := by
  have hw : (0 : Rat) < width := Int.cast_pos.mpr hwidth
  have hh : (0 : Rat) < height := Int.cast_pos.mpr hheight
  refine Prod.ext ?_ ?_
  · rw [hgl.column (setupGlState width height texture) p hw]
    simp only [setupGlState, Int.cast_zero, zero_add, sub_zero]
    rw [mul_div_cancel₀ _ hw.ne']
  · rw [hgl.row (setupGlState width height texture) p hh]
    simp only [setupGlState, Int.cast_zero, zero_add, sub_zero]
    rw [mul_div_cancel₀ _ hh.ne']

theorem map_fullscreenQuad (texture : GLTexture) :
    (fullscreenQuad width height).map (gl.toWindow (setupGlState width height texture)) =
      fullscreenQuad width height := by
  simp only [Quad.map, toWindow_setupGlState hgl hwidth hheight]

omit hgl hheight

theorem column_mem_Ico (buffer : QImage) (p : Int × Int) :
    Texture.Affine.eval ⟨0, 1 / (width : Rat), 0⟩ (middle buffer p) * (width : Rat) ∈
      Set.Ico (p.1 : Rat) (p.1 + 1) := by
  have hw : (width : Rat) ≠ 0 := Int.cast_ne_zero.mpr hwidth.ne'
  have heq : Texture.Affine.eval ⟨0, 1 / (width : Rat), 0⟩ (middle buffer p) * width =
      p.1 + 1 / 2 := by
    simp only [Texture.Affine.eval, middle]
    field_simp
    ring
  rw [heq]
  constructor <;> linarith

omit hwidth
include hheight

theorem row_mem_Ico (buffer : QImage) (p : Int × Int) :
    Texture.Affine.eval ⟨1, 0, -1 / (height : Rat)⟩ (middle buffer p) * (height : Rat) ∈
      Set.Ico ((p.2 + height - buffer.height : Int) : Rat)
        ((p.2 + height - buffer.height : Int) + 1) := by
  have hh : (height : Rat) ≠ 0 := Int.cast_ne_zero.mpr hheight.ne'
  have heq : Texture.Affine.eval ⟨1, 0, -1 / (height : Rat)⟩ (middle buffer p) * height =
      ((p.2 + height - buffer.height : Int) : Rat) + 1 / 2 := by
    simp only [Texture.Affine.eval, middle]
    push_cast
    field_simp
    ring
  rw [heq]
  constructor <;> linarith

include hgl hwidth

theorem pixel_drawQuad (content : Int → Int → UInt32) {back : QImage} {p : Int × Int}
    (hp : p ∈ back.area) :
    (gl.drawQuad (setupGlState width height (importTexture ⟨width, height, content⟩))
        (fullscreenQuad width height) back).pixel p.1 p.2 =
      if p.1 < width ∧ back.height - height ≤ p.2 then content p.1 (p.2 + height - back.height)
      else back.pixel p.1 p.2 := by
  have hrect := rectangle_fullscreenQuad hwidth hheight
  have haffine := affine_fullscreenQuad hwidth hheight
  rw [← map_fullscreenQuad hgl hwidth hheight (importTexture ⟨width, height, content⟩)]
    at hrect haffine
  by_cases hcovered : p.1 < width ∧ back.height - height ≤ p.2
  · rw [if_pos hcovered]
    have hinside := middle_mem_Ioo hp hcovered
    have hshown := hgl.inside _ _ back 0 0 _ _ hrect _ _ haffine rfl rfl rfl p hp hinside
    simp only [setupGlState, Int.cast_zero] at hshown
    apply hshown _ (p.1, p.2 + height - back.height) _ (column_mem_Ico hwidth back p)
      (row_mem_Ico hheight back p)
    · exact Set.prod_mono Set.Ioo_subset_Icc_self Set.Ioo_subset_Icc_self hinside
    · obtain ⟨hx, _, _, hy⟩ := hp
      have hrow : 0 ≤ p.2 + height - back.height := by omega
      have hrow' : p.2 + height - back.height < height := by omega
      exact ⟨hx, hcovered.1, hrow, hrow'⟩
  · rw [if_neg hcovered]
    apply hgl.outside _ _ back 0 0 _ _ hrect p hp
    rwa [middle_mem_Icc_iff hp]

end Placement

section Pixmap

theorem mem_area_pixmapImage {pixmap : DmaBufPixmap} {content : Int → Int → UInt32} {x y : Int} :
    (x, y) ∈ (pixmapImage pixmap content).area ↔
      0 ≤ x ∧ x < (size pixmap).1 ∧ 0 ≤ y ∧ y < (size pixmap).2 := by
  simp only [QImage.area, pixmapImage, Set.mem_ofPred_eq]

variable {gl : OpenGL} (hgl : gl.Documented) {pixmap : DmaBufPixmap}

include hgl

theorem area_render (content : Int → Int → UInt32) (back : QImage) :
    (render gl pixmap content back).area = back.area :=
  area_congr (hgl.width _ _ _) (hgl.height _ _ _)

theorem pixel_render (hwidth : 0 < (size pixmap).1) (hheight : 0 < (size pixmap).2)
    (content : Int → Int → UInt32) {back : QImage} {p : Int × Int} (hp : p ∈ back.area) :
    (render gl pixmap content back).pixel p.1 p.2 =
      if p.1 < (size pixmap).1 ∧ back.height - (size pixmap).2 ≤ p.2 then
        content p.1 (p.2 + (size pixmap).2 - back.height)
      else back.pixel p.1 p.2 := by
  unfold render pixmapImage
  generalize (size pixmap).1 = width at hwidth ⊢
  generalize (size pixmap).2 = height at hheight ⊢
  exact pixel_drawQuad hgl hwidth hheight content hp

/-- The pixmap stands on the bottom of the window. -/
theorem pixel_render_of_mem {content : Int → Int → UInt32} {back : QImage} {x y : Int}
    (hmem : (x, y) ∈ (pixmapImage pixmap content).area)
    (hp : (x, y + back.height - (size pixmap).2) ∈ back.area) :
    (render gl pixmap content back).pixel x (y + back.height - (size pixmap).2) =
      content x y := by
  obtain ⟨hx, hxlt, hy, hylt⟩ := mem_area_pixmapImage.mp hmem
  have hcovered : x < (size pixmap).1 ∧
      back.height - (size pixmap).2 ≤ y + back.height - (size pixmap).2 := ⟨hxlt, by omega⟩
  have hrow : y + back.height - (size pixmap).2 + (size pixmap).2 - back.height = y := by omega
  rw [pixel_render hgl (lt_of_le_of_lt hx hxlt) (lt_of_le_of_lt hy hylt) content hp,
    if_pos hcovered, hrow]

end Pixmap

/-! ## The window shows the pixmap -/

/-- Every pixel of the pixmap is shown at its own place in a window of this
size, whatever pixmap and buffer hold. -/
def ShowsPixmap (gl : OpenGL) (pixmap : DmaBufPixmap) (width height : Int) : Prop :=
  ∀ (content pixels : Int → Int → UInt32) (x y : Int),
    (x, y) ∈ (pixmapImage pixmap content).area → x < width → y < height →
    (render gl pixmap content ⟨width, height, pixels⟩).pixel x y = content x y

/-- GL places the quad at the bottom of the window, so that it is in place if
and only if the window is as high as the pixmap. Its width does not matter. -/
theorem showsPixmap_iff {gl : OpenGL} (hgl : gl.Documented) {pixmap : DmaBufPixmap}
    (hpixmap : 0 < (size pixmap).1) (hpixmap' : 0 < (size pixmap).2) {width height : Int}
    (hwidth : 0 < width) (hheight : 0 < height) :
    ShowsPixmap gl pixmap width height ↔ height = (size pixmap).2 := by
  constructor
  · intro h
    by_contra hne
    -- a pixmap that numbers its rows, over a buffer that is black
    let rows : Int → Int → UInt32 := fun _ y => if y = 0 then 1 else 0
    have hcorner : (0, 0) ∈ (pixmapImage pixmap rows).area :=
      mem_area_pixmapImage.mpr ⟨le_refl 0, hpixmap, le_refl 0, hpixmap'⟩
    have hback : ((0, 0) : Int × Int) ∈ QImage.area ⟨width, height, fun _ _ => 0⟩ :=
      ⟨le_refl 0, hwidth, le_refl 0, hheight⟩
    have hfirst := h rows (fun _ _ => 0) 0 0 hcorner hwidth hheight
    have hplaced := pixel_render hgl hpixmap hpixmap' rows hback
    rw [hplaced] at hfirst
    have hrow : 0 + (size pixmap).2 - height ≠ 0 := by omega
    split at hfirst
    · simp only [rows, hrow, if_true, if_false] at hfirst
      exact absurd hfirst (by decide)
    · simp only [rows, if_true] at hfirst
      exact absurd hfirst (by decide)
  · intro hsame content pixels x y hp hx hy
    have hmem := mem_area_pixmapImage.mp hp
    have hrow : y + height - (size pixmap).2 = y := by omega
    have hback : (x, y + height - (size pixmap).2) ∈ QImage.area ⟨width, height, pixels⟩ := by
      rw [hrow]
      exact ⟨hmem.1, hx, hmem.2.2.1, hy⟩
    have hplaced := pixel_render_of_mem hgl hp hback
    simp only [hrow] at hplaced
    exact hplaced

/-- A pixmap of four by three pixels in a window of nine by three. -/
theorem showsPixmap_iff_threeRows : ShowsPixmap exactGL ⟨7, 4, 3, 16, 48, 0⟩ 9 3 := by
  have hwidth : 0 < (size ⟨7, 4, 3, 16, 48, 0⟩).1 := by decide
  have hheight : 0 < (size ⟨7, 4, 3, 16, 48, 0⟩).2 := by decide
  exact (showsPixmap_iff documented_exactGL hwidth hheight (by decide) (by decide)).mpr (by decide)

/-! ## Both ways to paint -/

/-- The window, the pixmap, the change and the buffer of the surface are of one
size, as those of a session are. -/
structure OneSize (pixmap : DmaBufPixmap) (window : QtWindow) (change : SyncChangeReference)
    (back : QImage) : Prop where
  windowWidth : window.framebuffer.width = (size pixmap).1
  windowHeight : window.framebuffer.height = (size pixmap).2
  changeWidth : change.width = (size pixmap).1
  changeHeight : change.height = (size pixmap).2
  backWidth : back.width = (size pixmap).1
  backHeight : back.height = (size pixmap).2

/-- Outside of the rectangles of the change, the framebuffer already shows the
image of the change. -/
def UpToDate (window : QtWindow) (change : SyncChangeReference) : Prop :=
  ∀ p ∈ window.framebuffer.area, (∀ rect ∈ change.rects, p ∉ rect.toQRect.pixels) →
    window.framebuffer.pixel p.1 p.2 = change.newImage.pixel p.1 p.2

section Paths

variable {gl : OpenGL} (hgl : gl.Documented)

include hgl

theorem pixel_render_of_oneSize {pixmap : DmaBufPixmap} {window : QtWindow}
    {change : SyncChangeReference} {back : QImage} (hsize : OneSize pixmap window change back)
    (content : Int → Int → UInt32) {p : Int × Int} (hp : p ∈ window.framebuffer.area) :
    (render gl pixmap content back).pixel p.1 p.2 = content p.1 p.2 := by
  have hwidth : window.framebuffer.width = back.width := by rw [hsize.windowWidth, hsize.backWidth]
  have hheight : window.framebuffer.height = back.height := by
    rw [hsize.windowHeight, hsize.backHeight]
  have hback : p ∈ back.area := by rwa [← area_congr hwidth hheight]
  obtain ⟨hx, hxlt, hy, hylt⟩ := hp
  rw [hsize.windowWidth] at hxlt
  rw [hsize.windowHeight] at hylt
  have hmem : (p.1, p.2) ∈ (pixmapImage pixmap content).area :=
    mem_area_pixmapImage.mpr ⟨hx, hxlt, hy, hylt⟩
  have hrow : p.2 + back.height - (size pixmap).2 = p.2 := by
    rw [hsize.backHeight]
    omega
  have hplace : (p.1, p.2 + back.height - (size pixmap).2) ∈ back.area := by
    rw [hrow]
    exact hback
  have hplaced := pixel_render_of_mem hgl hmem hplace
  rwa [hrow] at hplaced

/-- Rendering a pixmap shows what painting the same image shows, if and only if
the rectangles of the change hold all the damage. -/
theorem render_same_paintRectsSlot_iff {drawImage : DrawImage} (hdraw : CopiesRect drawImage)
    {pixmap : DmaBufPixmap} {window : QtWindow} {change : SyncChangeReference} {back : QImage}
    (hsize : OneSize pixmap window change back) (hrects : ∀ rect ∈ change.rects, rect.Positive) :
    (render gl pixmap change.newImage.pixel back).Same
        (window.paintRectsSlot drawImage none change).window.framebuffer ↔
      UpToDate window change := by
  have hpaints := paintRectsSlot_paintsDamage hdraw window hrects
  have himage : window.framebuffer.area = change.newImage.area :=
    area_congr (hsize.windowWidth.trans hsize.changeWidth.symm)
      (hsize.windowHeight.trans hsize.changeHeight.symm)
  have hrender : (render gl pixmap change.newImage.pixel back).area = window.framebuffer.area := by
    rw [area_render hgl]
    exact area_congr (hsize.backWidth.trans hsize.windowWidth.symm)
      (hsize.backHeight.trans hsize.windowHeight.symm)
  constructor
  · intro hsame p hp hundamaged
    have hp' : p ∈ (render gl pixmap change.newImage.pixel back).area := by rwa [hrender]
    have hshown := hsame.pixel p.1 p.2 hp'.1 hp'.2.1 hp'.2.2.1 hp'.2.2.2
    rw [pixel_render_of_oneSize hgl hsize _ hp] at hshown
    rw [hshown]
    apply (hpaints.kept p hp _).symm
    intro ⟨_, rect, hrect, hmem⟩
    exact hundamaged rect hrect hmem
  · intro hdate
    have hwidth : (render gl pixmap change.newImage.pixel back).width =
        window.framebuffer.width := by
      rw [render, hgl.width, hsize.backWidth, hsize.windowWidth]
    have hheight : (render gl pixmap change.newImage.pixel back).height =
        window.framebuffer.height := by
      rw [render, hgl.height, hsize.backHeight, hsize.windowHeight]
    refine ⟨hwidth.trans hpaints.width.symm, hheight.trans hpaints.height.symm, ?_⟩
    intro x y hx hxlt hy hylt
    have hp : (x, y) ∈ window.framebuffer.area := by
      rw [← hrender]
      exact ⟨hx, hxlt, hy, hylt⟩
    have hrendered := pixel_render_of_oneSize hgl hsize change.newImage.pixel hp
    calc (render gl pixmap change.newImage.pixel back).pixel x y
        = change.newImage.pixel x y := hrendered
      _ = (window.paintRectsSlot drawImage none change).window.framebuffer.pixel x y := by
        by_cases hdamaged : ∃ rect ∈ change.rects, (x, y) ∈ rect.toQRect.pixels
        · exact (hpaints.painted (x, y) hp (himage ▸ hp) hdamaged).symm
        · have hkept := hpaints.kept (x, y) hp fun h => hdamaged h.2
          rw [hkept]
          apply (hdate (x, y) hp _).symm
          intro rect hrect hmem
          exact hdamaged ⟨rect, hrect, hmem⟩

end Paths

/-- The lower row of a picture of two rows, whose upper row is plain. -/
def lowerRow : SyncChangeReference where
  width := 2
  height := 2
  data := fun i => if i < 2 then 5 else UInt32.ofNat i
  rects := [⟨0, 1, 2, 1⟩]

def plainWindow : QtWindow where
  framebuffer := ⟨2, 2, fun _ _ => 5⟩

theorem upToDate_lowerRow : UpToDate plainWindow lowerRow := by
  intro p hp hundamaged
  obtain ⟨hx, hxlt, hy, hylt⟩ := hp
  have hx2 : p.1 < 2 := hxlt
  have hy2 : p.2 < 2 := hylt
  have hrow : ¬ (0 ≤ p.1 ∧ p.1 < 2 ∧ 1 ≤ p.2 ∧ p.2 < 2) :=
    hundamaged ⟨0, 1, 2, 1⟩ List.mem_cons_self
  have hindex : (p.2 * 2 + p.1).toNat < 2 := by omega
  show (5 : UInt32) = if (p.2 * 2 + p.1).toNat < 2 then 5 else _
  rw [if_pos hindex]

theorem render_same_paintRectsSlot_iff_lowerRow :
    (render exactGL ⟨7, 2, 2, 8, 16, 0⟩ lowerRow.newImage.pixel ⟨2, 2, fun _ _ => 9⟩).Same
      (plainWindow.paintRectsSlot copyRect none lowerRow).window.framebuffer := by
  have hsize : OneSize ⟨7, 2, 2, 8, 16, 0⟩ plainWindow lowerRow ⟨2, 2, fun _ _ => 9⟩ := by
    constructor <;> decide
  have hrects : ∀ rect ∈ lowerRow.rects, rect.Positive := by
    intro rect hrect
    cases List.mem_singleton.mp hrect
    exact ⟨by decide, by decide⟩
  exact (render_same_paintRectsSlot_iff documented_exactGL copiesRect_copyRect hsize hrects).mpr
    upToDate_lowerRow

end XrdpLocal.Egl
