import Mathlib.Data.Rat.Floor
import XrdpLocal.Library.Texture
import XrdpLocal.Qt.Painting
/-!
# OpenGL

`EGLState` draws through OpenGL, which is a parameter of the model.
`OpenGL.Documented` is what its specification says about the calls that
`EGLState` makes, and `exactGL` computes them.

GL counts the rows of the window from the bottom, Qt from the top. Its numbers
are exact here; a `GLfloat` holds any size up to 2^24.
-/

namespace XrdpLocal.Egl

open Texture (Affine Quad texel)
open XrdpLocal.Qt

/-- `glOrtho` in the plane; all vertices have depth 0. -/
structure Ortho where
  left : Rat
  right : Rat
  bottom : Rat
  top : Rat

inductive Filter
  | nearest
  | linear
  deriving DecidableEq

structure GLTexture where
  image : QImage
  minFilter : Filter
  magFilter : Filter

structure GLState where
  viewport : QRect
  projection : Ortho
  texture2D : Bool
  texture : GLTexture

/-- Where a vertex goes in the window, and what a quad makes of the back
buffer. -/
structure OpenGL where
  toWindow : GLState → Rat × Rat → Rat × Rat
  drawQuad : GLState → Quad Rat → QImage → QImage

def middle (buffer : QImage) (p : Int × Int) : Rat × Rat :=
  ((p.1 : Rat) + 1 / 2, ((buffer.height - 1 - p.2 : Int) : Rat) + 1 / 2)

/-- What is specified, for a context that is new otherwise and quads that are
upright rectangles in the window.

* The planes of `glOrtho` go to the edges of the viewport.
* Pixels whose middle lies outside of the quad stay as they are.
* Pixels whose middle lies inside of the quad and of the viewport show the
  nearest texel; affine texture coordinates stay affine in between. -/
structure OpenGL.Documented (gl : OpenGL) : Prop where
  column : ∀ (s : GLState) (p : Rat × Rat), s.projection.left < s.projection.right →
    (gl.toWindow s p).1 = s.viewport.x + s.viewport.width *
      ((p.1 - s.projection.left) / (s.projection.right - s.projection.left))
  row : ∀ (s : GLState) (p : Rat × Rat), s.projection.bottom < s.projection.top →
    (gl.toWindow s p).2 = s.viewport.y + s.viewport.height *
      ((p.2 - s.projection.bottom) / (s.projection.top - s.projection.bottom))
  width : ∀ s q back, (gl.drawQuad s q back).width = back.width
  height : ∀ s q back, (gl.drawQuad s q back).height = back.height
  outside : ∀ s q back x y width height, (q.map (gl.toWindow s)).Rectangle x y width height →
    ∀ p ∈ back.area, middle back p ∉ Set.Icc x (x + width) ×ˢ Set.Icc y (y + height) →
    (gl.drawQuad s q back).pixel p.1 p.2 = back.pixel p.1 p.2
  inside : ∀ s q back x y width height, (q.map (gl.toWindow s)).Rectangle x y width height →
    ∀ f g, (q.map (gl.toWindow s)).Affine f g → s.texture2D = true →
    s.texture.minFilter = .nearest → s.texture.magFilter = .nearest →
    ∀ p ∈ back.area, middle back p ∈ Set.Ioo x (x + width) ×ˢ Set.Ioo y (y + height) →
    middle back p ∈
      Set.Icc (s.viewport.x : Rat) (s.viewport.x + s.viewport.width) ×ˢ
        Set.Icc (s.viewport.y : Rat) (s.viewport.y + s.viewport.height) →
    ∀ t ∈ s.texture.image.area,
    f.eval (middle back p) * (s.texture.image.width : Rat) ∈ Set.Ico (t.1 : Rat) (t.1 + 1) →
    g.eval (middle back p) * (s.texture.image.height : Rat) ∈ Set.Ico (t.2 : Rat) (t.2 + 1) →
    (gl.drawQuad s q back).pixel p.1 p.2 = s.texture.image.pixel t.1 t.2

/-! ## In exact arithmetic -/

def exactWindow (s : GLState) (p : Rat × Rat) : Rat × Rat :=
  (s.viewport.x + s.viewport.width *
      ((p.1 - s.projection.left) / (s.projection.right - s.projection.left)),
    s.viewport.y + s.viewport.height *
      ((p.2 - s.projection.bottom) / (s.projection.top - s.projection.bottom)))

/-- White without a texture. Both filters are taken for nearest. -/
def exactQuad (s : GLState) (q : Quad Rat) (back : QImage) : QImage :=
  { back with
    pixel := fun x y =>
      match (q.map (exactWindow s)).coord (middle back (x, y)) with
      | none => back.pixel x y
      | some (u, v) =>
          if s.texture2D then
            s.texture.image.pixel (texel s.texture.image.width u)
              (texel s.texture.image.height v)
          else 0xFFFFFFFF }

def exactGL : OpenGL where
  toWindow := exactWindow
  drawQuad := exactQuad

theorem documented_exactGL : exactGL.Documented where
  column := fun _ _ _ => rfl
  row := fun _ _ _ => rfl
  width := fun _ _ _ => rfl
  height := fun _ _ _ => rfl
  outside := by
    intro s q back x y width height hq p _ hp
    have hcoord : (q.map (exactWindow s)).coord (middle back p) = none :=
      Quad.coord_of_notMem hq hp
    simp only [exactGL, exactQuad, hcoord]
  inside := by
    intro s q back x y width height hq f g hcoord htexture _ _ p _ hp _ t ht hu hv
    have hclosed : middle back p ∈ Set.Icc x (x + width) ×ˢ Set.Icc y (y + height) :=
      Set.prod_mono Set.Ioo_subset_Icc_self Set.Ioo_subset_Icc_self hp
    have heq := Quad.coord_of_mem hq hcoord hclosed
    simp only [exactGL] at heq
    obtain ⟨hx, hxlt, hy, hylt⟩ := ht
    simp only [exactGL, exactQuad, heq, htexture, if_true,
      Texture.texel_eq hx hxlt hu.1 hu.2, Texture.texel_eq hy hylt hv.1 hv.2]

end XrdpLocal.Egl
