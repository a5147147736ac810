import Mathlib.Algebra.Order.Field.Basic
import Mathlib.Algebra.Order.Floor.Ring
import Mathlib.Order.Interval.Set.Defs
import Mathlib.Tactic.FieldSimp
import Mathlib.Tactic.Linarith
import Mathlib.Tactic.Positivity
import Mathlib.Tactic.Ring
/-!
# Textured quads

Rasterisation in exact arithmetic. A quad is split into two triangles, the
texture coordinates of a point come from its barycentric weights, and a point
takes the texel that its coordinates lie in. `K` is the type of numbers.

Where the texture coordinates of the corners are affine functions of their
positions, interpolation gives these functions everywhere
(`interpolate_of_affine`), so the two triangles of a quad fit together.
-/

namespace Texture

structure Vertex (K : Type*) where
  position : K × K
  coord : K × K

structure Affine (K : Type*) where
  const : K
  x : K
  y : K

section Field

variable {K : Type*} [Field K]

def Affine.eval (f : Affine K) (p : K × K) : K := f.const + f.x * p.1 + f.y * p.2

/-- Twice the signed area of a triangle. -/
def doubleArea (a b c : K × K) : K :=
  (b.1 - a.1) * (c.2 - a.2) - (c.1 - a.1) * (b.2 - a.2)

def weights (a b c p : K × K) : K × K × K :=
  (doubleArea p b c / doubleArea a b c, doubleArea a p c / doubleArea a b c,
    doubleArea a b p / doubleArea a b c)

def combine (w : K × K × K) (u v z : K) : K := w.1 * u + w.2.1 * v + w.2.2 * z

def interpolate (a b c : Vertex K) (p : K × K) : K × K :=
  let w := weights a.position b.position c.position p
  (combine w a.coord.1 b.coord.1 c.coord.1, combine w a.coord.2 b.coord.2 c.coord.2)

theorem combine_affine (f : Affine K) {a b c : K × K} (hdet : doubleArea a b c ≠ 0) (p : K × K) :
    combine (weights a b c p) (f.eval a) (f.eval b) (f.eval c) = f.eval p := by
  simp only [combine, weights, Affine.eval]
  have hsum : doubleArea p b c * (f.const + f.x * a.1 + f.y * a.2) +
      doubleArea a p c * (f.const + f.x * b.1 + f.y * b.2) +
      doubleArea a b p * (f.const + f.x * c.1 + f.y * c.2) =
      (f.const + f.x * p.1 + f.y * p.2) * doubleArea a b c := by
    simp only [doubleArea]
    ring
  rw [div_mul_eq_mul_div, div_mul_eq_mul_div, div_mul_eq_mul_div, ← add_div, ← add_div, hsum,
    mul_div_cancel_right₀ _ hdet]

theorem interpolate_of_affine {f g : Affine K} {a b c : Vertex K}
    (hdet : doubleArea a.position b.position c.position ≠ 0)
    (ha : a.coord = (f.eval a.position, g.eval a.position))
    (hb : b.coord = (f.eval b.position, g.eval b.position))
    (hc : c.coord = (f.eval c.position, g.eval c.position)) (p : K × K) :
    interpolate a b c p = (f.eval p, g.eval p) := by
  rw [interpolate, ha, hb, hc]
  simp only [combine_affine _ hdet]

/-! An upright rectangle with its lower left corner at `(x, y)`. -/

theorem doubleArea_lower (x y width height : K) :
    doubleArea (x, y) (x + width, y) (x + width, y + height) = width * height := by
  simp only [doubleArea]
  ring

theorem doubleArea_upper (x y width height : K) :
    doubleArea (x, y) (x + width, y + height) (x, y + height) = width * height := by
  simp only [doubleArea]
  ring

theorem weights_lower {width height : K} (hwidth : width ≠ 0) (hheight : height ≠ 0) (x y : K)
    (p : K × K) :
    weights (x, y) (x + width, y) (x + width, y + height) p =
      (1 - (p.1 - x) / width, (p.1 - x) / width - (p.2 - y) / height, (p.2 - y) / height) := by
  rw [weights, doubleArea_lower]
  simp only [doubleArea]
  refine Prod.ext ?_ (Prod.ext ?_ ?_)
  · field_simp
    ring
  · field_simp
    ring
  · field_simp
    ring

theorem weights_upper {width height : K} (hwidth : width ≠ 0) (hheight : height ≠ 0) (x y : K)
    (p : K × K) :
    weights (x, y) (x + width, y + height) (x, y + height) p =
      (1 - (p.2 - y) / height, (p.1 - x) / width, (p.2 - y) / height - (p.1 - x) / width) := by
  rw [weights, doubleArea_upper]
  simp only [doubleArea]
  refine Prod.ext ?_ (Prod.ext ?_ ?_)
  · field_simp
    ring
  · field_simp
    ring
  · field_simp
    ring

end Field

section Order

variable {K : Type*} [Field K] [LinearOrder K]

def Inside (a b c p : K × K) : Prop :=
  0 ≤ (weights a b c p).1 ∧ 0 ≤ (weights a b c p).2.1 ∧ 0 ≤ (weights a b c p).2.2

instance (a b c p : K × K) : Decidable (Inside a b c p) := inferInstanceAs (Decidable (_ ∧ _))

structure Quad (K : Type*) where
  v₀ : Vertex K
  v₁ : Vertex K
  v₂ : Vertex K
  v₃ : Vertex K

/-- The texture coordinates of a point, if the quad covers it. -/
def Quad.coord (q : Quad K) (p : K × K) : Option (K × K) :=
  if Inside q.v₀.position q.v₁.position q.v₂.position p then some (interpolate q.v₀ q.v₁ q.v₂ p)
  else if Inside q.v₀.position q.v₂.position q.v₃.position p then
    some (interpolate q.v₀ q.v₂ q.v₃ p)
  else none

def Quad.map (f : K × K → K × K) (q : Quad K) : Quad K where
  v₀ := ⟨f q.v₀.position, q.v₀.coord⟩
  v₁ := ⟨f q.v₁.position, q.v₁.coord⟩
  v₂ := ⟨f q.v₂.position, q.v₂.coord⟩
  v₃ := ⟨f q.v₃.position, q.v₃.coord⟩

/-- An upright rectangle, from its lower left corner `(x, y)` around. -/
structure Quad.Rectangle (q : Quad K) (x y width height : K) : Prop where
  width_pos : 0 < width
  height_pos : 0 < height
  v₀ : q.v₀.position = (x, y)
  v₁ : q.v₁.position = (x + width, y)
  v₂ : q.v₂.position = (x + width, y + height)
  v₃ : q.v₃.position = (x, y + height)

structure Quad.Affine (q : Quad K) (f g : Texture.Affine K) : Prop where
  v₀ : q.v₀.coord = (f.eval q.v₀.position, g.eval q.v₀.position)
  v₁ : q.v₁.coord = (f.eval q.v₁.position, g.eval q.v₁.position)
  v₂ : q.v₂.coord = (f.eval q.v₂.position, g.eval q.v₂.position)
  v₃ : q.v₃.coord = (f.eval q.v₃.position, g.eval q.v₃.position)

end Order

section Rectangle

variable {K : Type*} [Field K] [LinearOrder K] [IsStrictOrderedRing K]

/-- The two triangles of a rectangle cover it, and nothing else. -/
theorem inside_or_inside_iff {width height : K} (hwidth : 0 < width) (hheight : 0 < height)
    (x y : K) (p : K × K) :
    Inside (x, y) (x + width, y) (x + width, y + height) p ∨
        Inside (x, y) (x + width, y + height) (x, y + height) p ↔
      p ∈ Set.Icc x (x + width) ×ˢ Set.Icc y (y + height) := by
  have hx : 0 ≤ (p.1 - x) / width ↔ x ≤ p.1 := by
    rw [le_div_iff₀ hwidth, zero_mul, sub_nonneg]
  have hy : 0 ≤ (p.2 - y) / height ↔ y ≤ p.2 := by
    rw [le_div_iff₀ hheight, zero_mul, sub_nonneg]
  have hx' : 0 ≤ 1 - (p.1 - x) / width ↔ p.1 ≤ x + width := by
    rw [sub_nonneg, div_le_one hwidth, sub_le_iff_le_add']
  have hy' : 0 ≤ 1 - (p.2 - y) / height ↔ p.2 ≤ y + height := by
    rw [sub_nonneg, div_le_one hheight, sub_le_iff_le_add']
  rw [Inside, Inside, weights_lower hwidth.ne' hheight.ne', weights_upper hwidth.ne' hheight.ne',
    Set.mem_prod, Set.mem_Icc, Set.mem_Icc, ← hx, ← hy, ← hx', ← hy']
  constructor
  · rintro (⟨h1, h2, h3⟩ | ⟨h1, h2, h3⟩)
    · refine ⟨⟨?_, h1⟩, h3, ?_⟩ <;> linarith
    · refine ⟨⟨h2, ?_⟩, ?_, h1⟩ <;> linarith
  · rintro ⟨⟨h1, h2⟩, h3, h4⟩
    rcases le_total ((p.2 - y) / height) ((p.1 - x) / width) with hle | hle
    · exact .inl ⟨h2, sub_nonneg.mpr hle, h3⟩
    · exact .inr ⟨h4, h1, sub_nonneg.mpr hle⟩

section Coord

variable {q : Quad K} {x y width height : K} (hq : q.Rectangle x y width height) {p : K × K}

include hq

theorem Quad.coord_of_notMem (hp : p ∉ Set.Icc x (x + width) ×ˢ Set.Icc y (y + height)) :
    q.coord p = none := by
  rw [← inside_or_inside_iff hq.width_pos hq.height_pos, not_or] at hp
  rw [Quad.coord, hq.v₀, hq.v₁, hq.v₂, hq.v₃, if_neg hp.1, if_neg hp.2]

theorem Quad.coord_of_mem {f g : Texture.Affine K} (hcoord : q.Affine f g)
    (hp : p ∈ Set.Icc x (x + width) ×ˢ Set.Icc y (y + height)) :
    q.coord p = some (f.eval p, g.eval p) := by
  have harea : width * height ≠ 0 := mul_ne_zero hq.width_pos.ne' hq.height_pos.ne'
  have hlower : interpolate q.v₀ q.v₁ q.v₂ p = (f.eval p, g.eval p) := by
    apply interpolate_of_affine _ hcoord.v₀ hcoord.v₁ hcoord.v₂
    rw [hq.v₀, hq.v₁, hq.v₂, doubleArea_lower]
    exact harea
  have hupper : interpolate q.v₀ q.v₂ q.v₃ p = (f.eval p, g.eval p) := by
    apply interpolate_of_affine _ hcoord.v₀ hcoord.v₂ hcoord.v₃
    rw [hq.v₀, hq.v₂, hq.v₃, doubleArea_upper]
    exact harea
  rw [← inside_or_inside_iff hq.width_pos hq.height_pos] at hp
  rw [Quad.coord, hlower, hupper, hq.v₀, hq.v₁, hq.v₂, hq.v₃]
  by_cases h : Inside (x, y) (x + width, y) (x + width, y + height) p
  · rw [if_pos h]
  · rw [if_neg h, if_pos (hp.resolve_left h)]

end Coord

end Rectangle

section Sampling

variable {K : Type*} [Field K] [LinearOrder K] [FloorRing K]

/-- The column or row that a coordinate lies in, in a texture that repeats. -/
def texel (size : Int) (u : K) : Int := ⌊u * size⌋ % size

/-- Inside of the texture nothing repeats. -/
theorem texel_eq {size i : Int} (hi : 0 ≤ i) (hlt : i < size) {u : K} (hu : (i : K) ≤ u * size)
    (hu' : u * size < i + 1) : texel size u = i := by
  have hfloor : ⌊u * size⌋ = i := Int.floor_eq_iff.mpr ⟨hu, hu'⟩
  rw [texel, hfloor, Int.emod_eq_of_lt hi hlt]

end Sampling

end Texture
