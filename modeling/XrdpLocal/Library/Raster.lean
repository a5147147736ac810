import Mathlib.Data.List.Nodup
import Mathlib.Logic.Function.Basic
/-!
# Rasters in row-major order

Two nested loops over rows and columns are one loop over the pixels of a
raster. The module numbers pixels in row-major order and says what a loop that
writes one cell for each pixel leaves behind.
-/

namespace Raster

def pixels (width height : Nat) : List (Nat × Nat) :=
  (List.range height).flatMap fun y => (List.range width).map fun x => (x, y)

def index (width x y : Nat) : Nat := y * width + x

@[simp] theorem mem_pixels {width height : Nat} {p : Nat × Nat} :
    p ∈ pixels width height ↔ p.1 < width ∧ p.2 < height := by
  obtain ⟨x, y⟩ := p
  simp only [pixels, List.mem_flatMap, List.mem_map, List.mem_range, Prod.mk.injEq]
  constructor
  · rintro ⟨y', hy, x', hx, rfl, rfl⟩
    exact ⟨hx, hy⟩
  · exact fun ⟨hx, hy⟩ => ⟨y, hy, x, hx, rfl, rfl⟩

theorem foldl_pixels {σ : Type*} (f : σ → Nat → Nat → σ) (width height : Nat) (s : σ) :
    (List.range height).foldl (fun s y => (List.range width).foldl (fun s x => f s x y) s) s =
      (pixels width height).foldl (fun s p => f s p.1 p.2) s := by
  simp only [pixels, List.foldl_flatMap, List.foldl_map]

theorem nodup_pixels (width height : Nat) : (pixels width height).Nodup := by
  rw [pixels, List.nodup_flatMap]
  constructor
  · intro y _
    exact List.nodup_range.map fun x x' h => congrArg Prod.fst h
  · refine List.nodup_range.imp fun {y y'} hne p hmem hmem' => ?_
    simp only [List.mem_map] at hmem hmem'
    obtain ⟨_, _, rfl⟩ := hmem
    obtain ⟨_, _, heq⟩ := hmem'
    exact hne (congrArg Prod.snd heq).symm

theorem length_pixels (width height : Nat) : (pixels width height).length = width * height := by
  simp [pixels, List.length_flatMap, Nat.mul_comm]

theorem index_lt {width height x y : Nat} (hx : x < width) (hy : y < height) :
    index width x y < width * height := by
  have hrow : (y + 1) * width ≤ height * width := Nat.mul_le_mul_right width hy
  rw [Nat.succ_mul] at hrow
  rw [index, Nat.mul_comm width]
  omega

theorem index_mod {width x : Nat} (hx : x < width) (y : Nat) : index width x y % width = x := by
  rw [index, Nat.mul_comm, Nat.mul_add_mod, Nat.mod_eq_of_lt hx]

theorem index_div {width x : Nat} (hx : x < width) (y : Nat) : index width x y / width = y := by
  rw [index, Nat.mul_comm, Nat.mul_add_div (by omega), Nat.div_eq_of_lt hx, Nat.add_zero]

theorem index_inj {width x y x' y' : Nat} (hx : x < width) (hx' : x' < width)
    (h : index width x y = index width x' y') : x = x' ∧ y = y' := by
  constructor
  · rw [← index_mod hx y, h, index_mod hx' y']
  · rw [← index_div hx y, h, index_div hx' y']

/-- Every number below `width * height` belongs to one pixel. -/
theorem existsUnique_index {width height i : Nat} (hi : i < width * height) :
    ∃! p : Nat × Nat, p.1 < width ∧ p.2 < height ∧ index width p.1 p.2 = i := by
  have hwidth : 0 < width := Nat.pos_of_mul_pos_right (Nat.zero_lt_of_lt hi)
  have hmod := Nat.mod_lt i hwidth
  refine ⟨(i % width, i / width), ⟨hmod, Nat.div_lt_of_lt_mul hi, ?_⟩, ?_⟩
  · rw [index, Nat.mul_comm, Nat.div_add_mod]
  · rintro ⟨x, y⟩ ⟨hx, _, rfl⟩
    rw [index_mod hx y, index_div hx y]

/-! ## Loops that write one cell for each pixel -/

section Scatter

variable {α β : Type*}

/-- A loop whose iteration for `a` writes `value a`, if it has one, to the
cell `target a`. -/
def scatter (target : α → Nat) (value : α → Option β) (l : List α) (cells : Nat → β) :
    Nat → β :=
  l.foldl (fun cells a =>
    match value a with
    | none => cells
    | some v => Function.update cells (target a) v) cells

theorem scatter_cons (target : α → Nat) (value : α → Option β) (a : α) (l : List α)
    (cells : Nat → β) :
    scatter target value (a :: l) cells = scatter target value l
      (match value a with
        | none => cells
        | some v => Function.update cells (target a) v) := rfl

theorem scatter_of_forall_ne {target : α → Nat} (value : α → Option β) {l : List α} {i : Nat}
    (hne : ∀ a ∈ l, target a ≠ i) (cells : Nat → β) :
    scatter target value l cells i = cells i := by
  induction l generalizing cells with
  | nil => rfl
  | cons a l ih =>
      rw [scatter_cons, ih fun b hb => hne b (List.mem_cons_of_mem a hb)]
      cases value a with
      | none => rfl
      | some v => exact Function.update_of_ne (hne a List.mem_cons_self).symm v cells

/-- Where no two iterations write to one cell, each finds its own value
there. -/
theorem scatter_apply {target : α → Nat} (value : α → Option β) {l : List α}
    (hl : l.Pairwise fun a b => target a ≠ target b) {a : α} (ha : a ∈ l) (cells : Nat → β) :
    scatter target value l cells (target a) = (value a).getD (cells (target a)) := by
  induction l generalizing cells with
  | nil => cases ha
  | cons b l ih =>
      obtain ⟨hb, hl'⟩ := List.pairwise_cons.mp hl
      rw [scatter_cons]
      rcases List.mem_cons.mp ha with rfl | hmem
      · rw [scatter_of_forall_ne value fun c hc => (hb c hc).symm]
        cases value a with
        | none => rfl
        | some v => exact Function.update_self (target a) v cells
      · rw [ih hl' hmem]
        cases value b with
        | none => rfl
        | some v => exact congrArg _ (Function.update_of_ne (hb a hmem).symm v cells)

end Scatter

end Raster
