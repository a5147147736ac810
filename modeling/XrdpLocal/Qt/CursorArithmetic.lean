import XrdpLocal.Library.Loops
import XrdpLocal.Qt.Cursor
/-!
# The `int` arithmetic of a cursor update

The integer expressions of the two callbacks and of `set_cursor`, evaluated as
32-bit `int`s with overflow and undefined shifts as failures. They are defined
for the depths up to 32 and, where the masked branch is taken, for sizes of
less than 2 GiB of output (`wellDefined_iff`), and then agree with the exact
indices (`maskedArithmetic_eq`).
-/

namespace XrdpLocal.Qt

def bytesPerPixelInt (bpp : Int) : Option Int :=
  if bpp = 0 then some 3 else do CInt.div (← CInt.add bpp 7) 8

/-- The indices of one pixel: byte of the mask, position of its bit, word of
the output and first byte of the data. -/
structure PixelIndices where
  mask : Int
  shift : Int
  argb32 : Int
  data : Int
  deriving DecidableEq, Repr

def pixelIndices (width height Bpp x y : Int) : Option PixelIndices := do
  let mask ← CInt.div (← CInt.add (← CInt.mul y width) x) 8
  let shift ← CInt.sub 7 (← CInt.mod x 8)
  let argb32 ← CInt.add (← CInt.mul (← CInt.sub (← CInt.sub height y) 1) width) x
  let data ← CInt.add (← CInt.mul (← CInt.mul y width) Bpp) (← CInt.mul x Bpp)
  some ⟨mask, shift, argb32, data⟩

structure MaskedArithmetic where
  Bpp : Int
  bytes : Int
  shiftCount : Int
  bitMask : UInt32
  indices : List PixelIndices

def maskedArithmetic (width height : Nat) (bpp : Int) : Option MaskedArithmetic := do
  let Bpp ← bytesPerPixelInt bpp
  let bytes ← CInt.mul (← CInt.mul width height) 4
  let shiftCount ← CInt.sub 32 bpp
  let bitMask ← CInt.shiftRight 0xFFFFFFFF shiftCount
  let indices ← (Raster.pixels width height).mapM fun p =>
    pixelIndices width height Bpp p.1 p.2
  some ⟨Bpp, bytes, shiftCount, bitMask, indices⟩

/-- The `Bpp` of the callback, the depth it passes on, and what `set_cursor`
computes from it unless that is 32. -/
structure CursorArithmetic where
  Bpp : Int
  depth : Int
  masked : Option MaskedArithmetic

def CursorCall.arithmetic (call : CursorCall) : Option CursorArithmetic := do
  let Bpp ← bytesPerPixelInt call.bpp
  let depth ← CInt.mul Bpp 8
  if depth = 32 then some ⟨Bpp, depth, none⟩
  else do
    let masked ← maskedArithmetic call.width call.height depth
    some ⟨Bpp, depth, some masked⟩

/-- All of the arithmetic is defined, both roundings of the depth agree, and
the masked branch shifts by less than the width of its word and allocates four
bytes for each pixel. -/
def CursorCall.WellDefined (call : CursorCall) : Prop :=
  ∃ r, call.arithmetic = some r ∧ bytesPerPixelInt r.depth = some r.Bpp ∧
    ∀ masked, r.masked = some masked →
      masked.Bpp = r.Bpp ∧ 0 ≤ masked.shiftCount ∧ masked.shiftCount ≤ 31 ∧
      masked.bytes = 4 * (Raster.pixels call.width call.height).length

def exactIndices (c : MaskedCursor) (x y : Nat) : PixelIndices :=
  ⟨c.maskIndex x y, MaskedCursor.maskShift x, c.argbIndex x y, c.dataIndex x y⟩

theorem bytesPerPixelInt_natCast {bpp : Nat} (h : bpp ≤ 2147483640) :
    bytesPerPixelInt bpp = some (bytesPerPixel bpp : Int) := by
  unfold bytesPerPixelInt bytesPerPixel
  by_cases hzero : bpp = 0
  · simp [hzero]
  · have hadd : CInt.add bpp 7 = some ((bpp + 7 : Nat) : Int) :=
      CInt.add_natCast (b := 7) (by omega)
    have hdiv : CInt.div ((bpp + 7 : Nat) : Int) 8 = some (((bpp + 7) / 8 : Nat) : Int) :=
      CInt.div_natCast (b := 8) (by decide) (by omega)
    rw [if_neg (by omega), if_neg hzero, hadd, Option.bind_eq_bind, Option.bind_some, hdiv]

/-- Indices stay below the size of the output, which stays below `2 ^ 31`. -/
theorem pixelIndices_eq (c : MaskedCursor) {x y : Nat} (hx : x < c.width) (hy : y < c.height)
    (hBpp : c.Bpp ≤ 4) (hsize : c.width * c.height * 4 ≤ 2147483647) :
    pixelIndices c.width c.height c.Bpp x y = some (exactIndices c x y) := by
  have hindex : y * c.width + x < c.width * c.height := Raster.index_lt hx hy
  have hargb : (c.height - y - 1) * c.width + x < c.width * c.height :=
    Raster.index_lt hx (show c.height - y - 1 < c.height by omega)
  have hrows : c.height ≤ c.width * c.height := Nat.le_mul_of_pos_left _ (by omega)
  have hdata : y * c.width * c.Bpp + x * c.Bpp ≤ c.width * c.height * 4 := by
    rw [← Nat.add_mul]
    exact Nat.mul_le_mul hindex.le hBpp
  have hrow : CInt.mul y c.width = some ((y * c.width : Nat) : Int) :=
    CInt.mul_natCast (by omega)
  have hpixel : CInt.add ((y * c.width : Nat) : Int) x = some ((y * c.width + x : Nat) : Int) :=
    CInt.add_natCast (by omega)
  have hmask : CInt.div ((y * c.width + x : Nat) : Int) 8 = some ((c.maskIndex x y : Nat) : Int) :=
    CInt.div_natCast (b := 8) (by decide) (by omega)
  have hmod : CInt.mod x 8 = some ((x % 8 : Nat) : Int) :=
    CInt.mod_natCast (b := 8) (by decide) (by omega)
  have hshift : CInt.sub 7 ((x % 8 : Nat) : Int) = some ((MaskedCursor.maskShift x : Nat) : Int) :=
    CInt.sub_natCast (a := 7) (by omega) (by decide)
  have hbelow : CInt.sub c.height y = some ((c.height - y : Nat) : Int) :=
    CInt.sub_natCast hy.le (by omega)
  have hlast : CInt.sub ((c.height - y : Nat) : Int) 1 = some ((c.height - y - 1 : Nat) : Int) :=
    CInt.sub_natCast (b := 1) (by omega) (by omega)
  have hflip : CInt.mul ((c.height - y - 1 : Nat) : Int) c.width =
      some (((c.height - y - 1) * c.width : Nat) : Int) :=
    CInt.mul_natCast (by omega)
  have hout : CInt.add (((c.height - y - 1) * c.width : Nat) : Int) x =
      some ((c.argbIndex x y : Nat) : Int) :=
    CInt.add_natCast (by omega)
  have hrowBytes : CInt.mul ((y * c.width : Nat) : Int) c.Bpp =
      some ((y * c.width * c.Bpp : Nat) : Int) :=
    CInt.mul_natCast (by omega)
  have hcolumnBytes : CInt.mul x c.Bpp = some ((x * c.Bpp : Nat) : Int) :=
    CInt.mul_natCast (by omega)
  have hload : CInt.add ((y * c.width * c.Bpp : Nat) : Int) ((x * c.Bpp : Nat) : Int) =
      some ((c.dataIndex x y : Nat) : Int) :=
    CInt.add_natCast (by omega)
  simp only [pixelIndices, exactIndices, hrow, hpixel, hmask, hmod, hshift, hbelow, hlast, hflip,
    hout, hrowBytes, hcolumnBytes, hload, Option.bind_eq_bind, Option.bind_some]

theorem bytesPerPixelInt_eq_some_iff {bpp : Nat} {Bpp : Int} :
    bytesPerPixelInt bpp = some Bpp ↔ bpp ≤ 2147483640 ∧ Bpp = bytesPerPixel bpp := by
  by_cases h : bpp ≤ 2147483640
  · rw [bytesPerPixelInt_natCast h, Option.some.injEq, eq_comm]
    exact (and_iff_right h).symm
  · have hadd : CInt.add bpp 7 = none := by
      rw [CInt.add, CInt.check, if_neg fun hrange => h (by have := hrange.2; omega)]
    rw [bytesPerPixelInt, if_neg (by omega), hadd, Option.bind_eq_bind, Option.bind_none]
    simp [h]

def exactMasked (c : MaskedCursor) (depth : Nat) : MaskedArithmetic where
  Bpp := c.Bpp
  bytes := (c.width * c.height * 4 : Nat)
  shiftCount := (32 - depth : Nat)
  bitMask := 0xFFFFFFFF >>> UInt32.ofNat (32 - depth)
  indices := (Raster.pixels c.width c.height).map fun p => exactIndices c p.1 p.2

theorem maskedArithmetic_eq (c : MaskedCursor) {depth : Nat} (hlow : 0 < depth)
    (hhigh : depth ≤ 24) (hBpp : bytesPerPixel depth = c.Bpp)
    (hsize : c.width * c.height * 4 ≤ 2147483647) :
    maskedArithmetic c.width c.height depth = some (exactMasked c depth) := by
  have hBpp_le : c.Bpp ≤ 4 := by
    rw [← hBpp, bytesPerPixel, if_neg (by omega)]
    omega
  have hrounded : bytesPerPixelInt depth = some (c.Bpp : Int) := by
    rw [bytesPerPixelInt_natCast (by omega), hBpp]
  have hpixels : CInt.mul c.width c.height = some ((c.width * c.height : Nat) : Int) :=
    CInt.mul_natCast (by omega)
  have hbytes : CInt.mul ((c.width * c.height : Nat) : Int) 4 =
      some ((c.width * c.height * 4 : Nat) : Int) :=
    CInt.mul_natCast (b := 4) hsize
  have hcount : CInt.sub 32 depth = some ((32 - depth : Nat) : Int) :=
    CInt.sub_natCast (a := 32) (by omega) (by decide)
  have hbitMask := CInt.shiftRight_natCast 0xFFFFFFFF (show 32 - depth < 32 by omega)
  have hindices : ((Raster.pixels c.width c.height).mapM fun p =>
      pixelIndices c.width c.height c.Bpp p.1 p.2) =
        some ((Raster.pixels c.width c.height).map fun p => exactIndices c p.1 p.2) := by
    refine Loops.mapM_eq_map fun p hp => ?_
    obtain ⟨hx, hy⟩ := Raster.mem_pixels.mp hp
    exact pixelIndices_eq c hx hy hBpp_le hsize
  rw [maskedArithmetic, hrounded, hpixels]
  simp only [Option.bind_eq_bind, Option.bind_some, hbytes, hcount, hbitMask, hindices]
  rfl

/-- What the masked branch needs: an output of less than 2 GiB and at most 32
bits. -/
theorem of_maskedArithmetic_eq_some {width height : Nat} {depth : Int} {r : MaskedArithmetic}
    (h : maskedArithmetic width height depth = some r) :
    width * height * 4 ≤ 2147483647 ∧ depth ≤ 32 := by
  simp only [maskedArithmetic, Option.bind_eq_bind, Option.bind_eq_some_iff] at h
  obtain ⟨Bpp, -, pixels, hpixels, bytes, hbytes, count, hcount, bitMask, hshift, -⟩ := h
  constructor
  · obtain ⟨-, rfl⟩ := CInt.check_eq_some_iff.mp hpixels
    have hhigh := (CInt.check_eq_some_iff.mp hbytes).1.2
    exact_mod_cast hhigh
  · obtain ⟨-, rfl⟩ := CInt.check_eq_some_iff.mp hcount
    have hnonneg := (CInt.shiftRight_isSome.mp (Option.isSome_of_mem hshift)).1
    omega

theorem bounds_of_wellDefined {call : CursorCall} (h : call.WellDefined) :
    call.bpp ≤ 32 ∧ (call.bpp ≤ 24 → call.width * call.height * 4 ≤ 2147483647) := by
  obtain ⟨r, hrun, -⟩ := h
  simp only [CursorCall.arithmetic, Option.bind_eq_bind, Option.bind_eq_some_iff] at hrun
  obtain ⟨Bpp, hBpp, depth, hdepth, hbranch⟩ := hrun
  obtain ⟨-, rfl⟩ := bytesPerPixelInt_eq_some_iff.mp hBpp
  obtain ⟨-, rfl⟩ := CInt.check_eq_some_iff.mp hdepth
  by_cases hfull : bytesPerPixel call.bpp = 4
  · unfold bytesPerPixel at hfull
    split at hfull <;> omega
  · rw [if_neg (by omega), Option.bind_eq_some_iff] at hbranch
    obtain ⟨masked, hmasked, -⟩ := hbranch
    obtain ⟨hsize, hle⟩ := of_maskedArithmetic_eq_some hmasked
    refine ⟨?_, fun _ => hsize⟩
    unfold bytesPerPixel at hle
    split at hle <;> omega

theorem wellDefined_of_fullColor {call : CursorCall} (hlow : 24 < call.bpp)
    (hhigh : call.bpp ≤ 32) : call.WellDefined := by
  have hBpp : bytesPerPixel call.bpp = 4 := by
    rw [bytesPerPixel, if_neg (by omega)]
    omega
  refine ⟨⟨4, 32, none⟩, ?_, rfl, fun masked h => nomatch h⟩
  rw [CursorCall.arithmetic, bytesPerPixelInt_natCast (by omega), hBpp]
  rfl

theorem wellDefined_of_masked {call : CursorCall} (hbpp : call.bpp ≤ 24)
    (hsize : call.width * call.height * 4 ≤ 2147483647) : call.WellDefined := by
  obtain ⟨Bpp, hBpp⟩ : ∃ Bpp, bytesPerPixel call.bpp = Bpp := ⟨_, rfl⟩
  have hrange : 1 ≤ Bpp ∧ Bpp ≤ 3 := by
    rw [← hBpp, bytesPerPixel]
    split <;> omega
  have hrounded : bytesPerPixelInt call.bpp = some (Bpp : Int) := by
    rw [bytesPerPixelInt_natCast (by omega), hBpp]
  have hagain : bytesPerPixel (Bpp * 8) = Bpp := by
    rw [← hBpp, bytesPerPixel_mul_eight]
  have hdepth : CInt.mul Bpp 8 = some ((Bpp * 8 : Nat) : Int) :=
    CInt.mul_natCast (b := 8) (by omega)
  let c : MaskedCursor := ⟨fun _ => 0, fun _ => 0, call.width, call.height, Bpp, 0⟩
  have hmasked : maskedArithmetic call.width call.height (Bpp * 8 : Nat) =
      some (exactMasked c (Bpp * 8)) :=
    maskedArithmetic_eq c (by omega) (by omega) hagain hsize
  refine ⟨⟨Bpp, (Bpp * 8 : Nat), some (exactMasked c (Bpp * 8))⟩, ?_, ?_, ?_⟩
  · rw [CursorCall.arithmetic, hrounded, Option.bind_eq_bind, Option.bind_some, hdepth,
      Option.bind_eq_bind, Option.bind_some, if_neg (by omega), hmasked]
    rfl
  · rw [bytesPerPixelInt_natCast (by omega), hagain]
  · rintro masked ⟨⟩
    refine ⟨rfl, Int.natCast_nonneg _, ?_, ?_⟩
    · show ((32 - Bpp * 8 : Nat) : Int) ≤ 31
      omega
    · show ((call.width * call.height * 4 : Nat) : Int) = _
      rw [Raster.length_pixels, Nat.mul_comm]
      push_cast
      rfl

/-- Depths above 32 bits shift by a negative count, and large cursors of up to
24 bits overflow the size of the output. -/
theorem wellDefined_iff (call : CursorCall) :
    call.WellDefined ↔
      call.bpp ≤ 32 ∧ (call.bpp ≤ 24 → call.width * call.height * 4 ≤ 2147483647) := by
  refine ⟨bounds_of_wellDefined, fun ⟨hbpp, hsize⟩ => ?_⟩
  by_cases hfull : 24 < call.bpp
  · exact wellDefined_of_fullColor hfull hbpp
  · exact wellDefined_of_masked (by omega) (hsize (by omega))

/-- One 40-bit pixel: the shift count is -8. -/
theorem not_always_wellDefined :
    ¬ ∀ call : CursorCall, call.bpp < 65536 → call.width < 65536 → call.height < 65536 →
      call.WellDefined := by
  intro hall
  have hdefined := hall (.setPointerLarge 40 1 1) (by decide) (by decide) (by decide)
  exact absurd (bounds_of_wellDefined hdefined).1 (by decide)

end XrdpLocal.Qt
