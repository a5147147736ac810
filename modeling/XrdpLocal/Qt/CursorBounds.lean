import XrdpLocal.Qt.Cursor
/-!
# The buffers of a cursor update

Every access of the masked branch compared with the sizes of data, mask and
output. The indices of mask and output stay inside; the 32-bit load for the
last pixels does not, unless the mask skips them (`accessesInside_iff`).
-/

namespace XrdpLocal.Qt

open MaskedCursor

/-- The access lies inside buffers of these sizes, in bytes for data and mask
and in words for the output. -/
def CursorAccess.InBounds (dataSize maskSize argb32Size : Nat) : CursorAccess → Prop
  | .mask i => i < maskSize
  | .data i => i + 4 ≤ dataSize
  | .argb32 i => i < argb32Size

/-- The call makes accesses only inside `width * height` pixels of data, as
many bits of mask in whole bytes, and as many words of output. -/
def AccessesInside (call : CursorCall) (data mask : Nat → UInt8) : Prop :=
  ∀ x y : Int, ∃ update, call.run x y data mask = some update ∧
    ∀ access ∈ update.accesses,
      access.InBounds (call.width * call.height * bytesPerPixel call.bpp)
        ((call.width * call.height + 7) / 8) (call.width * call.height)

def CursorCall.masked (call : CursorCall) (data mask : Nat → UInt8) : MaskedCursor :=
  ⟨data, mask, call.width, call.height, bytesPerPixel call.bpp,
    0xFFFFFFFF >>> UInt32.ofNat (32 - bytesPerPixel call.bpp * 8)⟩

/-- A pixel whose four bytes reach past the end of the data is masked out. -/
def OverrunMasked (call : CursorCall) (data mask : Nat → UInt8) : Prop :=
  ∀ x < call.width, ∀ y < call.height,
    (call.width * call.height - (y * call.width + x)) * bytesPerPixel call.bpp < 4 →
    (call.masked data mask).maskedOut x y = true

theorem run_masked {call : CursorCall} (hlow : 1 ≤ bytesPerPixel call.bpp)
    (hhigh : bytesPerPixel call.bpp ≤ 3) (x y : Int) (data mask : Nat → UInt8) :
    ∃ cursor, call.run x y data mask = some ⟨cursor, (call.masked data mask).convert.accesses⟩ := by
  have hdepth : bytesPerPixel call.bpp * 8 ≠ 32 := by omega
  have hcount : (32 - (bytesPerPixel call.bpp * 8 : Nat) : Int) =
      (32 - bytesPerPixel call.bpp * 8 : Nat) := by omega
  have hshift : CInt.shiftRight 0xFFFFFFFF (32 - (bytesPerPixel call.bpp * 8 : Nat)) =
      some (0xFFFFFFFF >>> UInt32.ofNat (32 - bytesPerPixel call.bpp * 8)) := by
    rw [hcount, CInt.shiftRight_natCast _ (by omega)]
  refine ⟨⟨QImage.ofData (call.masked data mask).convert.argb32 call.width call.height, x, y⟩, ?_⟩
  rw [CursorCall.run_eq, setCursor, if_neg hdepth, hshift, bytesPerPixel_mul_eight]
  rfl

theorem inBounds_accessesAt_iff (c : MaskedCursor) {x y : Nat} (hx : x < c.width)
    (hy : y < c.height) :
    (∀ access ∈ c.accessesAt x y, access.InBounds (c.width * c.height * c.Bpp)
        ((c.width * c.height + 7) / 8) (c.width * c.height)) ↔
      ((c.width * c.height - (y * c.width + x)) * c.Bpp < 4 → c.maskedOut x y = true) := by
  have hindex : y * c.width + x < c.width * c.height := Raster.index_lt hx hy
  have hmask : c.maskIndex x y < (c.width * c.height + 7) / 8 := by
    unfold maskIndex
    omega
  have hargb : c.argbIndex x y < c.width * c.height :=
    Raster.index_lt hx (show c.height - y - 1 < c.height by omega)
  have hload : c.dataIndex x y + 4 ≤ c.width * c.height * c.Bpp ↔
      4 ≤ (c.width * c.height - (y * c.width + x)) * c.Bpp := by
    have hle : (y * c.width + x) * c.Bpp ≤ c.width * c.height * c.Bpp :=
      Nat.mul_le_mul_right _ hindex.le
    rw [dataIndex, ← Nat.add_mul, Nat.sub_mul]
    omega
  unfold accessesAt
  cases hout : c.maskedOut x y with
  | true => simp [CursorAccess.InBounds, hmask]
  | false => simp [CursorAccess.InBounds, hmask, hargb, hload]

/-- Between one and three bytes a pixel, the accesses stay inside exactly when
the mask skips every pixel whose load does not. -/
theorem accessesInside_iff {call : CursorCall} (hlow : 1 ≤ bytesPerPixel call.bpp)
    (hhigh : bytesPerPixel call.bpp ≤ 3) (data mask : Nat → UInt8) :
    AccessesInside call data mask ↔ OverrunMasked call data mask := by
  have hpixel := fun x y hx hy =>
    inBounds_accessesAt_iff (call.masked data mask) (x := x) (y := y) hx hy
  constructor
  · intro hinside x hx y hy
    obtain ⟨cursor, hrun⟩ := run_masked hlow hhigh 0 0 data mask
    obtain ⟨update, hupdate, haccesses⟩ := hinside 0 0
    rw [hrun, Option.some.injEq] at hupdate
    subst update
    refine (hpixel x y hx hy).mp fun access haccess => haccesses access ?_
    rw [accesses_convert]
    exact List.mem_flatMap.mpr ⟨(x, y), Raster.mem_pixels.mpr ⟨hx, hy⟩, haccess⟩
  · intro hmasked hotX hotY
    obtain ⟨cursor, hrun⟩ := run_masked hlow hhigh hotX hotY data mask
    refine ⟨_, hrun, fun access haccess => ?_⟩
    rw [accesses_convert] at haccess
    obtain ⟨⟨x, y⟩, hp, haccess⟩ := List.mem_flatMap.mp haccess
    obtain ⟨hx, hy⟩ := Raster.mem_pixels.mp hp
    exact (hpixel x y hx hy).mpr (hmasked x hx y hy) access haccess

/-- A 24-bit cursor whose last pixel is masked out. -/
theorem accessesInside_iff_lastMasked :
    AccessesInside (.setPointerLarge 24 8 1) (fun _ => 0) (fun _ => 1) :=
  (accessesInside_iff (by decide) (by decide) _ _).mpr (by unfold OverrunMasked; decide)

/-- One 24-bit pixel that is drawn: the load takes a fourth byte. -/
theorem not_always_accessesInside :
    ¬ ∀ (call : CursorCall) (data mask : Nat → UInt8), 0 < call.width → 0 < call.height →
      1 ≤ bytesPerPixel call.bpp → bytesPerPixel call.bpp ≤ 3 →
      AccessesInside call data mask := by
  intro hall
  obtain ⟨update, hrun, haccesses⟩ := hall (.setPointerLarge 24 1 1) (fun _ => 0) (fun _ => 0)
    (by decide) (by decide) (by decide) (by decide) 0 0
  cases hrun
  exact absurd (haccesses (.data 0) (by decide)) (by unfold CursorAccess.InBounds; decide)

end XrdpLocal.Qt
