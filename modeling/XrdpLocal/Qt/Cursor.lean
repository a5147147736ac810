import XrdpLocal.Library.Bytes
import XrdpLocal.Library.CInt
import XrdpLocal.Library.Raster
import XrdpLocal.Qt.Window
/-!
# Cursor images

`QtState::set_cursor` and the two server callbacks that call it. Cursor data
and mask are memory from the given address on, and indices are exact integers;
`XrdpLocal.Qt.CursorArithmetic` says when `int` agrees with them. Loops log the
accesses they make, so that these can be compared with the sizes of the
buffers.
-/

namespace XrdpLocal.Qt

/-- The image and the hot spot that `window->setCursor` gets. -/
structure QCursor where
  image : QImage
  hotX : Int
  hotY : Int

def QImage.mirrored (image : QImage) (horizontal vertical : Bool) : QImage :=
  { image with
    pixel := fun x y =>
      image.pixel (if horizontal then image.width - 1 - x else x)
        (if vertical then image.height - 1 - y else y) }

/-- An access of the conversion loops: to a byte of the mask, to the four
bytes of the data from an index on, or to a word of the output. -/
inductive CursorAccess
  | mask (i : Nat)
  | data (i : Nat)
  | argb32 (i : Nat)
  deriving DecidableEq, Repr

/-- What `set_cursor` passes on, and the accesses of its loops. -/
structure CursorUpdate where
  cursor : QCursor
  accesses : List CursorAccess

/-- `(bpp == 0) ? 3 : (bpp + 7) / 8`, bytes for a depth in bits. -/
def bytesPerPixel (bpp : Nat) : Nat := if bpp = 0 then 3 else (bpp + 7) / 8

/-! ## The masked branch -/

/-- The variables of the masked branch that its loops read. -/
structure MaskedCursor where
  data : Nat → UInt8
  mask : Nat → UInt8
  width : Nat
  height : Nat
  Bpp : Nat
  bitMask : UInt32

namespace MaskedCursor

variable (c : MaskedCursor)

def maskIndex (x y : Nat) : Nat := (y * c.width + x) / 8

def maskShift (x : Nat) : Nat := 7 - x % 8

def dataIndex (x y : Nat) : Nat := y * c.width * c.Bpp + x * c.Bpp

def argbIndex (x y : Nat) : Nat := (c.height - y - 1) * c.width + x

/-- The bit of the mask that the loops consult for a pixel is set. -/
def maskedOut (x y : Nat) : Bool :=
  (c.mask (c.maskIndex x y) >>> UInt8.ofNat (maskShift x)) &&& 1 != 0

def color (x y : Nat) : UInt32 :=
  0xFF000000 ||| (Bytes.load32 c.data (c.dataIndex x y) &&& c.bitMask)

structure Loop where
  argb32 : Nat → UInt32
  accesses : List CursorAccess

def drawPixel (s : Loop) (x y : Nat) : Loop :=
  if c.maskedOut x y then
    { s with accesses := s.accesses ++ [.mask (c.maskIndex x y)] }
  else
    { argb32 := Function.update s.argb32 (c.argbIndex x y) (c.color x y)
      accesses := s.accesses ++
        [.mask (c.maskIndex x y), .data (c.dataIndex x y), .argb32 (c.argbIndex x y)] }

/-- The loops over `y` and `x`, on a buffer that `memset` has cleared. -/
def convert : Loop :=
  (List.range c.height).foldl
    (fun s y => (List.range c.width).foldl (fun s x => c.drawPixel s x y) s)
    ⟨fun _ => 0, []⟩

end MaskedCursor

/-! ## The functions of the source -/

/-- `none` means that the shift by `32 - bpp` is undefined. -/
def setCursor (x y : Int) (data mask : Nat → UInt8) (width height bpp : Nat) :
    Option CursorUpdate :=
  if bpp = 32 then
    let words := fun i => Bytes.load32 data (4 * i)
    some ⟨⟨(QImage.ofData words width height).mirrored false true, x, y⟩, []⟩
  else do
    let bitMask ← CInt.shiftRight 0xFFFFFFFF (32 - bpp)
    let loop := MaskedCursor.convert ⟨data, mask, width, height, bytesPerPixel bpp, bitMask⟩
    some ⟨⟨QImage.ofData loop.argb32 width height, x, y⟩, loop.accesses⟩

def serverSetCursorEx (x y : Int) (data mask : Nat → UInt8) (bpp : Nat) : Option CursorUpdate :=
  setCursor x y data mask 32 32 (bytesPerPixel bpp * 8)

def serverSetPointerLarge (x y : Int) (data mask : Nat → UInt8) (bpp width height : Nat) :
    Option CursorUpdate :=
  setCursor x y data mask width height (bytesPerPixel bpp * 8)

/-- A call of one of the two callbacks, with its depth and size. -/
inductive CursorCall
  | setCursorEx (bpp : Nat)
  | setPointerLarge (bpp width height : Nat)
  deriving DecidableEq, Repr

namespace CursorCall

def bpp : CursorCall → Nat
  | .setCursorEx bpp | .setPointerLarge bpp _ _ => bpp

def width : CursorCall → Nat
  | .setCursorEx _ => 32
  | .setPointerLarge _ width _ => width

def height : CursorCall → Nat
  | .setCursorEx _ => 32
  | .setPointerLarge _ _ height => height

def run (call : CursorCall) (x y : Int) (data mask : Nat → UInt8) : Option CursorUpdate :=
  match call with
  | .setCursorEx bpp => serverSetCursorEx x y data mask bpp
  | .setPointerLarge bpp width height => serverSetPointerLarge x y data mask bpp width height

theorem run_eq (call : CursorCall) (x y : Int) (data mask : Nat → UInt8) :
    call.run x y data mask =
      setCursor x y data mask call.width call.height (bytesPerPixel call.bpp * 8) := by
  cases call <;> rfl

end CursorCall

/-! ## What the loops do -/

namespace MaskedCursor

variable (c : MaskedCursor)

def accessesAt (x y : Nat) : List CursorAccess :=
  if c.maskedOut x y then [.mask (c.maskIndex x y)]
  else [.mask (c.maskIndex x y), .data (c.dataIndex x y), .argb32 (c.argbIndex x y)]

theorem accesses_drawPixel (s : Loop) (x y : Nat) :
    (c.drawPixel s x y).accesses = s.accesses ++ c.accessesAt x y := by
  unfold drawPixel accessesAt
  split <;> rfl

theorem accesses_foldl (l : List (Nat × Nat)) (s : Loop) :
    (l.foldl (fun s p => c.drawPixel s p.1 p.2) s).accesses =
      s.accesses ++ l.flatMap fun p => c.accessesAt p.1 p.2 := by
  induction l generalizing s with
  | nil => simp
  | cons p l ih => rw [List.foldl_cons, ih, accesses_drawPixel, List.flatMap_cons, List.append_assoc]

theorem accesses_convert :
    c.convert.accesses =
      (Raster.pixels c.width c.height).flatMap fun p => c.accessesAt p.1 p.2 := by
  rw [convert, Raster.foldl_pixels fun s x y => c.drawPixel s x y, accesses_foldl, List.nil_append]

theorem argb32_foldl (l : List (Nat × Nat)) (s : Loop) :
    (l.foldl (fun s p => c.drawPixel s p.1 p.2) s).argb32 =
      Raster.scatter (fun p => c.argbIndex p.1 p.2)
        (fun p => if c.maskedOut p.1 p.2 then none else some (c.color p.1 p.2)) l s.argb32 := by
  induction l generalizing s with
  | nil => rfl
  | cons p l ih =>
      rw [List.foldl_cons, ih, Raster.scatter_cons]
      congr 1
      unfold drawPixel
      split <;> rfl

/-- A row of the output is the row of the data as far from the other end. -/
theorem argbIndex_eq (x y : Nat) :
    c.argbIndex x y = Raster.index c.width x (c.height - y - 1) := rfl

theorem argbIndex_inj {x y x' y' : Nat} (hx : x < c.width) (hy : y < c.height)
    (hx' : x' < c.width) (hy' : y' < c.height) (h : c.argbIndex x y = c.argbIndex x' y') :
    x = x' ∧ y = y' := by
  obtain ⟨hcolumn, hrow⟩ := Raster.index_inj hx hx' h
  omega

/-- After the loops each output word comes from the pixel it belongs to. -/
theorem argb32_convert {x y : Nat} (hx : x < c.width) (hy : y < c.height) :
    c.convert.argb32 (c.argbIndex x y) = if c.maskedOut x y then 0 else c.color x y := by
  have hdistinct : (Raster.pixels c.width c.height).Pairwise fun p q =>
      c.argbIndex p.1 p.2 ≠ c.argbIndex q.1 q.2 := by
    refine (Raster.nodup_pixels c.width c.height).pairwise_of_forall_ne fun p hp q hq hne heq => ?_
    rw [Raster.mem_pixels] at hp hq
    obtain ⟨hcolumn, hrow⟩ := c.argbIndex_inj hp.1 hp.2 hq.1 hq.2 heq
    exact hne (Prod.ext hcolumn hrow)
  have hmem : (x, y) ∈ Raster.pixels c.width c.height := Raster.mem_pixels.mpr ⟨hx, hy⟩
  rw [convert, Raster.foldl_pixels fun s x y => c.drawPixel s x y, argb32_foldl]
  refine (Raster.scatter_apply _ hdistinct hmem _).trans ?_
  cases c.maskedOut x y <;> rfl

end MaskedCursor

theorem pixel_ofData (words : Nat → UInt32) (width x y : Nat) (height : Int) :
    (QImage.ofData words width height).pixel x y = words (Raster.index width x y) := by
  have hcast : (y : Int) * width + x = (Raster.index width x y : Nat) := by
    rw [Raster.index]
    push_cast
    rfl
  show words ((y : Int) * width + x).toNat = _
  rw [hcast, Int.toNat_natCast]

theorem bytesPerPixel_mul_eight (bpp : Nat) :
    bytesPerPixel (bytesPerPixel bpp * 8) = bytesPerPixel bpp := by
  unfold bytesPerPixel
  split <;> split <;> omega

end XrdpLocal.Qt
