import Mathlib.Data.List.Basic
/-!
# The window and its framebuffer

`QtWindow` as far as painting goes: the framebuffer, the updates flag, and the
drawing loop of `paint_rects_slot`. `QPainter::drawImage` belongs to Qt and is
a parameter of the drawing functions.
-/

namespace XrdpLocal.Qt

structure XrdpRectSpec where
  x : Int16
  y : Int16
  cx : Int16
  cy : Int16
  deriving DecidableEq, Repr

structure QRect where
  x : Int
  y : Int
  width : Int
  height : Int
  deriving DecidableEq, Repr

def XrdpRectSpec.toQRect (rect : XrdpRectSpec) : QRect :=
  ⟨rect.x.toInt, rect.y.toInt, rect.cx.toInt, rect.cy.toInt⟩

/-- An image of 32-bit pixels. Only pixels inside `width` and `height` mean
anything. -/
structure QImage where
  width : Int
  height : Int
  pixel : Int → Int → UInt32

/-- `QImage(data, width, height, format)` for a format of 32-bit pixels: rows
of `width` words. -/
def QImage.ofData (data : Nat → UInt32) (width height : Int) : QImage :=
  ⟨width, height, fun x y => data (y * width + x).toNat⟩

structure QImage.Same (image image' : QImage) : Prop where
  width : image.width = image'.width
  height : image.height = image'.height
  pixel : ∀ x y : Int, 0 ≤ x → x < image.width → 0 ≤ y → y < image.height →
    image.pixel x y = image'.pixel x y

abbrev DrawImage := QImage → QRect → QImage → QRect → QImage

/-- `class SyncChangeReference`. `rects` holds the `num_rects` rectangles that
the pointer of the same name points to, and `releaseLatch` the count of the
latch. -/
structure SyncChangeReference where
  width : Int
  height : Int
  data : Nat → UInt32
  rects : List XrdpRectSpec
  releaseLatch : Nat := 1

def SyncChangeReference.signalDataIsNotUsed (change : SyncChangeReference) :
    SyncChangeReference :=
  { change with releaseLatch := change.releaseLatch - 1 }

def drawRects (drawImage : DrawImage) (image : QImage) (framebuffer : QImage)
    (rects : List XrdpRectSpec) : QImage :=
  rects.foldl (fun fb rect => drawImage fb rect.toQRect image rect.toQRect) framebuffer

structure QtWindow where
  framebuffer : QImage
  updatesEnabled : Bool := true

def QtWindow.setDisablePaint (window : QtWindow) (disablePaint : Bool) : QtWindow :=
  { window with updatesEnabled := !disablePaint }

/-- The `try` block of `paint_rects_slot`, left by an exception after `drawn`
rectangles if that is fewer than there are. -/
def QtWindow.paintRects (drawImage : DrawImage) (window : QtWindow)
    (change : SyncChangeReference) (drawn : Nat) : QtWindow :=
  let newImage := QImage.ofData change.data change.width change.height
  { window with
    framebuffer := drawRects drawImage newImage window.framebuffer (change.rects.take drawn) }

end XrdpLocal.Qt
