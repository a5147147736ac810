import Mathlib.Algebra.Order.Floor.Ring
import XrdpLocal.Library.CInt
import XrdpLocal.Library.Loops
import XrdpLocal.Library.RunningMax
import XrdpLocal.Qt.Window
/-!
# Screens, displays and the size of the window

What `QtState` reads from `QGuiApplication::screens()`: the number of displays
to use, the size that `launch` gives the window, and the list of displays that
`get_display_info` hands to xup. `K` is the type of Qt's real numbers. Sums of
coordinates wrap, as in `CInt.wrap`.
-/

namespace XrdpLocal.Qt

open RunningMax

inductive ScreenOrientation
  | primary
  | portrait
  | landscape
  | invertedPortrait
  | invertedLandscape
  deriving DecidableEq, Repr

structure QSizeF (K : Type) where
  width : K
  height : K

structure QScreen (K : Type) where
  geometry : QRect
  physicalSize : QSizeF K
  orientation : ScreenOrientation
  refreshRate : K

structure Display where
  x : Int
  y : Int
  width : Int
  height : Int
  physicalWidth : Int
  physicalHeight : Int
  orientation : Int
  refreshRate : Int
  deriving DecidableEq, Repr

def Display.geometry (display : Display) : QRect :=
  ⟨display.x, display.y, display.width, display.height⟩

/-- The `switch` of `get_display_info`; its `default` branch is 0 as well. -/
def ScreenOrientation.degrees : ScreenOrientation → Int
  | .landscape => 0
  | .portrait => 90
  | .invertedLandscape => 180
  | .invertedPortrait => 270
  | .primary => 0

/-- The first column to the right of a rectangle, `x + width` in `int`
arithmetic. -/
def QRect.endX (rect : QRect) : Int := CInt.wrap (rect.x + rect.width)

def QRect.endY (rect : QRect) : Int := CInt.wrap (rect.y + rect.height)

/-- A rectangle of at least one pixel, in the quadrant that a window at the
origin covers, whose edges are `int`s. -/
structure QRect.WellPlaced (rect : QRect) : Prop where
  x : 0 ≤ rect.x
  y : 0 ≤ rect.y
  width : 0 < rect.width
  height : 0 < rect.height
  endX : rect.x + rect.width ≤ 2147483647
  endY : rect.y + rect.height ≤ 2147483647

def displaysToUse (maxDisplays : Int) (count : Nat) : Nat :=
  if 0 < maxDisplays then (min maxDisplays count).toNat else count

section Real

variable {K : Type} [Ring K] [LinearOrder K] [FloorRing K]

/-- `static_cast<int>` of a real number that fits, which drops the fraction. -/
def truncate (r : K) : Int := if 0 ≤ r then ⌊r⌋ else ⌈r⌉

def QScreen.toDisplay (screen : QScreen K) : Display where
  x := screen.geometry.x
  y := screen.geometry.y
  width := screen.geometry.width
  height := screen.geometry.height
  physicalWidth := truncate screen.physicalSize.width
  physicalHeight := truncate screen.physicalSize.height
  orientation := screen.orientation.degrees
  refreshRate := truncate screen.refreshRate

def getDisplayInfo (displaysToUse : Nat) (screens : List (QScreen K)) : List Display :=
  (screens.take (min screens.length displaysToUse)).map QScreen.toDisplay

@[simp] theorem geometry_toDisplay (screen : QScreen K) :
    screen.toDisplay.geometry = screen.geometry := rfl

theorem truncate_of_nonneg {r : K} (h : 0 ≤ r) : truncate r = ⌊r⌋ := if_pos h

end Real

section Launch

variable {K : Type}

/-- Iteration `i` of the loop of `launch` over the pair `full_width`,
`full_height`. `none` means that `screens().at(i)` is past the end. -/
def launchIteration (screens : List (QScreen K)) (full : Int × Int) (i : Nat) :
    Option (Int × Int) := do
  let screen ← screens[i]?
  let geometry := screen.geometry
  some (max full.1 geometry.endX, max full.2 geometry.endY)

/-- The window that `launch` creates. Its framebuffer starts with whatever
`contents` the memory has. -/
def launch (contents : Int → Int → UInt32) (displaysToUse : Nat)
    (screens : List (QScreen K)) : Option QtWindow := do
  let (fullWidth, fullHeight) ←
    (List.range displaysToUse).foldlM (launchIteration screens) (0, 0)
  some { framebuffer := ⟨fullWidth, fullHeight, contents⟩ }

end Launch

theorem displaysToUse_le (maxDisplays : Int) (count : Nat) :
    displaysToUse maxDisplays count ≤ count := by
  unfold displaysToUse
  split <;> omega

theorem displaysToUse_pos (maxDisplays : Int) {count : Nat} (hcount : 0 < count) :
    0 < displaysToUse maxDisplays count := by
  unfold displaysToUse
  split <;> omega

theorem QRect.WellPlaced.endX_eq {rect : QRect} (h : rect.WellPlaced) :
    rect.endX = rect.x + rect.width := by
  obtain ⟨hx, _, hwidth, _, hend, _⟩ := h
  exact CInt.wrap_of_inRange ⟨by omega, hend⟩

theorem QRect.WellPlaced.endY_eq {rect : QRect} (h : rect.WellPlaced) :
    rect.endY = rect.y + rect.height := by
  obtain ⟨_, hy, _, hheight, _, hend⟩ := h
  exact CInt.wrap_of_inRange ⟨by omega, hend⟩

theorem QRect.WellPlaced.one_le_end {rect : QRect} (h : rect.WellPlaced) :
    1 ≤ rect.endX ∧ 1 ≤ rect.endY := by
  rw [h.endX_eq, h.endY_eq]
  obtain ⟨hx, hy, hwidth, hheight, _, _⟩ := h
  omega

theorem take_succ_of_getElem? {α : Type*} {l : List α} {i : Nat} {a : α} (h : l[i]? = some a) :
    l.take (i + 1) = l.take i ++ [a] := by
  rw [List.take_add_one, h, Option.toList_some]

/-- The window is as wide and as high as the furthest of the displays in
use. -/
theorem launch_eq {K : Type} (contents : Int → Int → UInt32) {n : Nat}
    {screens : List (QScreen K)} (hn : n ≤ screens.length) :
    launch contents n screens = some { framebuffer :=
      ⟨runningMax (fun screen => screen.geometry.endX) 0 (screens.take n),
        runningMax (fun screen => screen.geometry.endY) 0 (screens.take n), contents⟩ } := by
  let full (i : Nat) : Int × Int :=
    (runningMax (fun screen => screen.geometry.endX) 0 (screens.take i),
      runningMax (fun screen => screen.geometry.endY) 0 (screens.take i))
  have hstep : ∀ i < n, launchIteration screens (full i) i = some (full (i + 1)) := by
    intro i hi
    have hget := List.getElem?_eq_getElem (Nat.lt_of_lt_of_le hi hn)
    simp only [launchIteration, full, hget, take_succ_of_getElem? hget, runningMax_concat,
      Option.bind_eq_bind, Option.bind_some]
  have hloop := Loops.foldlM_range_eq hstep
  rw [launch, show ((0 : Int), (0 : Int)) = full 0 from rfl, hloop]
  rfl

end XrdpLocal.Qt
