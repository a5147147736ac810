import Mathlib.Data.Int.ConditionallyCompleteOrder
import Mathlib.Data.Rat.Floor
import Mathlib.Order.Interval.Set.Basic
import XrdpLocal.Xup.ClientInfo
/-!
# Displays, monitors, window and session

What `setup_xup_client_info` makes of the displays: a faithful monitor layout
with the tight bounding box as session (`setup_layoutFaithful`), a usable
frame interval when the refresh rates allow one (`intervalUsable_iff`), and a
session of the size of the window when the displays beyond the last monitor do
not matter (`sizesAgree_iff`).
-/

namespace XrdpLocal.Xup

open RunningMax XrdpLocal.Qt

/-! ## The monitor layout -/

/-- The pixels of a display, in half-open coordinates. -/
def displayPixels (display : Display) : Set (Int × Int) :=
  Set.Ico display.x (display.x + display.width) ×ˢ
    Set.Ico display.y (display.y + display.height)

/-- The pixels of a monitor, in inclusive coordinates. -/
def monitorPixels (monitor : MonitorInfo) : Set (Int × Int) :=
  Set.Icc monitor.left monitor.right ×ˢ Set.Icc monitor.top monitor.bottom

def areaPixels (width height : Int) : Set (Int × Int) :=
  Set.Ico 0 width ×ˢ Set.Ico 0 height

def ClientInfo.monitors (info : ClientInfo) : List MonitorInfo :=
  info.minfo.take info.monitorCount

/-- The monitors cover the displays they stand for, pixel by pixel, and the
session is the smallest area at the origin that holds them. -/
structure LayoutFaithful (maximumMonitors : Nat) (displays : List Display)
    (info : ClientInfo) : Prop where
  monitorCount : info.monitorCount = min displays.length maximumMonitors
  length : info.monitors.length = info.monitorCount
  array : info.minfo.length = maximumMonitors
  untouched : ∀ i, info.monitorCount ≤ i → i < maximumMonitors → info.minfo[i]? = some .cleared
  pixels : ∀ (i : Nat) (monitor : MonitorInfo) (display : Display),
    info.monitors[i]? = some monitor → displays[i]? = some display →
    monitorPixels monitor = displayPixels display
  overlap : ∀ (i j : Nat) (monitor monitor' : MonitorInfo) (display display' : Display),
    info.monitors[i]? = some monitor → displays[i]? = some display →
    info.monitors[j]? = some monitor' → displays[j]? = some display' →
    ((monitorPixels monitor ∩ monitorPixels monitor').Nonempty ↔
      (displayPixels display ∩ displayPixels display').Nonempty)
  covers : ∀ monitor ∈ info.monitors,
    monitorPixels monitor ⊆ areaPixels info.sessionWidth info.sessionHeight
  tight : 0 < info.monitorCount → ∀ width height,
    (∀ monitor ∈ info.monitors, monitorPixels monitor ⊆ areaPixels width height) →
    info.sessionWidth ≤ width ∧ info.sessionHeight ≤ height
  empty : info.monitorCount = 0 → info.sessionWidth = 1 ∧ info.sessionHeight = 1
  primary : 0 < info.monitorCount →
    ∃! i : Nat, ∃ monitor : MonitorInfo, info.monitors[i]? = some monitor ∧ monitor.isPrimary = true

theorem monitors_finalClientInfo (maximumMonitors : Nat) (displays : List Display) :
    (finalClientInfo maximumMonitors displays).monitors =
      (displays.take maximumMonitors).mapIdx fun i display => monitorInfo display i := by
  rw [ClientInfo.monitors, minfo_finalClientInfo, monitorCount_finalClientInfo]
  exact List.take_left' (by simp [Nat.min_comm])

theorem getElem?_monitors {maximumMonitors i : Nat} {displays : List Display}
    {monitor : MonitorInfo}
    (hget : (finalClientInfo maximumMonitors displays).monitors[i]? = some monitor) :
    ∃ display ∈ displays.take maximumMonitors,
      displays[i]? = some display ∧ monitor = monitorInfo display i := by
  rw [monitors_finalClientInfo, List.getElem?_mapIdx, Option.map_eq_some_iff] at hget
  obtain ⟨display, hdisplay, rfl⟩ := hget
  refine ⟨display, List.mem_of_getElem? hdisplay, ?_, rfl⟩
  rw [List.getElem?_take] at hdisplay
  split at hdisplay
  · exact hdisplay
  · cases hdisplay

theorem right_monitorInfo {display : Display} (h : display.geometry.WellPlaced) (i : Nat) :
    (monitorInfo display i).right = display.x + display.width - 1 := by
  have hend : display.geometry.endX = display.x + display.width := h.endX_eq
  have hx : 0 ≤ display.x := h.x
  have hwidth : 0 < display.width := h.width
  have hmax : display.x + display.width ≤ 2147483647 := h.endX
  rw [monitorInfo, hend]
  exact CInt.wrap_of_inRange ⟨by omega, by omega⟩

theorem bottom_monitorInfo {display : Display} (h : display.geometry.WellPlaced) (i : Nat) :
    (monitorInfo display i).bottom = display.y + display.height - 1 := by
  have hend : display.geometry.endY = display.y + display.height := h.endY_eq
  have hy : 0 ≤ display.y := h.y
  have hheight : 0 < display.height := h.height
  have hmax : display.y + display.height ≤ 2147483647 := h.endY
  rw [monitorInfo, hend]
  exact CInt.wrap_of_inRange ⟨by omega, by omega⟩

theorem monitorPixels_monitorInfo {display : Display} (h : display.geometry.WellPlaced) (i : Nat) :
    monitorPixels (monitorInfo display i) = displayPixels display := by
  ext p
  simp only [monitorPixels, displayPixels, Set.mem_prod, Set.mem_Icc, Set.mem_Ico,
    right_monitorInfo h, bottom_monitorInfo h, Int.le_sub_one_iff]
  rfl

theorem displayPixels_subset_iff {display : Display} (h : display.geometry.WellPlaced)
    {width height : Int} :
    displayPixels display ⊆ areaPixels width height ↔
      display.geometry.endX ≤ width ∧ display.geometry.endY ≤ height := by
  have hx : 0 ≤ display.x := h.x
  have hy : 0 ≤ display.y := h.y
  have hwidth : 0 < display.width := h.width
  have hheight : 0 < display.height := h.height
  have hendX : display.geometry.endX = display.x + display.width := h.endX_eq
  have hendY : display.geometry.endY = display.y + display.height := h.endY_eq
  rw [hendX, hendY]
  constructor
  · intro hsubset
    -- the pixel in the far corner decides
    have hcorner : (display.x + display.width - 1, display.y + display.height - 1) ∈
        displayPixels display := by
      simp only [displayPixels, Set.mem_prod, Set.mem_Ico]
      omega
    have hmem := hsubset hcorner
    simp only [areaPixels, Set.mem_prod, Set.mem_Ico] at hmem
    omega
  · rintro ⟨hright, hbottom⟩ p hp
    simp only [displayPixels, areaPixels, Set.mem_prod, Set.mem_Ico] at hp ⊢
    omega

theorem covers_finalClientInfo {maximumMonitors : Nat} {displays : List Display}
    (hplaced : ∀ display ∈ displays, display.geometry.WellPlaced) {width height : Int} :
    (∀ monitor ∈ (finalClientInfo maximumMonitors displays).monitors,
      monitorPixels monitor ⊆ areaPixels width height) ↔
    ∀ display ∈ displays.take maximumMonitors,
      display.geometry.endX ≤ width ∧ display.geometry.endY ≤ height := by
  rw [monitors_finalClientInfo]
  constructor
  · intro hall display hdisplay
    obtain ⟨i, hget⟩ := List.mem_iff_getElem?.mp hdisplay
    have hmem : monitorInfo display i ∈ (displays.take maximumMonitors).mapIdx fun i display =>
        monitorInfo display i :=
      List.mem_iff_getElem?.mpr ⟨i, by rw [List.getElem?_mapIdx, hget, Option.map_some]⟩
    have h := hplaced display (List.mem_of_mem_take hdisplay)
    have hsubset := hall _ hmem
    rwa [monitorPixels_monitorInfo h, displayPixels_subset_iff h] at hsubset
  · intro hall monitor hmonitor
    obtain ⟨i, hlt, rfl⟩ := List.mem_mapIdx.mp hmonitor
    have hmem := List.getElem_mem hlt
    have h := hplaced _ (List.mem_of_mem_take hmem)
    rw [monitorPixels_monitorInfo h, displayPixels_subset_iff h]
    exact hall _ hmem

/-- No smaller session covers the monitors. -/
theorem tight_finalClientInfo {maximumMonitors : Nat} {displays : List Display}
    (hplaced : ∀ display ∈ displays, display.geometry.WellPlaced)
    (hpos : 0 < (finalClientInfo maximumMonitors displays).monitorCount) {width height : Int}
    (hcovers : ∀ monitor ∈ (finalClientInfo maximumMonitors displays).monitors,
      monitorPixels monitor ⊆ areaPixels width height) :
    (finalClientInfo maximumMonitors displays).sessionWidth ≤ width ∧
      (finalClientInfo maximumMonitors displays).sessionHeight ≤ height := by
  rw [covers_finalClientInfo hplaced] at hcovers
  have hfirst : displays.take maximumMonitors ≠ [] := by
    rw [← List.length_pos_iff, List.length_take, Nat.min_comm]
    exact hpos
  obtain ⟨display, hdisplay⟩ := List.exists_mem_of_ne_nil _ hfirst
  have hone := (hplaced display (List.mem_of_mem_take hdisplay)).one_le_end
  have hwithin := hcovers display hdisplay
  rw [sessionWidth_finalClientInfo, sessionHeight_finalClientInfo, runningMax_le_iff,
    runningMax_le_iff]
  exact ⟨⟨hone.1.trans hwithin.1, fun other hother => (hcovers other hother).1⟩,
    hone.2.trans hwithin.2, fun other hother => (hcovers other hother).2⟩

/-- The first monitor is the primary one, and no other is. -/
theorem primary_finalClientInfo {maximumMonitors : Nat} {displays : List Display}
    (hpos : 0 < (finalClientInfo maximumMonitors displays).monitors.length) :
    ∃! i : Nat, ∃ monitor : MonitorInfo,
      (finalClientInfo maximumMonitors displays).monitors[i]? = some monitor ∧
        monitor.isPrimary = true := by
  refine ⟨0, ⟨_, List.getElem?_eq_getElem hpos, ?_⟩, ?_⟩
  · obtain ⟨display, _, _, heq⟩ := getElem?_monitors (List.getElem?_eq_getElem hpos)
    rw [heq]
    rfl
  · rintro i ⟨monitor, hget, hprimary⟩
    obtain ⟨display, _, _, rfl⟩ := getElem?_monitors hget
    exact eq_of_beq hprimary

theorem layoutFaithful_finalClientInfo (maximumMonitors : Nat) (displays : List Display)
    (hplaced : ∀ display ∈ displays, display.geometry.WellPlaced) :
    LayoutFaithful maximumMonitors displays
      (finalClientInfo maximumMonitors displays) := by
  have hpixels : ∀ (i : Nat) (monitor : MonitorInfo) (display : Display),
      (finalClientInfo maximumMonitors displays).monitors[i]? = some monitor →
      displays[i]? = some display → monitorPixels monitor = displayPixels display := by
    intro i monitor display hmonitor hdisplay
    obtain ⟨display', hmem, hget, rfl⟩ := getElem?_monitors hmonitor
    obtain rfl : display' = display := by rwa [hget, Option.some.injEq] at hdisplay
    exact monitorPixels_monitorInfo (hplaced _ (List.mem_of_mem_take hmem)) i
  have hlength : (finalClientInfo maximumMonitors displays).monitors.length =
      min displays.length maximumMonitors := by
    rw [monitors_finalClientInfo, List.length_mapIdx, List.length_take, Nat.min_comm]
  constructor
  case monitorCount => rfl
  case length => exact hlength
  case array =>
    simp only [minfo_finalClientInfo, List.length_append, List.length_mapIdx, List.length_take,
      List.length_replicate]
    omega
  case untouched =>
    intro i hle hlt
    rw [monitorCount_finalClientInfo] at hle
    rw [minfo_finalClientInfo, List.getElem?_append_right (by simp; omega),
      List.getElem?_replicate, if_pos (by simp; omega)]
  case pixels => exact hpixels
  case overlap =>
    intro i j monitor monitor' display display' hi hdi hj hdj
    rw [hpixels i monitor display hi hdi, hpixels j monitor' display' hj hdj]
  case covers =>
    rw [covers_finalClientInfo hplaced, sessionWidth_finalClientInfo, sessionHeight_finalClientInfo]
    intro display hdisplay
    exact ⟨le_runningMax (fun display => display.geometry.endX) 1 hdisplay,
      le_runningMax (fun display => display.geometry.endY) 1 hdisplay⟩
  case tight =>
    exact fun hpos width height hcovers => tight_finalClientInfo hplaced hpos hcovers
  case empty =>
    intro hzero
    have hnone : displays.take maximumMonitors = [] := by
      rw [← List.length_eq_zero_iff, List.length_take, Nat.min_comm]
      exact hzero
    rw [sessionWidth_finalClientInfo, sessionHeight_finalClientInfo, hnone]
    exact ⟨rfl, rfl⟩
  case primary =>
    intro hpos
    rw [monitorCount_finalClientInfo, ← hlength] at hpos
    exact primary_finalClientInfo hpos

/-- The layout of any list of well placed displays is faithful, and it is
computed whenever no refresh rate is zero. -/
theorem setup_layoutFaithful (maximumMonitors : Nat) (displays : List Display)
    (hplaced : ∀ display ∈ displays, display.geometry.WellPlaced) :
    ((setupXupClientInfo maximumMonitors displays).isSome ↔
      ∀ display ∈ displays.take maximumMonitors, display.refreshRate ≠ 0) ∧
    ∀ info, setupXupClientInfo maximumMonitors displays = some info →
      LayoutFaithful maximumMonitors displays info := by
  constructor
  · rw [Option.isSome_iff_exists]
    simp only [setupXupClientInfo_eq_some_iff, exists_and_left, exists_eq, and_true]
  · intro info hsetup
    obtain ⟨_, rfl⟩ := setupXupClientInfo_eq_some_iff.mp hsetup
    exact layoutFaithful_finalClientInfo maximumMonitors displays hplaced

/-- Two screens side by side. -/
theorem setup_layoutFaithful_sideBySide :
    ∃ info, setupXupClientInfo 16
        [⟨0, 0, 1920, 1080, 510, 290, 0, 60⟩, ⟨1920, 0, 1080, 1920, 290, 510, 90, 75⟩] = some info ∧
      LayoutFaithful 16
        [⟨0, 0, 1920, 1080, 510, 290, 0, 60⟩, ⟨1920, 0, 1080, 1920, 290, 510, 90, 75⟩] info := by
  obtain ⟨hsome, hfaithful⟩ := setup_layoutFaithful 16
    [⟨0, 0, 1920, 1080, 510, 290, 0, 60⟩, ⟨1920, 0, 1080, 1920, 290, 510, 90, 75⟩] (by
      intro display hdisplay
      simp only [List.mem_cons, List.not_mem_nil, or_false] at hdisplay
      rcases hdisplay with rfl | rfl <;> constructor <;> decide)
  obtain ⟨info, hinfo⟩ := Option.isSome_iff_exists.mp (hsome.mpr (by decide))
  exact ⟨info, hinfo, hfaithful info hinfo⟩

/-! ## The frame interval -/

/-- The loop ends, with the smallest interval that the default and the
monitors' refresh rates allow, and at least a millisecond. -/
def IntervalUsable (maximumMonitors : Nat) (displays : List Display) : Prop :=
  ∃ info, setupXupClientInfo maximumMonitors displays = some info ∧
    IsLeast (insert 16 ((fun display : Display => 1000 / display.refreshRate) ''
      {display | display ∈ displays.take maximumMonitors})) info.normalFrameInterval ∧
    1 ≤ info.normalFrameInterval

theorem frameInterval_eq (display : Display) :
    frameInterval display = 1000 / display.refreshRate :=
  Int.tdiv_eq_ediv_of_nonneg (by decide)

theorem one_le_frameInterval_iff {display : Display} (hrate : 0 ≤ display.refreshRate) :
    1 ≤ frameInterval display ↔ 1 ≤ display.refreshRate ∧ display.refreshRate ≤ 1000 := by
  rw [frameInterval_eq]
  constructor
  · intro hle
    have hne : display.refreshRate ≠ 0 := by
      intro hzero
      rw [hzero] at hle
      exact absurd hle (by decide)
    have hmul := (Int.le_ediv_iff_mul_le (show 0 < display.refreshRate by omega)).mp hle
    omega
  · rintro ⟨hlow, hhigh⟩
    exact (Int.le_ediv_iff_mul_le (by omega)).mpr (by omega)

theorem intervalUsable_displays_iff (maximumMonitors : Nat) (displays : List Display)
    (hrates : ∀ display ∈ displays, 0 ≤ display.refreshRate) :
    IntervalUsable maximumMonitors displays ↔
      ∀ display ∈ displays.take maximumMonitors,
        1 ≤ display.refreshRate ∧ display.refreshRate ≤ 1000 := by
  have hleast := isLeast_runningMin frameInterval 16 (displays.take maximumMonitors)
  have heq : frameInterval = fun display => 1000 / display.refreshRate :=
    funext frameInterval_eq
  constructor
  · rintro ⟨info, hsetup, _, hone⟩ display hdisplay
    obtain ⟨_, rfl⟩ := setupXupClientInfo_eq_some_iff.mp hsetup
    rw [normalFrameInterval_finalClientInfo] at hone
    rw [← one_le_frameInterval_iff (hrates display (List.mem_of_mem_take hdisplay))]
    exact hone.trans (hleast.2 (Set.mem_insert_of_mem _ ⟨display, hdisplay, rfl⟩))
  · intro hall
    refine ⟨finalClientInfo maximumMonitors displays, ?_, ?_, ?_⟩
    · refine setupXupClientInfo_eq_some_iff.mpr ⟨fun display hdisplay => ?_, rfl⟩
      have hlow := (hall display hdisplay).1
      omega
    · rw [normalFrameInterval_finalClientInfo, ← heq]
      exact hleast
    · rw [normalFrameInterval_finalClientInfo]
      rcases hleast.1 with hinit | ⟨display, hdisplay, hvalue⟩
      · rw [hinit]
        decide
      · rw [← hvalue, one_le_frameInterval_iff (hrates display (List.mem_of_mem_take hdisplay))]
        exact hall display hdisplay

section Rates

variable {K : Type} [Ring K] [LinearOrder K] [FloorRing K]

/-- The frame interval is usable exactly when every display that becomes a
monitor has a refresh rate from 1 to below 1001. -/
theorem intervalUsable_iff (maximumMonitors displaysToUse : Nat) (screens : List (QScreen K))
    (hrates : ∀ screen ∈ screens, 0 ≤ screen.refreshRate) :
    IntervalUsable maximumMonitors (getDisplayInfo displaysToUse screens) ↔
      ∀ screen ∈ (screens.take displaysToUse).take maximumMonitors,
        1 ≤ screen.refreshRate ∧ screen.refreshRate < 1001 := by
  have hdisplays : getDisplayInfo displaysToUse screens =
      (screens.take displaysToUse).map QScreen.toDisplay := by
    rw [getDisplayInfo, take_min_length]
  have hnonneg : ∀ display ∈ getDisplayInfo displaysToUse screens, 0 ≤ display.refreshRate := by
    rw [hdisplays]
    intro display hdisplay
    obtain ⟨screen, hscreen, rfl⟩ := List.mem_map.mp hdisplay
    have hrate := hrates screen (List.mem_of_mem_take hscreen)
    show 0 ≤ truncate screen.refreshRate
    rw [truncate_of_nonneg hrate]
    exact Int.floor_nonneg.mpr hrate
  rw [intervalUsable_displays_iff _ _ hnonneg, hdisplays, ← List.map_take]
  simp only [List.forall_mem_map]
  refine forall₂_congr fun screen hscreen => ?_
  have hrate := hrates screen (List.mem_of_mem_take (List.mem_of_mem_take hscreen))
  have hcast : screen.toDisplay.refreshRate = ⌊screen.refreshRate⌋ := truncate_of_nonneg hrate
  rw [hcast, Int.le_floor, ← Int.lt_add_one_iff, Int.floor_lt]
  norm_num

end Rates

/-- A single display at 59.94 Hz. -/
theorem intervalUsable_iff_single :
    IntervalUsable 16 (getDisplayInfo 1
      [(⟨⟨0, 0, 1920, 1080⟩, ⟨510, 290⟩, .landscape, 2997 / 50⟩ : QScreen ℚ)]) := by
  rw [intervalUsable_iff]
  · simp only [List.take_succ_cons, List.take_nil, List.mem_singleton, forall_eq]
    norm_num
  · simp only [List.mem_singleton, forall_eq]
    norm_num

/-- A display that reports half a frame a second. -/
theorem not_always_intervalUsable :
    ¬ ∀ (displaysToUse : Nat) (screens : List (QScreen ℚ)),
      (∀ screen ∈ screens, 0 ≤ screen.refreshRate) →
      IntervalUsable 16 (getDisplayInfo displaysToUse screens) := by
  intro hall
  obtain ⟨info, hsetup, _⟩ := hall 1 [⟨⟨0, 0, 1920, 1080⟩, ⟨510, 290⟩, .landscape, 1 / 2⟩] (by
    simp only [List.mem_singleton, forall_eq]
    norm_num)
  have hrate := (setupXupClientInfo_eq_some_iff.mp hsetup).1 _ (List.mem_singleton_self _)
  apply hrate
  show truncate (1 / 2 : ℚ) = 0
  rw [truncate_of_nonneg (by norm_num)]
  norm_num

/-! ## The window -/

/-- The session told to the X server has the size of the window's
framebuffer. -/
def SizesAgree (info : ClientInfo) (window : QtWindow) : Prop :=
  info.sessionWidth = window.framebuffer.width ∧ info.sessionHeight = window.framebuffer.height

/-- No display after the first `maximumMonitors` reaches further right, or
further down, than all of those. -/
def ExtraDisplaysInside {K : Type} (maximumMonitors : Nat) (inUse : List (QScreen K)) : Prop :=
  ∀ screen ∈ inUse.drop maximumMonitors,
    (∃ monitor ∈ inUse.take maximumMonitors,
      screen.geometry.x + screen.geometry.width ≤ monitor.geometry.x + monitor.geometry.width) ∧
    (∃ monitor ∈ inUse.take maximumMonitors,
      screen.geometry.y + screen.geometry.height ≤ monitor.geometry.y + monitor.geometry.height)

section Window

variable {K : Type} {maximumMonitors : Nat} {inUse : List (QScreen K)}

/-- Capping a running maximum and starting it at 1 instead of 0 changes
nothing exactly when the values left out are reached without them. -/
theorem runningMax_take_eq_iff {f : QScreen K → Int} (hmax : 0 < maximumMonitors)
    (hne : inUse ≠ []) (hpos : ∀ screen ∈ inUse, 1 ≤ f screen) :
    runningMax f 1 (inUse.take maximumMonitors) = runningMax f 0 inUse ↔
      ∀ screen ∈ inUse.drop maximumMonitors,
        ∃ monitor ∈ inUse.take maximumMonitors, f screen ≤ f monitor := by
  have hfirst : inUse.take maximumMonitors ≠ [] := by
    rw [Ne, List.take_eq_nil_iff, not_or]
    exact ⟨by omega, hne⟩
  obtain ⟨monitor, hmonitor⟩ := List.exists_mem_of_ne_nil _ hfirst
  have hone : 1 ≤ f monitor := hpos monitor (List.mem_of_mem_take hmonitor)
  have hle : runningMax f 1 (inUse.take maximumMonitors) ≤ runningMax f 0 inUse := by
    rw [runningMax_le_iff]
    refine ⟨hone.trans (le_runningMax f 0 (List.mem_of_mem_take hmonitor)), fun screen hscreen => ?_⟩
    exact le_runningMax f 0 (List.mem_of_mem_take hscreen)
  have hinit : 1 ≤ runningMax f 1 (inUse.take maximumMonitors) := le_runningMax_init f 1 _
  constructor
  · intro heq screen hscreen
    have hreach : f screen ≤ runningMax f 1 (inUse.take maximumMonitors) := by
      rw [heq]
      exact le_runningMax f 0 (List.mem_of_mem_drop hscreen)
    rcases le_runningMax_iff.mp hreach with hsmall | hother
    · exact ⟨monitor, hmonitor, hsmall.trans hone⟩
    · exact hother
  · intro hall
    refine le_antisymm hle (runningMax_le_iff.mpr ⟨by omega, fun screen hscreen => ?_⟩)
    rw [← List.take_append_drop maximumMonitors inUse, List.mem_append] at hscreen
    rcases hscreen with htake | hdrop
    · exact le_runningMax f 1 htake
    · obtain ⟨other, hother, hreach⟩ := hall screen hdrop
      exact hreach.trans (le_runningMax f 1 hother)

theorem extraDisplaysInside_iff (hplaced : ∀ screen ∈ inUse, screen.geometry.WellPlaced) :
    ExtraDisplaysInside maximumMonitors inUse ↔
      (∀ screen ∈ inUse.drop maximumMonitors, ∃ monitor ∈ inUse.take maximumMonitors,
        screen.geometry.endX ≤ monitor.geometry.endX) ∧
      ∀ screen ∈ inUse.drop maximumMonitors, ∃ monitor ∈ inUse.take maximumMonitors,
        screen.geometry.endY ≤ monitor.geometry.endY := by
  rw [← forall₂_and, ExtraDisplaysInside]
  refine forall₂_congr fun screen hscreen => ?_
  have h := hplaced screen (List.mem_of_mem_drop hscreen)
  rw [h.endX_eq, h.endY_eq]
  refine and_congr (exists_congr fun monitor => ?_) (exists_congr fun monitor => ?_)
  · refine and_congr_right fun hmonitor => ?_
    rw [(hplaced monitor (List.mem_of_mem_take hmonitor)).endX_eq]
  · refine and_congr_right fun hmonitor => ?_
    rw [(hplaced monitor (List.mem_of_mem_take hmonitor)).endY_eq]

end Window

/-- Session and window have one size exactly when the displays that do not
become monitors lie inside those that do. -/
theorem sizesAgree_iff {K : Type} [Ring K] [LinearOrder K] [FloorRing K]
    {maximumMonitors : Nat} (hmax : 0 < maximumMonitors) (maxDisplays : Int)
    (contents : Int → Int → UInt32) {screens : List (QScreen K)} (hne : screens ≠ [])
    (hplaced : ∀ screen ∈ screens, screen.geometry.WellPlaced) {info : ClientInfo}
    (hsetup : setupXupClientInfo maximumMonitors
      (getDisplayInfo (displaysToUse maxDisplays screens.length) screens) = some info) :
    ∃ window, launch contents (displaysToUse maxDisplays screens.length) screens = some window ∧
      (SizesAgree info window ↔ ExtraDisplaysInside maximumMonitors
        (screens.take (displaysToUse maxDisplays screens.length))) := by
  obtain ⟨_, rfl⟩ := setupXupClientInfo_eq_some_iff.mp hsetup
  have hlaunch := launch_eq contents (displaysToUse_le maxDisplays screens.length)
  have huse := displaysToUse_pos maxDisplays (List.length_pos_iff.mpr hne)
  have hinUse : screens.take (displaysToUse maxDisplays screens.length) ≠ [] := by
    rw [Ne, List.take_eq_nil_iff, not_or]
    exact ⟨by omega, hne⟩
  have hall : ∀ screen ∈ screens.take (displaysToUse maxDisplays screens.length),
      screen.geometry.WellPlaced := fun screen hscreen => hplaced screen (List.mem_of_mem_take hscreen)
  refine ⟨_, hlaunch, ?_⟩
  rw [SizesAgree, sessionWidth_finalClientInfo, sessionHeight_finalClientInfo, getDisplayInfo,
    take_min_length, ← List.map_take, runningMax_map, runningMax_map]
  simp only [geometry_toDisplay]
  rw [runningMax_take_eq_iff hmax hinUse fun screen hscreen => (hall screen hscreen).one_le_end.1,
    runningMax_take_eq_iff hmax hinUse fun screen hscreen => (hall screen hscreen).one_le_end.2,
    extraDisplaysInside_iff hall]

def pixelScreen (x : Int) : QScreen ℚ := ⟨⟨x, 0, 1, 1⟩, ⟨1, 1⟩, .landscape, 60⟩

theorem wellPlaced_pixelScreen {x : Int} (hlow : 0 ≤ x) (hhigh : x < 2147483647) :
    (pixelScreen x).geometry.WellPlaced := by
  constructor <;> simp only [pixelScreen] <;> omega

theorem refreshRate_pixelScreen (x : Int) : (pixelScreen x).toDisplay.refreshRate ≠ 0 := by
  show truncate (60 : ℚ) ≠ 0
  rw [truncate_of_nonneg (by norm_num)]
  norm_num

theorem setup_pixelScreens (maximumMonitors n : Nat) (xs : List Int) :
    setupXupClientInfo maximumMonitors (getDisplayInfo n (xs.map pixelScreen)) =
      some (finalClientInfo maximumMonitors (getDisplayInfo n (xs.map pixelScreen))) := by
  refine setupXupClientInfo_eq_some_iff.mpr ⟨fun display hdisplay => ?_, rfl⟩
  obtain ⟨screen, hscreen, rfl⟩ := List.mem_map.mp (List.mem_of_mem_take hdisplay)
  obtain ⟨x, _, rfl⟩ := List.mem_map.mp (List.mem_of_mem_take hscreen)
  exact refreshRate_pixelScreen x

/-- Two displays, both of them monitors. -/
theorem sizesAgree_twoPixels :
    ∃ info window,
      setupXupClientInfo 16 (getDisplayInfo (displaysToUse 0 2) ([0, 1].map pixelScreen)) =
        some info ∧
      launch (fun _ _ => 0) (displaysToUse 0 2) ([0, 1].map pixelScreen) = some window ∧
      SizesAgree info window := by
  have hsetup := setup_pixelScreens 16 (displaysToUse 0 2) [0, 1]
  have hplaced : ∀ screen ∈ [0, 1].map pixelScreen, screen.geometry.WellPlaced := by
    simp only [List.forall_mem_map]
    intro x hx
    simp only [List.mem_cons, List.not_mem_nil, or_false] at hx
    exact wellPlaced_pixelScreen (by omega) (by omega)
  obtain ⟨window, hwindow, hagree⟩ := sizesAgree_iff (by decide : 0 < 16) 0 (fun _ _ => 0)
    (List.cons_ne_nil _ _) hplaced hsetup
  refine ⟨_, window, hsetup, hwindow, hagree.mpr fun screen hscreen => ?_⟩
  cases hscreen

/-- Sixteen displays in one place and a seventeenth beside them. -/
theorem not_always_sizesAgree :
    ¬ ∀ (maxDisplays : Int) (screens : List (QScreen ℚ)), screens ≠ [] →
      (∀ screen ∈ screens, screen.geometry.WellPlaced) → ∀ info window,
      setupXupClientInfo 16 (getDisplayInfo (displaysToUse maxDisplays screens.length) screens) =
        some info →
      launch (fun _ _ => 0) (displaysToUse maxDisplays screens.length) screens = some window →
      SizesAgree info window := by
  intro hall
  obtain ⟨xs, hxs⟩ : ∃ xs, xs = List.replicate 16 (0 : Int) ++ [1] := ⟨_, rfl⟩
  have hne : xs.map pixelScreen ≠ [] := by simp [hxs]
  have hplaced : ∀ screen ∈ xs.map pixelScreen, screen.geometry.WellPlaced := by
    intro screen hscreen
    obtain ⟨x, hx, rfl⟩ := List.mem_map.mp hscreen
    simp only [hxs, List.mem_append, List.mem_replicate, List.mem_singleton] at hx
    exact wellPlaced_pixelScreen (by omega) (by omega)
  have hagree := hall 0 (xs.map pixelScreen) hne hplaced _ _
    (setup_pixelScreens 16 _ xs) (launch_eq _ (displaysToUse_le _ _))
  have hwidth := hagree.1
  rw [sessionWidth_finalClientInfo, getDisplayInfo, take_min_length, ← List.map_take,
    runningMax_map] at hwidth
  subst hxs
  exact absurd hwidth (by decide)

end XrdpLocal.Xup
