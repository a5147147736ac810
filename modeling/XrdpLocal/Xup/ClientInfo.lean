import XrdpLocal.Qt.Screens
/-!
# The client info sent to xorgxrdp

`setup_xup_client_info`: the monitors, the size of the session and the frame
interval, computed from the displays of `get_display_info` in one loop. The
members of `client_info.display_sizes` are members of `ClientInfo` here, and
`CLIENT_MONITOR_DATA_MAXIMUM_MONITORS`, which xrdp defines, is a parameter.
-/

namespace XrdpLocal.Xup

open RunningMax XrdpLocal.Qt

structure MonitorInfo where
  left : Int := 0
  top : Int := 0
  right : Int := 0
  bottom : Int := 0
  physicalWidth : Int := 0
  physicalHeight : Int := 0
  orientation : Int := 0
  desktopScaleFactor : Int := 0
  deviceScaleFactor : Int := 0
  isPrimary : Bool := false
  deriving DecidableEq, Repr

/-- What `memset` leaves in an entry of `minfo`. -/
def MonitorInfo.cleared : MonitorInfo := {}

/-- `struct xrdp_client_info`, as far as the loop and the literals before it
fill it. -/
structure ClientInfo where
  multimon : Int
  bpp : Int
  pointerFlags : Int
  clientDescription : String
  monitorCount : Nat
  minfo : List MonitorInfo
  sessionWidth : Int
  sessionHeight : Int
  normalFrameInterval : Int
  deriving DecidableEq, Repr

def monitorInfo (display : Display) (i : Nat) : MonitorInfo where
  left := display.x
  top := display.y
  right := CInt.wrap (display.geometry.endX - 1)
  bottom := CInt.wrap (display.geometry.endY - 1)
  physicalWidth := display.physicalWidth
  physicalHeight := display.physicalHeight
  orientation := display.orientation
  desktopScaleFactor := 100
  deviceScaleFactor := 100
  isPrimary := i == 0

/-- `static_cast<int>(session)`, grown to `edge + 1` and stored back into an
unsigned member. -/
def growSession (session edge : Int) : Int :=
  CInt.toUnsigned (max (CInt.wrap session) (CInt.wrap (edge + 1)))

/-- Iteration `i` of the loop. `none` means that an array is left or
`1000 / display.refresh_rate` divides by zero. -/
def ClientInfo.addMonitor (displays : List Display) (info : ClientInfo) (i : Nat) :
    Option ClientInfo := do
  let display ← displays[i]?
  let monitor := monitorInfo display i
  let minfo ← Loops.storeAt info.minfo i monitor
  let interval ← CInt.div 1000 display.refreshRate
  some { info with
    minfo := minfo
    sessionWidth := growSession info.sessionWidth monitor.right
    sessionHeight := growSession info.sessionHeight monitor.bottom
    normalFrameInterval := min info.normalFrameInterval interval }

def initialClientInfo (maximumMonitors : Nat) (displays : List Display) : ClientInfo where
  multimon := 1
  bpp := 32
  pointerFlags := 1
  clientDescription := "xrdp_local"
  monitorCount := min displays.length maximumMonitors
  minfo := List.replicate maximumMonitors .cleared
  sessionWidth := 1
  sessionHeight := 1
  normalFrameInterval := 16

def setupXupClientInfo (maximumMonitors : Nat) (displays : List Display) :
    Option ClientInfo :=
  let info := initialClientInfo maximumMonitors displays
  (List.range info.monitorCount).foldlM (ClientInfo.addMonitor displays) info

/-! ## The loop in closed form -/

def frameInterval (display : Display) : Int := Int.tdiv 1000 display.refreshRate

def clientInfoAt (maximumMonitors : Nat) (displays : List Display) (i : Nat) : ClientInfo :=
  { initialClientInfo maximumMonitors displays with
    minfo := (displays.take i).mapIdx (fun j display => monitorInfo display j) ++
      List.replicate (maximumMonitors - i) .cleared
    sessionWidth := runningMax (fun display => display.geometry.endX) 1 (displays.take i)
    sessionHeight := runningMax (fun display => display.geometry.endY) 1 (displays.take i)
    normalFrameInterval := runningMin frameInterval 16 (displays.take i) }

def finalClientInfo (maximumMonitors : Nat) (displays : List Display) : ClientInfo :=
  clientInfoAt maximumMonitors displays (min displays.length maximumMonitors)

theorem growSession_eq {session : Int} (hpos : 1 ≤ session) (hsession : CInt.InRange session)
    (v : Int) : growSession session (CInt.wrap (CInt.wrap v - 1)) = max session (CInt.wrap v) := by
  have hedge : CInt.wrap (CInt.wrap (CInt.wrap v - 1) + 1) = CInt.wrap v := by
    rw [CInt.wrap_wrap_add, sub_add_cancel, CInt.wrap_of_inRange (CInt.inRange_wrap v)]
  have hrange : CInt.InRange (max session (CInt.wrap v)) := by
    rcases max_choice session (CInt.wrap v) with h | h <;> rw [h]
    · exact hsession
    · exact CInt.inRange_wrap v
  have hnonneg : 0 ≤ max session (CInt.wrap v) := by omega
  rw [growSession, hedge, CInt.wrap_of_inRange hsession,
    CInt.toUnsigned_of_nonneg hnonneg hrange]

theorem inRange_runningMax {ι : Type*} (f : ι → Int) (l : List ι) :
    CInt.InRange (runningMax (fun i => CInt.wrap (f i)) 1 l) := by
  rcases (isGreatest_runningMax (fun i => CInt.wrap (f i)) 1 l).1 with hinit | ⟨i, _, hvalue⟩
  · rw [hinit]
    decide
  · rw [← hvalue]
    exact CInt.inRange_wrap (f i)

theorem div_refreshRate {display : Display} (h : display.refreshRate ≠ 0) :
    CInt.div 1000 display.refreshRate = some (frameInterval display) := by
  have hbound : (frameInterval display).natAbs ≤ 1000 := by
    rw [frameInterval, Int.natAbs_tdiv]
    exact Nat.div_le_self _ _
  have hrange : CInt.InRange (frameInterval display) := by
    constructor <;> omega
  rw [CInt.div, if_neg h]
  exact CInt.check_of_inRange hrange

theorem addMonitor_clientInfoAt {maximumMonitors i : Nat} {displays : List Display}
    {display : Display} (hget : displays[i]? = some display) (hi : i < maximumMonitors)
    (hrate : display.refreshRate ≠ 0) :
    (clientInfoAt maximumMonitors displays i).addMonitor displays i =
      some (clientInfoAt maximumMonitors displays (i + 1)) := by
  have hlt : i < displays.length := (List.getElem?_eq_some_iff.mp hget).1
  have hlength : ((displays.take i).mapIdx fun j display => monitorInfo display j).length = i := by
    rw [List.length_mapIdx, List.length_take_of_le hlt.le]
  have hstore : Loops.storeAt (clientInfoAt maximumMonitors displays i).minfo i
      (monitorInfo display i) =
      some (clientInfoAt maximumMonitors displays (i + 1)).minfo := by
    have hsplit : maximumMonitors - i = maximumMonitors - (i + 1) + 1 := by omega
    have hfill := Loops.storeAt_append_replicate
      ((displays.take i).mapIdx fun j display => monitorInfo display j)
      (maximumMonitors - (i + 1)) .cleared (monitorInfo display i)
    rw [hlength] at hfill
    rw [clientInfoAt, hsplit, hfill, clientInfoAt, take_succ_of_getElem? hget, List.mapIdx_concat,
      List.length_take_of_le hlt.le]
  have hwidth : growSession (clientInfoAt maximumMonitors displays i).sessionWidth
      (monitorInfo display i).right =
      max (clientInfoAt maximumMonitors displays i).sessionWidth display.geometry.endX :=
    growSession_eq (le_runningMax_init _ _ _) (inRange_runningMax _ _) _
  have hheight : growSession (clientInfoAt maximumMonitors displays i).sessionHeight
      (monitorInfo display i).bottom =
      max (clientInfoAt maximumMonitors displays i).sessionHeight display.geometry.endY :=
    growSession_eq (le_runningMax_init _ _ _) (inRange_runningMax _ _) _
  simp only [ClientInfo.addMonitor, hget, hstore, hwidth, hheight, div_refreshRate hrate,
    Option.bind_eq_bind, Option.bind_some]
  simp only [clientInfoAt, take_succ_of_getElem? hget, runningMax_concat, runningMin_concat]

theorem addMonitor_of_zero (info : ClientInfo) {i : Nat} {displays : List Display}
    {display : Display} (hget : displays[i]? = some display) (hrate : display.refreshRate = 0) :
    info.addMonitor displays i = none := by
  rw [ClientInfo.addMonitor, hget]
  simp [CInt.div, hrate]

theorem take_min_length {α : Type*} (l : List α) (n : Nat) :
    l.take (min l.length n) = l.take n := by
  rcases Nat.le_total l.length n with h | h
  · rw [Nat.min_eq_left h, List.take_length, List.take_of_length_le h]
  · rw [Nat.min_eq_right h]

section Final

variable (maximumMonitors : Nat) (displays : List Display)

@[simp] theorem monitorCount_finalClientInfo :
    (finalClientInfo maximumMonitors displays).monitorCount =
      min displays.length maximumMonitors := rfl

@[simp] theorem sessionWidth_finalClientInfo :
    (finalClientInfo maximumMonitors displays).sessionWidth =
      runningMax (fun display => display.geometry.endX) 1 (displays.take maximumMonitors) := by
  rw [finalClientInfo, clientInfoAt, take_min_length]

@[simp] theorem sessionHeight_finalClientInfo :
    (finalClientInfo maximumMonitors displays).sessionHeight =
      runningMax (fun display => display.geometry.endY) 1 (displays.take maximumMonitors) := by
  rw [finalClientInfo, clientInfoAt, take_min_length]

@[simp] theorem normalFrameInterval_finalClientInfo :
    (finalClientInfo maximumMonitors displays).normalFrameInterval =
      runningMin frameInterval 16 (displays.take maximumMonitors) := by
  rw [finalClientInfo, clientInfoAt, take_min_length]

theorem minfo_finalClientInfo :
    (finalClientInfo maximumMonitors displays).minfo =
      ((displays.take maximumMonitors).mapIdx fun i display => monitorInfo display i) ++
        List.replicate (maximumMonitors - min displays.length maximumMonitors) .cleared := by
  rw [finalClientInfo, clientInfoAt, take_min_length]

end Final

/-- The client info is set up unless a refresh rate is zero. -/
theorem setupXupClientInfo_eq_some_iff {maximumMonitors : Nat} {displays : List Display}
    {info : ClientInfo} :
    setupXupClientInfo maximumMonitors displays = some info ↔
      (∀ display ∈ displays.take maximumMonitors, display.refreshRate ≠ 0) ∧
      info = finalClientInfo maximumMonitors displays := by
  have hstart : initialClientInfo maximumMonitors displays =
      clientInfoAt maximumMonitors displays 0 := by
    simp [clientInfoAt, initialClientInfo]
  have hrates : (∀ i < min displays.length maximumMonitors,
        ∀ display, displays[i]? = some display → display.refreshRate ≠ 0) ↔
      ∀ display ∈ displays.take maximumMonitors, display.refreshRate ≠ 0 := by
    simp only [List.mem_iff_getElem?, List.getElem?_take]
    constructor
    · rintro h display ⟨i, hget⟩
      by_cases hi : i < maximumMonitors
      · rw [if_pos hi] at hget
        have hlt := (List.getElem?_eq_some_iff.mp hget).1
        exact h i (by omega) display hget
      · rw [if_neg hi] at hget
        cases hget
    · exact fun h i hi display hget => h display ⟨i, by rw [if_pos (by omega), hget]⟩
  rw [setupXupClientInfo, hstart, ← hrates]
  apply Loops.foldlM_range_eq_some_iff
  · intro i hi hok
    have hbound : i < min displays.length maximumMonitors := hi
    have hget := List.getElem?_eq_getElem (show i < displays.length by omega)
    exact addMonitor_clientInfoAt hget (by omega) (hok _ hget)
  · intro i hi hnot
    simp only [not_forall, not_not] at hnot
    obtain ⟨display, hget, hzero⟩ := hnot
    exact addMonitor_of_zero _ hget hzero

end XrdpLocal.Xup
