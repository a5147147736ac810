import XrdpLocal.Library.Ledger
import XrdpLocal.Library.Trace
import XrdpLocal.Xup.ClientInfo
import XrdpLocal.Xup.Feedback
/-!
# Start-up of the program

The constructors of `XRDPModState` and `XRDPLocalState`, call by call. Loader,
libxup and system end their calls in any way. The first call that fails ends
the construction with its text, and nobody gives back what was acquired before
it (`allOrNothing_iff_connects`). libxup never gets to call a function that it
has not been told about, and the feedback file descriptor hears of a
connection exactly when there is one.
-/

namespace XrdpLocal.Construction

open Ledger (holding)
open Trace
open XrdpLocal.Qt (Display)
open XrdpLocal.Xup (ClientInfo setupXupClientInfo)

inductive Symbol
  | modInit
  | modExit
  deriving DecidableEq, Repr

/-- How the calls end. Null pointers are `none`, and `thread` has the text of
the `std::system_error`. -/
structure System where
  dlopen : Option Nat
  dlsym : Symbol → Bool
  modInit : Option Nat
  modStart : Int → Int → Int → Int
  modConnect : Int
  modEvent : Bool
  thread : Except String Unit

inductive Resource
  | log
  | library (handle : Nat)
  | mod (pointer : Nat)
  | thread
  deriving DecidableEq, Repr

/-- Calls that leave the program, and the two assignments that libxup sees. -/
inductive Call
  | logStart
  | dlopen
  | dlsym (symbol : Symbol)
  | modInit
  | setWm
  | setupXupFunctions
  | modStart (width height bpp : Int)
  | modSetClientInfo (clientInfo : ClientInfo)
  | modSetPort (socketPath : List UInt8)
  | modConnect
  | keyboardSync
  | startThread
  | feedback (received : List UInt8)
  | launch
  | stop
  | join
  | modExit
  | dlclose
  | logEnd
  deriving DecidableEq

inductive Fault
  | exception (what : String)
  | undefined
  deriving DecidableEq

structure World where
  ledger : Ledger Resource := {}
  calls : List Call := []

abbrev XupM := EStateM Fault World

def call (c : Call) : XupM Unit := modify fun w => { w with calls := w.calls ++ [c] }

def hold (r : Resource) : XupM Unit := modify fun w => { w with ledger := w.ledger.acquire r }

def giveBack (r : Resource) : XupM Unit :=
  modify fun w => { w with ledger := w.ledger.release r }

structure ModState where
  modDl : Nat
  xupMod : Nat
  deriving DecidableEq

section Constructors

variable (system : System) (maximumMonitors : Nat) (displays : List Display)
  (socketPath : List UInt8)

def setupXupMod : XupM Unit := do
  let some clientInfo := setupXupClientInfo maximumMonitors displays
    | throw .undefined
  call .setupXupFunctions
  let display :: _ := displays
    | throw (.exception "No displays found.")
  call (.modStart display.width display.height 32)
  if system.modStart display.width display.height 32 ≠ 0 then
    throw (.exception "Failed to start xup mod.")
  call (.modSetClientInfo clientInfo)
  call (.modSetPort socketPath)
  call .modConnect
  if system.modConnect ≠ 0 then
    throw (.exception "Failed to connect to xup mod.")
  if system.modEvent then
    call .keyboardSync
  call .startThread
  match system.thread with
  | .error what => throw (.exception what)
  | .ok () => hold .thread

/-- The constructor of `XRDPModState`. The check for DMA-BUF support only reads
the memory map. -/
def newModState : XupM ModState := do
  hold .log
  call .logStart
  call .dlopen
  let some modDl := system.dlopen
    | throw (.exception "Failed to open libxup.so.")
  hold (.library modDl)
  call (.dlsym .modInit)
  call (.dlsym .modExit)
  if !system.dlsym .modInit || !system.dlsym .modExit then
    throw (.exception "Failed to get mod_init or mod_exit symbol.")
  call .modInit
  let some xupMod := system.modInit
    | throw (.exception "Failed to initialize xup mod.")
  hold (.mod xupMod)
  call .setWm
  setupXupMod system maximumMonitors displays socketPath
  return ⟨modDl, xupMod⟩

def deleteModState (this : ModState) : XupM Unit := do
  call .stop
  call .join
  giveBack .thread
  call .modExit
  giveBack (.mod this.xupMod)
  call .dlclose
  giveBack (.library this.modDl)
  call .logEnd
  giveBack .log

def connected : List UInt8 := [99, 111, 110, 110, 101, 99, 116, 101, 100]

/-- The constructor of `XRDPLocalState`, after that of `QtState`. -/
def newLocalState (write : List UInt8 → Option Nat) (stack : Vector UInt8 Feedback.bufSize)
    (feedbackFd : Int) : XupM ModState := do
  let xup ← newModState system maximumMonitors displays socketPath
  let some outcome := Feedback.notifyFeedbackFd write stack feedbackFd connected
    | throw .undefined
  call (.feedback outcome.received)
  call .launch
  return xup

end Constructors

/-! ## What the calls do -/

section Runs

variable (w : World)

@[simp] theorem run_call (c : Call) :
    (call c).run w = .ok () { w with calls := w.calls ++ [c] } := rfl

@[simp] theorem run_hold (r : Resource) :
    (hold r).run w = .ok () { w with ledger := w.ledger.acquire r } := rfl

@[simp] theorem run_giveBack (r : Resource) :
    (giveBack r).run w = .ok () { w with ledger := w.ledger.release r } := rfl

@[simp] theorem run_map_call {α : Type} (f : Unit → α) (c : Call) :
    (f <$> call c).run w = .ok (f ()) { w with calls := w.calls ++ [c] } := rfl

@[simp] theorem run_map_hold {α : Type} (f : Unit → α) (r : Resource) :
    (f <$> hold r).run w = .ok (f ()) { w with ledger := w.ledger.acquire r } := rfl

@[simp] theorem run_throw (α : Type) (fault : Fault) :
    (throw fault : XupM α).run w = .error fault w := rfl

@[simp] theorem run_map_throw {α β : Type} (f : α → β) (fault : Fault) :
    (f <$> (throw fault : XupM α)).run w = .error fault w := rfl

variable {w} {w' : World} {α β : Type} {x : XupM α}

theorem run_bind_of_ok {a : α} {f : α → XupM β} (h : x.run w = .ok a w') :
    (x >>= f).run w = (f a).run w' := by
  rw [EStateM.run_bind, h]

theorem run_bind_of_error {fault : Fault} {f : α → XupM β} (h : x.run w = .error fault w') :
    (x >>= f).run w = .error fault w' := by
  rw [EStateM.run_bind, h]

end Runs

/-- All calls of the constructor, as far as their arguments exist. -/
def script (system : System) (maximumMonitors : Nat) (displays : List Display)
    (socketPath : List UInt8) : List Call :=
  [.logStart, .dlopen, .dlsym .modInit, .dlsym .modExit, .modInit, .setWm] ++
    match setupXupClientInfo maximumMonitors displays, displays with
    | some clientInfo, display :: _ =>
        [.setupXupFunctions, .modStart display.width display.height 32,
            .modSetClientInfo clientInfo, .modSetPort socketPath, .modConnect] ++
          (if system.modEvent then [.keyboardSync] else []) ++ [.startThread]
    | some _, [] => [.setupXupFunctions]
    | none, _ => []

structure Connects (system : System) (maximumMonitors : Nat) (displays : List Display) : Prop where
  dlopen : system.dlopen.isSome
  dlsym : ∀ symbol, system.dlsym symbol = true
  modInit : system.modInit.isSome
  clientInfo : (setupXupClientInfo maximumMonitors displays).isSome
  started : ∃ display rest, displays = display :: rest ∧
    system.modStart display.width display.height 32 = 0
  connected : system.modConnect = 0
  thread : system.thread = .ok ()

/-! ## The constructor of `XRDPModState` -/

section ModState

variable {system : System} {maximumMonitors : Nat} {displays : List Display}
  (socketPath : List UInt8)

theorem run_newModState_of_connects (h : Connects system maximumMonitors displays) :
    ∃ this, (newModState system maximumMonitors displays socketPath).run {} =
      .ok this ⟨holding [.thread, .mod this.xupMod, .library this.modDl, .log],
        script system maximumMonitors displays socketPath⟩ := by
  obtain ⟨modDl, hdlopen⟩ := Option.isSome_iff_exists.mp h.dlopen
  obtain ⟨xupMod, hmodInit⟩ := Option.isSome_iff_exists.mp h.modInit
  obtain ⟨clientInfo, hinfo⟩ := Option.isSome_iff_exists.mp h.clientInfo
  obtain ⟨display, rest, rfl, hstart⟩ := h.started
  refine ⟨⟨modDl, xupMod⟩, ?_⟩
  cases hevent : system.modEvent <;>
    simp [newModState, setupXupMod, script, hdlopen, h.dlsym, hmodInit, hinfo, hstart,
      h.connected, hevent, h.thread, Ledger.acquire, holding]

theorem run_newModState_throws (h : ¬ Connects system maximumMonitors displays) :
    ∃ fault w, (newModState system maximumMonitors displays socketPath).run {} = .error fault w ∧
      .log ∈ w.ledger.live ∧ w.calls <+: script system maximumMonitors displays socketPath := by
  unfold newModState setupXupMod script
  -- one case for each call that can end the construction, in the order of the calls
  rcases hdlopen : system.dlopen with _ | modDl
  · simp [Ledger.acquire]
  rcases hinit : system.dlsym .modInit with _ | _
  · simp [Ledger.acquire]
  rcases hexit : system.dlsym .modExit with _ | _
  · simp [Ledger.acquire]
  rcases hmodInit : system.modInit with _ | xupMod
  · simp [Ledger.acquire]
  rcases hinfo : setupXupClientInfo maximumMonitors displays with _ | clientInfo
  · simp [Ledger.acquire]
  rcases displays with _ | ⟨display, rest⟩
  · simp [Ledger.acquire]
  by_cases hstart : system.modStart display.width display.height 32 = 0
  swap
  · simp [hstart, Ledger.acquire]
  by_cases hconnect : system.modConnect = 0
  swap
  · simp [hstart, hconnect, Ledger.acquire]
  rcases hthread : system.thread with what | _
  · cases hevent : system.modEvent <;> simp [hstart, hconnect, Ledger.acquire]
  · have hdlsym : ∀ symbol, system.dlsym symbol = true := fun symbol => by
      cases symbol <;> assumption
    exact absurd ⟨by simp [hdlopen], hdlsym, by simp [hmodInit], by simp [hinfo],
      ⟨display, rest, rfl, hstart⟩, hconnect, hthread⟩ h

/-- A constructor that throws has given back everything, and the destructor
after one that returns gives back everything once, the most recent first. -/
def AllOrNothing (construct : XupM ModState) : Prop :=
  match construct.run {} with
  | .ok this w => ∃ w', (deleteModState this).run w = .ok () w' ∧ w'.ledger.Settled ∧
      w'.ledger.released = w'.ledger.acquired.reverse
  | .error _ w => w.ledger.live = []

theorem run_deleteModState (this : ModState) (w : World) :
    (deleteModState this).run w = .ok ()
      ⟨w.ledger.releaseAll [.thread, .mod this.xupMod, .library this.modDl, .log],
        w.calls ++ [.stop, .join, .modExit, .dlclose, .logEnd]⟩ := by
  simp [deleteModState]

/-- Every failing call leaks, at least the logger. -/
theorem allOrNothing_iff_connects :
    (AllOrNothing (newModState system maximumMonitors displays socketPath) ↔
      Connects system maximumMonitors displays) ∧
    ∀ fault w, (newModState system maximumMonitors displays socketPath).run {} = .error fault w →
      .log ∈ w.ledger.live := by
  refine ⟨?_, fun fault w hfault => ?_⟩
  swap
  · by_cases hconnects : Connects system maximumMonitors displays
    · obtain ⟨this, hrun⟩ := run_newModState_of_connects socketPath hconnects
      rw [hrun] at hfault
      cases hfault
    · obtain ⟨fault', w', hrun, hlog, -⟩ := run_newModState_throws socketPath hconnects
      rw [hrun] at hfault
      cases hfault
      exact hlog
  unfold AllOrNothing
  constructor
  · intro hall
    by_contra hconnects
    obtain ⟨fault, w, hrun, hlog, -⟩ := run_newModState_throws socketPath hconnects
    rw [hrun] at hall
    rw [show w.ledger.live = [] from hall] at hlog
    cases hlog
  · intro hconnects
    obtain ⟨this, hrun⟩ := run_newModState_of_connects socketPath hconnects
    rw [hrun]
    have hnodup : [Resource.thread, .mod this.xupMod, .library this.modDl, .log].Nodup := by simp
    refine ⟨_, run_deleteModState this _, ?_, ?_⟩
    · exact Ledger.settled_releaseAll hnodup hnodup (List.Subset.refl _)
    · rw [Ledger.released_releaseAll, Ledger.acquired_releaseAll]
      simp

end ModState

/-! ## The constructor of `XRDPLocalState` -/

/-- libxup can call back from here. -/
def Call.mayCallBack : Call → Bool
  | .modStart _ _ _ | .modSetClientInfo _ | .modSetPort _ | .modConnect | .keyboardSync
  | .startThread => true
  | _ => false

@[mk_iff] structure Ready (before : List Call) (c : Call) : Prop where
  callbacks : c.mayCallBack → .setWm ∈ before ∧ .setupXupFunctions ∈ before
  connect : c = .modConnect → (∃ width height, .modStart width height 32 ∈ before) ∧
    (∃ clientInfo, .modSetClientInfo clientInfo ∈ before) ∧
    ∃ socketPath, .modSetPort socketPath ∈ before
  connected : c = .keyboardSync ∨ c = .startThread → .modConnect ∈ before
  announced : ∀ received, c = .feedback received → .startThread ∈ before
  launch : c = .launch → ∃ received, .feedback received ∈ before

def callsOf {α : Type} : EStateM.Result Fault World α → List Call
  | .ok _ w => w.calls
  | .error _ w => w.calls

section LocalState

variable {system : System} {maximumMonitors : Nat} {displays : List Display}
  (socketPath : List UInt8) (write : List UInt8 → Option Nat)
  (stack : Vector UInt8 Feedback.bufSize) (feedbackFd : Int)

/-- The text has room in the buffer. -/
theorem notifyFeedbackFd_connected :
    ∃ outcome, Feedback.notifyFeedbackFd write stack feedbackFd connected = some outcome := by
  by_cases hfd : feedbackFd < 0
  · exact ⟨_, if_pos hfd⟩
  · rw [Feedback.notifyFeedbackFd_of_lt (Int.not_lt.mp hfd) (by decide), if_pos (by decide)]
    exact ⟨_, rfl⟩

theorem run_newLocalState_of_connects (h : Connects system maximumMonitors displays) :
    ∃ outcome this w,
      Feedback.notifyFeedbackFd write stack feedbackFd connected = some outcome ∧
      (newLocalState system maximumMonitors displays socketPath write stack feedbackFd).run {} =
        .ok this w ∧
      w.calls = script system maximumMonitors displays socketPath ++
        [.feedback outcome.received, .launch] := by
  obtain ⟨this, hrun⟩ := run_newModState_of_connects socketPath h
  obtain ⟨outcome, houtcome⟩ := notifyFeedbackFd_connected write stack feedbackFd
  refine ⟨outcome, this, ?_⟩
  rw [newLocalState, run_bind_of_ok hrun, houtcome]
  simp

theorem run_newLocalState_throws (h : ¬ Connects system maximumMonitors displays) :
    ∃ fault w,
      (newLocalState system maximumMonitors displays socketPath write stack feedbackFd).run {} =
        .error fault w ∧ w.calls <+: script system maximumMonitors displays socketPath := by
  obtain ⟨fault, w, hrun, -, hcalls⟩ := run_newModState_throws socketPath h
  exact ⟨fault, w, run_bind_of_error hrun, hcalls⟩

theorem each_ready_announced (h : Connects system maximumMonitors displays)
    (received : List UInt8) :
    Each Ready (script system maximumMonitors displays socketPath ++
      [.feedback received, .launch]) := by
  obtain ⟨clientInfo, hinfo⟩ := Option.isSome_iff_exists.mp h.clientInfo
  obtain ⟨display, rest, rfl, -⟩ := h.started
  simp only [script, hinfo]
  cases system.modEvent
  · simp [each_cons, each_nil, ready_iff, Call.mayCallBack]
  · simp [each_cons, each_nil, ready_iff, Call.mayCallBack]

theorem each_ready_script :
    Each Ready (script system maximumMonitors displays socketPath) := by
  unfold script
  split
  · cases system.modEvent <;> simp [each_cons, each_nil, ready_iff, Call.mayCallBack]
  · simp [each_cons, each_nil, ready_iff, Call.mayCallBack]
  · simp [each_cons, each_nil, ready_iff, Call.mayCallBack]

theorem feedback_not_mem_script (received : List UInt8) :
    .feedback received ∉ script system maximumMonitors displays socketPath := by
  unfold script
  split
  · cases system.modEvent <;> simp
  · simp
  · simp

/-- However the construction ends, libxup was told about the callbacks before
any call that can use them, and nothing was connected, announced or launched
before what it rests on. -/
theorem startup_ready :
    Each Ready (callsOf ((newLocalState system maximumMonitors displays socketPath write stack
      feedbackFd).run {})) := by
  by_cases hconnects : Connects system maximumMonitors displays
  · obtain ⟨outcome, this, w, -, hrun, hcalls⟩ :=
      run_newLocalState_of_connects socketPath write stack feedbackFd hconnects
    rw [hrun, callsOf, hcalls]
    exact each_ready_announced socketPath hconnects outcome.received
  · obtain ⟨fault, w, hrun, hcalls⟩ :=
      run_newLocalState_throws socketPath write stack feedbackFd hconnects
    rw [hrun]
    exact (each_ready_script socketPath).of_isPrefix hcalls

/-- The reader of the file descriptor hears of a connection exactly when there
is one. -/
theorem announced_iff_connects (hfd : 0 ≤ feedbackFd) (received : List UInt8) :
    .feedback received ∈ callsOf ((newLocalState system maximumMonitors displays socketPath
        Feedback.writeAll stack feedbackFd).run {}) ↔
      Connects system maximumMonitors displays ∧ received = connected ++ [Feedback.newline] := by
  have hnone : .feedback received ∉ script system maximumMonitors displays socketPath :=
    feedback_not_mem_script socketPath received
  by_cases hconnects : Connects system maximumMonitors displays
  · obtain ⟨outcome, this, w, houtcome, hrun, hcalls⟩ :=
      run_newLocalState_of_connects socketPath Feedback.writeAll stack feedbackFd hconnects
    rw [Feedback.notifyFeedbackFd_line hfd (by decide)] at houtcome
    obtain rfl := Option.some.inj houtcome
    rw [hrun, callsOf, hcalls]
    simp [hnone, hconnects]
  · obtain ⟨fault, w, hrun, hcalls⟩ :=
      run_newLocalState_throws socketPath Feedback.writeAll stack feedbackFd hconnects
    rw [hrun]
    simp only [hconnects, false_and, iff_false]
    exact fun hmem => hnone (hcalls.subset hmem)

end LocalState

def working : System where
  dlopen := some 1
  dlsym _ := true
  modInit := some 2
  modStart _ _ _ := 0
  modConnect := 0
  modEvent := true
  thread := .ok ()

theorem announced_iff_connects_oneDisplay :
    .feedback (connected ++ [Feedback.newline]) ∈
      callsOf ((newLocalState working 16 [⟨0, 0, 1920, 1080, 510, 290, 0, 60⟩] [47, 120]
        Feedback.writeAll (Vector.replicate Feedback.bufSize 7) 3).run {}) := by
  refine (announced_iff_connects _ _ 3 (by decide) _).mpr ⟨?_, rfl⟩
  exact ⟨rfl, fun _ => rfl, rfl, by decide, ⟨_, _, rfl, rfl⟩, rfl, rfl⟩

end XrdpLocal.Construction
