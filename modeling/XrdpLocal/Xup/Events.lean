import Mathlib.Data.List.Basic
/-!
# Input handlers and the event queue

The handlers that the Qt thread calls on `XRDPModState`, each as the list of
things it does to the outside: call `mod_event` at once, or append to
`xrdp_events`. `int` and `tbus` arguments are unbounded integers here; the
only arithmetic on them is the `x_scancode - 8` of the keyboard encoding.
-/

namespace XrdpLocal.Xup

/-- The `WM_*` message codes of xrdp that the handlers use. -/
inductive Msg
  | wmMouseMove
  | wmLButtonDown | wmLButtonUp
  | wmRButtonDown | wmRButtonUp
  | wmButton3Down | wmButton3Up
  | wmButton4Down | wmButton4Up
  | wmButton5Down | wmButton5Up
  | wmButton6Down | wmButton6Up
  | wmButton7Down | wmButton7Up
  | wmButton8Down | wmButton8Up
  | wmButton9Down | wmButton9Up
  | wmKeyDown | wmKeyUp
  deriving DecidableEq, Repr

structure XrdpEvent where
  msg : Msg
  param1 : Int
  param2 : Int
  param3 : Int
  param4 : Int
  deriving DecidableEq, Repr

/-- `enum dma_buf_client_notify`: what `mod_send_dma_buf_notify` can send. -/
inductive DmaBufNotify
  | requestActivate
  | notifyActive
  | notifyInactive
  deriving DecidableEq, Repr

inductive InputOp
  | modEvent (e : XrdpEvent)
  | enqueue (e : XrdpEvent)
  deriving DecidableEq, Repr

def InputOp.event : InputOp → XrdpEvent
  | .modEvent e => e
  | .enqueue e => e

/-! ## Mouse -/

def eventMouseMove (x y : Int) : List InputOp :=
  [.modEvent ⟨.wmMouseMove, x, y, 0, 0⟩]

/-- The `switch` of `event_mouse_down`; `none` is its `default` branch. -/
def mouseDownMsg : Int → Option Msg
  | 1 => some .wmLButtonDown
  | 2 => some .wmRButtonDown
  | 4 => some .wmButton3Down
  | 8 => some .wmButton8Down
  | 9 => some .wmButton9Down
  | _ => none

def eventMouseDown (x y button : Int) : List InputOp :=
  match mouseDownMsg button with
  | some event => [.modEvent ⟨event, x, y, 0, 0⟩]
  | none => []

/-- The `switch` of `event_mouse_up`; `none` is its `default` branch. -/
def mouseUpMsg : Int → Option Msg
  | 1 => some .wmLButtonUp
  | 2 => some .wmRButtonUp
  | 4 => some .wmButton3Up
  | 8 => some .wmButton8Up
  | 9 => some .wmButton9Up
  | _ => none

def eventMouseUp (x y button : Int) : List InputOp :=
  match mouseUpMsg button with
  | some event => [.enqueue ⟨event, x, y, 0, 0⟩]
  | none => []

/-- Both scroll handlers queue a press and a release of a wheel button, of
the second pair when the direction is negative. -/
def eventScroll (forward backward : Msg × Msg) (x y direction : Int) : List InputOp :=
  let event := if direction < 0 then backward else forward
  [.enqueue ⟨event.1, x, y, 0, 0⟩, .enqueue ⟨event.2, x, y, 0, 0⟩]

def eventScrollHorizontal : Int → Int → Int → List InputOp :=
  eventScroll (.wmButton6Down, .wmButton6Up) (.wmButton7Down, .wmButton7Up)

def eventScrollVertical : Int → Int → Int → List InputOp :=
  eventScroll (.wmButton4Down, .wmButton4Up) (.wmButton5Down, .wmButton5Up)

/-! ## Keyboard -/

def isExt : Int := 256

/-- `param3` and `param4` of the key event for an X scancode. -/
def keyParams : Int → Int × Int
  | 108 => (56, isExt) -- right alt
  | 105 => (29, isExt) -- right ctrl
  | 127 => (102, 0) -- pause
  | 104 => (28, isExt) -- return (enter on numpad)
  | 106 => (104, isExt) -- /
  | 107 => (55, isExt) -- Print Screen
  | 135 => (93, 0) -- menu
  | 111 => (72, isExt) -- up arrow
  | 113 => (75, isExt) -- left arrow
  | 114 => (77, isExt) -- right arrow
  | 116 => (80, isExt) -- down arrow
  | 112 => (73, isExt) -- page up
  | 117 => (81, isExt) -- page down
  | 110 => (71, isExt) -- home
  | 115 => (79, isExt) -- end
  | 118 => (82, isExt) -- insert
  | 119 => (83, isExt) -- delete
  | xScancode => (xScancode - 8, 0)

def sendKeyEventFromXScancode (eventType : Msg) (xScancode : Int) : List InputOp :=
  let params := keyParams xScancode
  [.enqueue ⟨eventType, 0, 0, params.1, params.2⟩]

def keyDown (scanCode : Int) : List InputOp :=
  sendKeyEventFromXScancode .wmKeyDown scanCode

def keyUp (scanCode : Int) : List InputOp :=
  sendKeyEventFromXScancode .wmKeyUp scanCode

/-! ## Handler calls -/

inductive Handler
  | mouseMove (x y : Int)
  | mouseDown (x y button : Int)
  | mouseUp (x y button : Int)
  | scrollHorizontal (x y direction : Int)
  | scrollVertical (x y direction : Int)
  | keyDown (scanCode : Int)
  | keyUp (scanCode : Int)
  deriving DecidableEq, Repr

def Handler.ops : Handler → List InputOp
  | .mouseMove x y => eventMouseMove x y
  | .mouseDown x y button => eventMouseDown x y button
  | .mouseUp x y button => eventMouseUp x y button
  | .scrollHorizontal x y direction => eventScrollHorizontal x y direction
  | .scrollVertical x y direction => eventScrollVertical x y direction
  | .keyDown scanCode => Xup.keyDown scanCode
  | .keyUp scanCode => Xup.keyUp scanCode

def Handler.events (h : Handler) : List XrdpEvent := h.ops.map InputOp.event

def KnownButton (button : Int) : Prop :=
  button = 1 ∨ button = 2 ∨ button = 4 ∨ button = 8 ∨ button = 9

instance (button : Int) : Decidable (KnownButton button) := by
  unfold KnownButton
  infer_instance

inductive Kind
  | move
  | press
  | release
  | key
  deriving DecidableEq

def Msg.kind : Msg → Kind
  | .wmMouseMove => .move
  | .wmLButtonDown | .wmRButtonDown | .wmButton3Down | .wmButton4Down | .wmButton5Down
  | .wmButton6Down | .wmButton7Down | .wmButton8Down | .wmButton9Down => .press
  | .wmLButtonUp | .wmRButtonUp | .wmButton3Up | .wmButton4Up | .wmButton5Up
  | .wmButton6Up | .wmButton7Up | .wmButton8Up | .wmButton9Up => .release
  | .wmKeyDown | .wmKeyUp => .key

/-- What a call is meant to produce: nothing for an unknown button, a press
and a release for a scroll, one event otherwise. -/
def Handler.expected : Handler → List Kind
  | .mouseMove .. => [.move]
  | .mouseDown _ _ button => if KnownButton button then [.press] else []
  | .mouseUp _ _ button => if KnownButton button then [.release] else []
  | .scrollHorizontal .. | .scrollVertical .. => [.press, .release]
  | .keyDown _ | .keyUp _ => [.key]

theorem isSome_mouseDownMsg (button : Int) :
    (mouseDownMsg button).isSome ↔ KnownButton button := by
  unfold mouseDownMsg KnownButton
  split <;> simp_all

theorem isSome_mouseUpMsg (button : Int) :
    (mouseUpMsg button).isSome ↔ KnownButton button := by
  unfold mouseUpMsg KnownButton
  split <;> simp_all

theorem kind_of_mouseDownMsg {button : Int} {event : Msg}
    (h : mouseDownMsg button = some event) : event.kind = .press := by
  unfold mouseDownMsg at h
  split at h <;> cases h <;> rfl

theorem kind_of_mouseUpMsg {button : Int} {event : Msg}
    (h : mouseUpMsg button = some event) : event.kind = .release := by
  unfold mouseUpMsg at h
  split at h <;> cases h <;> rfl

theorem Handler.kinds_events (h : Handler) :
    h.events.map (fun event => event.msg.kind) = h.expected := by
  cases h with
  | mouseMove x y => rfl
  | mouseDown x y button =>
      have hknown := isSome_mouseDownMsg button
      cases hmsg : mouseDownMsg button with
      | none => simp_all [events, ops, eventMouseDown, expected]
      | some event =>
          have hkind := kind_of_mouseDownMsg hmsg
          simp_all [events, ops, eventMouseDown, expected, InputOp.event]
  | mouseUp x y button =>
      have hknown := isSome_mouseUpMsg button
      cases hmsg : mouseUpMsg button with
      | none => simp_all [events, ops, eventMouseUp, expected]
      | some event =>
          have hkind := kind_of_mouseUpMsg hmsg
          simp_all [events, ops, eventMouseUp, expected, InputOp.event]
  | scrollHorizontal x y direction | scrollVertical x y direction =>
      by_cases hdir : direction < 0 <;>
        simp [events, ops, eventScrollHorizontal, eventScrollVertical, eventScroll, hdir,
          expected, InputOp.event, Msg.kind]
  | keyDown scanCode | keyUp scanCode => rfl

/-! ## Queued and direct kinds -/

/-- The messages whose handlers go through `xrdp_events`: releases, wheel
buttons and keys. Moves and presses of the other buttons do not. -/
def Msg.queued : Msg → Bool
  | .wmMouseMove | .wmLButtonDown | .wmRButtonDown | .wmButton3Down
  | .wmButton8Down | .wmButton9Down => false
  | _ => true

def InputOp.Sorted : InputOp → Prop
  | .modEvent e => e.msg.queued = false
  | .enqueue e => e.msg.queued = true

theorem queued_of_mouseDownMsg {button : Int} {event : Msg}
    (h : mouseDownMsg button = some event) : event.queued = false := by
  unfold mouseDownMsg at h
  split at h <;> cases h <;> rfl

theorem queued_of_mouseUpMsg {button : Int} {event : Msg}
    (h : mouseUpMsg button = some event) : event.queued = true := by
  unfold mouseUpMsg at h
  split at h <;> cases h <;> rfl

theorem Handler.sorted_ops (h : Handler) : ∀ op ∈ h.ops, op.Sorted := by
  cases h with
  | mouseMove x y => simp [ops, eventMouseMove, InputOp.Sorted, Msg.queued]
  | mouseDown x y button =>
      cases hmsg : mouseDownMsg button with
      | none => simp [ops, eventMouseDown, hmsg]
      | some event =>
          simp [ops, eventMouseDown, hmsg, InputOp.Sorted, queued_of_mouseDownMsg hmsg]
  | mouseUp x y button =>
      cases hmsg : mouseUpMsg button with
      | none => simp [ops, eventMouseUp, hmsg]
      | some event =>
          simp [ops, eventMouseUp, hmsg, InputOp.Sorted, queued_of_mouseUpMsg hmsg]
  | scrollHorizontal x y direction =>
      by_cases hdir : direction < 0 <;>
        simp [ops, eventScrollHorizontal, eventScroll, hdir, InputOp.Sorted, Msg.queued]
  | scrollVertical x y direction =>
      by_cases hdir : direction < 0 <;>
        simp [ops, eventScrollVertical, eventScroll, hdir, InputOp.Sorted, Msg.queued]
  | keyDown scanCode =>
      simp [ops, Xup.keyDown, sendKeyEventFromXScancode, InputOp.Sorted, Msg.queued]
  | keyUp scanCode =>
      simp [ops, Xup.keyUp, sendKeyEventFromXScancode, InputOp.Sorted, Msg.queued]

/-! ## The shared members of `XRDPModState` -/

/-- The members that the Qt thread and the communicator thread share on the
input path. `modEvent` says whether `xup_mod->mod_event` is non-null. -/
structure XrdpModState where
  modEvent : Bool
  dmaBufSupportedInLibxup : Bool
  xrdpEvents : List XrdpEvent := []
  doRequestDmaBuf : Bool := false

def XrdpModState.enqueueXrdpEvent (st : XrdpModState) (event : XrdpEvent) : XrdpModState :=
  if st.modEvent then { st with xrdpEvents := st.xrdpEvents ++ [event] } else st

def XrdpModState.requestDmaBuf (st : XrdpModState) : XrdpModState :=
  if st.dmaBufSupportedInLibxup then { st with doRequestDmaBuf := true } else st

@[simp] theorem modEvent_enqueueXrdpEvent (st : XrdpModState) (event : XrdpEvent) :
    (st.enqueueXrdpEvent event).modEvent = st.modEvent := by
  unfold XrdpModState.enqueueXrdpEvent
  split <;> rfl

theorem xrdpEvents_enqueueXrdpEvent {st : XrdpModState} (hmod : st.modEvent = true)
    (event : XrdpEvent) :
    (st.enqueueXrdpEvent event).xrdpEvents = st.xrdpEvents ++ [event] := by
  simp [XrdpModState.enqueueXrdpEvent, hmod]

@[simp] theorem modEvent_requestDmaBuf (st : XrdpModState) :
    st.requestDmaBuf.modEvent = st.modEvent := by
  unfold XrdpModState.requestDmaBuf
  split <;> rfl

@[simp] theorem xrdpEvents_requestDmaBuf (st : XrdpModState) :
    st.requestDmaBuf.xrdpEvents = st.xrdpEvents := by
  unfold XrdpModState.requestDmaBuf
  split <;> rfl

end XrdpLocal.Xup
