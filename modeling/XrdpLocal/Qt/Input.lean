import XrdpLocal.Library.CInt
import XrdpLocal.Library.Keys
import XrdpLocal.Qt.Screens
import XrdpLocal.Xup.InputOrder
import XrdpLocal.Xup.Keyboard
/-!
# What the server sees of the user

The event functions of `QtWindow` on top of the input path. The user presses
keys and, with some of them held, uses the mouse; the server learns of it from
the `mod_event` calls. Whatever the communicator thread does in between, the
server holds the keys that the user has held at an earlier time, and it sees
each wheel notch and each button release with the keys of the user.
-/

namespace XrdpLocal.Input

open Keys StateMachine
open XrdpLocal.Qt (truncate)
open XrdpLocal.Xup

/-! ## The window -/

/-- `Qt::MouseButton`. Qt knows more buttons than the window does. -/
inductive MouseButton
  | left | right | middle | back | forward
  | other (code : Nat)
  deriving DecidableEq, Repr

structure QPoint where
  x : Int
  y : Int
  deriving DecidableEq, Repr

structure QPointF (K : Type) where
  x : K
  y : K

inductive QtEvent (K : Type)
  | mousePress (position : QPointF K) (button : MouseButton)
  | mouseRelease (position : QPointF K) (button : MouseButton)
  | mouseMove (position : QPointF K)
  | wheel (position : QPointF K) (pixelDelta : QPoint)
  | keyPress (nativeScanCode : UInt32)
  | keyRelease (nativeScanCode : UInt32)

def qtMouseButtonToXrdpMouseButton : MouseButton → Int
  | .left => 1
  | .right => 2
  | .middle => 4
  | .back => 8
  | .forward => 9
  | .other _ => -1

section Window

variable {K : Type} [Ring K] [LinearOrder K] [FloorRing K]

def mousePressEvent (position : QPointF K) (button : MouseButton) : List Handler :=
  let xButton := qtMouseButtonToXrdpMouseButton button
  if xButton = -1 then [] else [.mouseDown (truncate position.x) (truncate position.y) xButton]

def mouseReleaseEvent (position : QPointF K) (button : MouseButton) : List Handler :=
  let xButton := qtMouseButtonToXrdpMouseButton button
  if xButton = -1 then [] else [.mouseUp (truncate position.x) (truncate position.y) xButton]

def mouseMoveEvent (position : QPointF K) : List Handler :=
  [.mouseMove (truncate position.x) (truncate position.y)]

def wheelEvent (position : QPointF K) (pixelDelta : QPoint) : List Handler :=
  (if pixelDelta.y ≠ 0 then
    [.scrollVertical (truncate position.x) (truncate position.y)
      (if 0 < pixelDelta.y then 1 else -1)]
  else []) ++
  (if pixelDelta.x ≠ 0 then
    [.scrollHorizontal (truncate position.x) (truncate position.y)
      (if 0 < pixelDelta.x then 1 else -1)]
  else [])

/-- The scan code of Qt is a `quint32`, that of the handler an `int`. -/
def keyPressEvent (nativeScanCode : UInt32) : List Handler :=
  [.keyDown (CInt.wrap nativeScanCode.toNat)]

def keyReleaseEvent (nativeScanCode : UInt32) : List Handler :=
  [.keyUp (CInt.wrap nativeScanCode.toNat)]

def QtEvent.handlers : QtEvent K → List Handler
  | .mousePress position button => mousePressEvent position button
  | .mouseRelease position button => mouseReleaseEvent position button
  | .mouseMove position => mouseMoveEvent position
  | .wheel position pixelDelta => wheelEvent position pixelDelta
  | .keyPress nativeScanCode => keyPressEvent nativeScanCode
  | .keyRelease nativeScanCode => keyReleaseEvent nativeScanCode

def QtEvent.messages (event : QtEvent K) : List XrdpEvent :=
  event.handlers.flatMap Handler.events

end Window

/-! ## What the user does, and what the server reads -/

inductive Button
  | left | right | middle | back | forward
  deriving DecidableEq, Repr

inductive Wheel
  | up | down | left | right
  deriving DecidableEq, Repr

/-- What the user does with the mouse, at a pixel. -/
inductive Act
  | move (x y : Int)
  | press (button : Button) (x y : Int)
  | release (button : Button) (x y : Int)
  | notch (wheel : Wheel) (x y : Int)
  deriving DecidableEq, Repr

def MouseButton.button? : MouseButton → Option Button
  | .left => some .left
  | .right => some .right
  | .middle => some .middle
  | .back => some .back
  | .forward => some .forward
  | .other _ => none

/-- Up and left are the directions of positive deltas. -/
def QPoint.notches (delta : QPoint) : List Wheel :=
  (if delta.y = 0 then [] else if 0 < delta.y then [.up] else [.down]) ++
  (if delta.x = 0 then [] else if 0 < delta.x then [.left] else [.right])

section Acts

variable {K : Type} [Ring K] [LinearOrder K] [FloorRing K]

def QtEvent.acts : QtEvent K → List Act
  | .mousePress position button =>
      (button.button?.map fun b => .press b (truncate position.x) (truncate position.y)).toList
  | .mouseRelease position button =>
      (button.button?.map fun b => .release b (truncate position.x) (truncate position.y)).toList
  | .mouseMove position => [.move (truncate position.x) (truncate position.y)]
  | .wheel position pixelDelta =>
      pixelDelta.notches.map fun wheel =>
        .notch wheel (truncate position.x) (truncate position.y)
  | .keyPress _ | .keyRelease _ => []

def QtEvent.signals : QtEvent K → List (Signal Int Act)
  | .keyPress nativeScanCode => [.down (CInt.wrap nativeScanCode.toNat)]
  | .keyRelease nativeScanCode => [.up (CInt.wrap nativeScanCode.toNat)]
  | event => event.acts.map .other

end Acts

def Button.press : Button → Msg
  | .left => .wmLButtonDown
  | .right => .wmRButtonDown
  | .middle => .wmButton3Down
  | .back => .wmButton8Down
  | .forward => .wmButton9Down

def Button.release : Button → Msg
  | .left => .wmLButtonUp
  | .right => .wmRButtonUp
  | .middle => .wmButton3Up
  | .back => .wmButton8Up
  | .forward => .wmButton9Up

def Wheel.press : Wheel → Msg
  | .up => .wmButton4Down
  | .down => .wmButton5Down
  | .left => .wmButton6Down
  | .right => .wmButton7Down

def Wheel.release : Wheel → Msg
  | .up => .wmButton4Up
  | .down => .wmButton5Up
  | .left => .wmButton6Up
  | .right => .wmButton7Up

/-- A notch is a click of a wheel button. -/
def Act.messages : Act → List XrdpEvent
  | .move x y => [⟨.wmMouseMove, x, y, 0, 0⟩]
  | .press button x y => [⟨button.press, x, y, 0, 0⟩]
  | .release button x y => [⟨button.release, x, y, 0, 0⟩]
  | .notch wheel x y => [⟨wheel.press, x, y, 0, 0⟩, ⟨wheel.release, x, y, 0, 0⟩]

def signal (message : XrdpEvent) : Signal (Int × Int) XrdpEvent :=
  match message.msg with
  | .wmKeyDown => .down (message.param3, message.param4)
  | .wmKeyUp => .up (message.param3, message.param4)
  | _ => .other message

/-- What the user does, as a server that reads the messages of a class should
read it. -/
def spelled (p : XrdpEvent → Bool) : Signal Int Act → List (Signal (Int × Int) XrdpEvent) :=
  transcribe keyParams fun act => act.messages.filter p

def HasKeys (p : XrdpEvent → Bool) : Prop :=
  ∀ message, message.msg.kind = .key → p message = true

theorem signal_keyDown (scanCode : Int) :
    signal ⟨.wmKeyDown, 0, 0, (keyParams scanCode).1, (keyParams scanCode).2⟩ =
      .down (keyParams scanCode) := rfl

theorem signal_keyUp (scanCode : Int) :
    signal ⟨.wmKeyUp, 0, 0, (keyParams scanCode).1, (keyParams scanCode).2⟩ =
      .up (keyParams scanCode) := rfl

theorem signal_of_ne_key {message : XrdpEvent} (h : message.msg.kind ≠ .key) :
    signal message = .other message := by
  unfold signal
  split
  · next hmsg => exact absurd (by rw [hmsg]; rfl) h
  · next hmsg => exact absurd (by rw [hmsg]; rfl) h
  · rfl

theorem kind_messages_act (act : Act) : ∀ message ∈ act.messages, message.msg.kind ≠ .key := by
  cases act with
  | move x y => simp [Act.messages, Msg.kind]
  | press button x y | release button x y =>
      cases button <;> simp [Act.messages, Button.press, Button.release, Msg.kind]
  | notch wheel x y =>
      cases wheel <;> simp [Act.messages, Wheel.press, Wheel.release, Msg.kind]

theorem signal_messages_act (p : XrdpEvent → Bool) (act : Act) :
    (act.messages.filter p).map signal = (act.messages.filter p).map .other := by
  apply List.map_congr_left
  intro message hmessage
  exact signal_of_ne_key (kind_messages_act act message (List.mem_of_mem_filter hmessage))

section Events

variable {K : Type} [Ring K] [LinearOrder K] [FloorRing K]

theorem flatMap_events_scroll (scroll : Int → Handler) (wheel wheel' : Wheel) {x y : Int}
    (hpos : (scroll 1).events = (Act.notch wheel x y).messages)
    (hneg : (scroll (-1)).events = (Act.notch wheel' x y).messages) (delta : Int) :
    (if delta ≠ 0 then [scroll (if 0 < delta then 1 else -1)] else []).flatMap Handler.events =
      (if delta = 0 then [] else if 0 < delta then [wheel] else [wheel']).flatMap fun wheel =>
        (Act.notch wheel x y).messages := by
  by_cases hdelta : delta = 0
  · simp [hdelta]
  · by_cases hsign : 0 < delta
    · simp [hdelta, hsign, hpos]
    · simp [hdelta, hsign, hneg]

theorem messages_wheel (position : QPointF K) (delta : QPoint) :
    (QtEvent.wheel position delta).messages =
      (QtEvent.wheel position delta).acts.flatMap Act.messages := by
  have hvertical := flatMap_events_scroll
    (.scrollVertical (truncate position.x) (truncate position.y)) .up .down rfl rfl delta.y
  have hhorizontal := flatMap_events_scroll
    (.scrollHorizontal (truncate position.x) (truncate position.y)) .left .right rfl rfl delta.x
  rw [QtEvent.messages, QtEvent.handlers, wheelEvent, List.flatMap_append, hvertical,
    hhorizontal, QtEvent.acts, QPoint.notches, List.flatMap_map, List.flatMap_append]

theorem messages_keyPress (nativeScanCode : UInt32) :
    (QtEvent.keyPress nativeScanCode : QtEvent K).messages =
      [⟨.wmKeyDown, 0, 0, (keyParams (CInt.wrap nativeScanCode.toNat)).1,
        (keyParams (CInt.wrap nativeScanCode.toNat)).2⟩] := rfl

theorem messages_keyRelease (nativeScanCode : UInt32) :
    (QtEvent.keyRelease nativeScanCode : QtEvent K).messages =
      [⟨.wmKeyUp, 0, 0, (keyParams (CInt.wrap nativeScanCode.toNat)).1,
        (keyParams (CInt.wrap nativeScanCode.toNat)).2⟩] := rfl

theorem messages_of_signals_eq {event : QtEvent K}
    (h : event.signals = event.acts.map .other) :
    event.messages = event.acts.flatMap Act.messages := by
  cases event with
  | mousePress position button | mouseRelease position button => cases button <;> rfl
  | mouseMove position => rfl
  | wheel position delta => exact messages_wheel position delta
  | keyPress code | keyRelease code => cases h

theorem signal_flatMap_messages (p : XrdpEvent → Bool) (acts : List Act) :
    ((acts.flatMap Act.messages).filter p).map signal =
      (acts.map .other).flatMap (spelled p) := by
  induction acts with
  | nil => rfl
  | cons act acts ih =>
      rw [List.flatMap_cons, List.filter_append, List.map_append, ih, signal_messages_act]
      rfl

/-- The messages of an event are what the user does, as the server reads it. -/
theorem signal_messages {p : XrdpEvent → Bool} (hp : HasKeys p) (event : QtEvent K) :
    (event.messages.filter p).map signal = event.signals.flatMap (spelled p) := by
  have hmouse (h : event.signals = event.acts.map .other) :
      (event.messages.filter p).map signal = event.signals.flatMap (spelled p) := by
    rw [messages_of_signals_eq h, h, signal_flatMap_messages]
  cases event with
  | mousePress | mouseRelease | mouseMove | wheel => exact hmouse rfl
  | keyPress code =>
      rw [messages_keyPress, List.filter_cons_of_pos (hp _ rfl), List.filter_nil, List.map_cons,
        signal_keyDown, QtEvent.signals, List.flatMap_singleton, spelled, transcribe, List.map_nil]
  | keyRelease code =>
      rw [messages_keyRelease, List.filter_cons_of_pos (hp _ rfl), List.filter_nil, List.map_cons,
        signal_keyUp, QtEvent.signals, List.flatMap_singleton, spelled, transcribe, List.map_nil]

end Events

end XrdpLocal.Input
