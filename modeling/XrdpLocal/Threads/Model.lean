import XrdpLocal.Library.Machine
import XrdpLocal.Qt.State
/-!
# The main thread and the communicator thread

`main` constructs `XRDPLocalState`, runs the Qt event loop and destroys
everything again; the thread that it starts on the way runs
`xup_communicator_thread_func`. The threads share `QtState`, two latches, the
slot calls posted to the window and the flag `running`.

One action is one statement of one thread, or a choice of the outside world:
which callback libxup makes, when it reports a closed connection, when the
event loop ends. The queue of input events is modelled elsewhere and left out
here, and with it the mutex, which only this thread takes.
-/

namespace XrdpLocal.Threads

open StateMachine XrdpLocal.Qt

/-- The arguments of `server_paint_rects_ex` that are read. `shmemPtr` is
`none` for a null pointer. -/
structure PaintRectsEx where
  drects : List XrdpRectSpec
  data : Nat → UInt32
  width : Int
  height : Int
  flags : Int
  frameId : Int
  shmemPtr : Option Nat
  shmemBytes : Int

def PaintRectsEx.change (p : PaintRectsEx) : SyncChangeReference where
  width := p.width
  height := p.height
  data := p.data
  rects := p.drects

def PaintRectsEx.mapping (p : PaintRectsEx) : Option (Nat × Int) :=
  p.shmemPtr.map fun ptr => (ptr, p.shmemBytes)

/-- The callbacks of libxup that reach `QtState`, and for a pixmap how the
construction of its `EGLState` ends. -/
inductive Callback
  | setCursorEx
  | setPointerLarge
  | paintRectsEx (p : PaintRectsEx)
  | receivePixmapFd (construction : Except String Unit) (pixmap : DmaBufPixmap)
  | deactivate
  | paintPixmap

/-- The next statement of the main thread: the constructor of
`XRDPLocalState`, `launch`, `run` with the slot calls, and the destructors.
`freeQt` is the end of `delete qt`, after the body of `~QtState`. -/
inductive MainPc
  | constructXup
  | notifyFeedback
  | createWindow
  | connectSignal
  | countDown
  | requestDmaBuf
  | callExec
  | eventLoop
  | slotDraw (n : Nat)
  | slotSignal (n : Nat)
  | deleteEgl
  | deleteWindow
  | deleteApp
  | freeQt
  | stopRunning
  | join
  | exited
  deriving DecidableEq

def MainPc.stage : MainPc → Nat
  | .constructXup => 0
  | .notifyFeedback => 1
  | .createWindow => 2
  | .connectSignal => 3
  | .countDown => 4
  | .requestDmaBuf => 5
  | .callExec => 6
  | .eventLoop | .slotDraw _ | .slotSignal _ => 7
  | .deleteEgl => 8
  | .deleteWindow => 9
  | .deleteApp => 10
  | .freeQt => 11
  | .stopRunning => 12
  | .join => 13
  | .exited => 14

def MainPc.after (pc statement : MainPc) : Prop := statement.stage < pc.stage

instance (pc statement : MainPc) : Decidable (pc.after statement) :=
  inferInstanceAs (Decidable (_ < _))

def MainPc.slot : MainPc → Option Nat
  | .slotDraw n | .slotSignal n => some n
  | _ => none

/-- The next statement of the communicator thread. A paint carries the number
of its change. -/
inductive CommPc
  | notStarted
  | testRunning
  | checkWaitObjs
  | setCursor
  | waitReady (n : Nat) (p : PaintRectsEx)
  | emitSignal (n : Nat) (p : PaintRectsEx)
  | waitRelease (n : Nat) (p : PaintRectsEx)
  | frameAck (p : PaintRectsEx)
  | unmap (p : PaintRectsEx)
  | testWindow (construction : Except String Unit) (pixmap : DmaBufPixmap)
  | constructEgl (construction : Except String Unit) (pixmap : DmaBufPixmap)
  | disablePaint
  | sendNotify (enabled : Bool)
  | clearEgl
  | enablePaint
  | renderEgl
  | processEvents
  | callExit
  | ended (closed : Bool)

/-- The first statement of a callback, which is number `n` if it paints. -/
def Callback.entry (n : Nat) : Callback → CommPc
  | .setCursorEx | .setPointerLarge => .setCursor
  | .paintRectsEx p => .waitReady n p
  | .receivePixmapFd construction pixmap => .testWindow construction pixmap
  | .deactivate => .clearEgl
  | .paintPixmap => .renderEgl

def Callback.paints : Callback → List PaintRectsEx
  | .paintRectsEx p => [p]
  | _ => []

inductive Object
  | qtState
  | window
  | app
  | egl
  deriving DecidableEq

inductive Fault
  | nullWindow
  | useAfterDelete (object : Object)
  | danglingChange
  | uncaughtException
  deriving DecidableEq

structure FrameAck where
  flags : Int
  frameId : Int
  framebuffer : QImage

/-- `connected` says that `connect` was called. `changes` are the
`SyncChangeReference` objects alive, and `quit` says that a quit of the running
event loop is pending or was taken. The histories `callbacks` and `completed`
hold the paints called and returned from. A fault stops both threads. -/
structure State where
  main : MainPc := .constructXup
  comm : CommPc := .notStarted
  qt : QtState := {}
  connected : Bool := false
  appReadyLatch : Nat := 1
  posted : List Nat := []
  changes : List (Nat × SyncChangeReference) := []
  quit : Bool := false
  running : Bool := true
  callbacks : List PaintRectsEx := []
  acks : List FrameAck := []
  unmapped : List (Nat × Int) := []
  completed : List PaintRectsEx := []
  crashed : Option Fault := none

/-- What Qt contributes: its drawing, and the pixels of a new framebuffer. -/
structure Config where
  drawImage : DrawImage
  framebuffer : QImage

def MainPc.InExec (pc : MainPc) : Prop := pc.after .callExec ∧ ¬ pc.after .eventLoop

instance (pc : MainPc) : Decidable pc.InExec := inferInstanceAs (Decidable (_ ∧ _))

namespace State

def crash (s : State) (fault : Fault) : State := { s with crashed := some fault }

def change? (s : State) (n : Nat) : Option SyncChangeReference := s.changes.lookup n

def framebuffer (cfg : Config) (s : State) : QImage :=
  (s.qt.window.map QtWindow.framebuffer).getD cfg.framebuffer

/-- `QCoreApplication::quit`, which does nothing unless `exec` is running. -/
def appQuit (s : State) : State := { s with quit := s.quit || decide s.main.InExec }

/-- `paint_rects_slot` up to the call of `signal_data_is_not_used`, when
`drawn` rectangles get drawn. -/
def drawSlot (cfg : Config) (s : State) (n drawn : Nat) : State :=
  match s.change? n, s.qt.window with
  | some change, some window =>
      { s with
        main := .slotSignal n
        qt := { s.qt with window := some (window.paintRects cfg.drawImage change drawn) } }
  | _, _ => s.crash .danglingChange

def signalSlot (s : State) (n : Nat) : State :=
  match s.change? n with
  | none => s.crash .danglingChange
  | some change =>
      { s with
        main := .eventLoop
        changes := s.changes.map fun entry =>
          if entry.1 = n then (n, change.signalDataIsNotUsed) else entry }

/-- The main thread executes its next statement. In the event loop it waits
for `runSlot` or `leaveLoop`. -/
def mainNext (cfg : Config) (s : State) : Option State :=
  match s.main with
  | .constructXup => some { s with main := .notifyFeedback, comm := .testRunning }
  | .notifyFeedback => some { s with main := .createWindow }
  | .createWindow =>
      some { s with
        main := .connectSignal
        qt := { s.qt with window := some ⟨cfg.framebuffer, true⟩ } }
  | .connectSignal => some { s with main := .countDown, connected := true }
  | .countDown => some { s with main := .requestDmaBuf, appReadyLatch := s.appReadyLatch - 1 }
  | .requestDmaBuf => some { s with main := .callExec }
  | .callExec => some { s with main := .eventLoop, quit := false }
  | .eventLoop => none
  | .slotDraw n =>
      some (s.drawSlot cfg n (((s.change? n).map fun change => change.rects.length).getD 0))
  | .slotSignal n => some (s.signalSlot n)
  | .deleteEgl => some { s with main := .deleteWindow, qt := s.qt.deleteEgl }
  | .deleteWindow => some { s with main := .deleteApp, posted := [] }
  | .deleteApp => some { s with main := .freeQt }
  | .freeQt => some { s with main := .stopRunning }
  | .stopRunning => some { s with main := .join, running := false }
  | .join =>
      match s.comm with
      | .ended _ => some { s with main := .exited }
      | _ => none
  | .exited => none

/-- The event loop takes the first slot call posted to the window. -/
def runSlot (s : State) : Option State :=
  match s.main, s.posted with
  | .eventLoop, n :: rest => some { s with main := .slotDraw n, posted := rest }
  | _, _ => none

/-- The drawing of a slot call throws after `drawn` rectangles, and the
handler calls `qt->exit()`. -/
def drawThrows (cfg : Config) (s : State) (drawn : Nat) : Option State :=
  match s.main with
  | .slotDraw n => some (s.drawSlot cfg n drawn).appQuit
  | _ => none

/-- `exec` returns: the window was closed, or a quit is taken. -/
def leaveLoop (s : State) : Option State :=
  match s.main with
  | .eventLoop => some { s with main := .deleteEgl }
  | _ => none

/-- Objects that the main thread has deleted. Its own `delete egl` leaves the
pointer as it is, and that of `disable_dma_buf` clears it. -/
def isDeleted (s : State) : Object → Bool
  | .qtState => s.main.after .freeQt
  | .window => s.main.after .deleteWindow
  | .app => s.main.after .deleteApp
  | .egl => s.qt.egl.any fun egl => egl.id ∈ s.qt.deleted

end State

/-- The objects that the next statement of the communicator thread touches.
`egl` stands for what the pointer points to, if it is not null. -/
def CommPc.uses : CommPc → List Object
  | .setCursor | .disablePaint | .enablePaint => [.qtState, .window]
  | .waitReady _ _ | .emitSignal _ _ | .testWindow _ _ => [.qtState]
  | .constructEgl _ _ => [.qtState, .app, .window]
  | .clearEgl | .renderEgl => [.qtState, .egl]
  | .callExit => [.qtState, .app]
  | _ => []

namespace State

/-- `emit paint_rects_signal(&change, x, y)`, with the change just built. The
signal goes nowhere when the window is gone. -/
def emitPaintRects (s : State) (n : Nat) (p : PaintRectsEx) : State :=
  { s with
    comm := .waitRelease n p
    changes := s.changes ++ [(n, p.change)]
    posted :=
      if s.connected ∧ ¬ s.main.after .deleteWindow then s.posted ++ [n] else s.posted }

/-- `window->set_disable_paint(disable)` and the statement after it. -/
def disablePaint (s : State) (disable : Bool) (next : CommPc) : State :=
  match s.qt.setDisablePaint disable with
  | none => s.crash .nullWindow
  | some qt => { s with comm := next, qt := qt }

/-- The communicator thread executes its next statement, which touches no
deleted object. In `mod_check_wait_objs` it waits for `dispatch` or
`checkWaitObjsReturns`. -/
def commNext (cfg : Config) (s : State) : Option State :=
  match s.comm with
  | .notStarted => none
  | .testRunning => some { s with comm := if s.running then .checkWaitObjs else .ended false }
  | .checkWaitObjs => none
  | .setCursor =>
      match s.qt.window with
      | none => some (s.crash .nullWindow)
      | some _ => some { s with comm := .checkWaitObjs }
  | .waitReady n p =>
      -- `srcx` and `srcy` are 0 in the only call, so nothing is thrown after the wait
      if s.appReadyLatch = 0 then some { s with comm := .emitSignal n p } else none
  | .emitSignal n p => some (s.emitPaintRects n p)
  | .waitRelease n p =>
      match s.change? n with
      | none => none
      | some change =>
          if change.releaseLatch = 0 then
            some { s with
              comm := .frameAck p
              changes := s.changes.filter fun entry => entry.1 ≠ n }
          else none
  | .frameAck p =>
      some { s with
        comm := .unmap p
        acks := s.acks ++ [⟨p.flags, p.frameId, s.framebuffer cfg⟩] }
  | .unmap p =>
      some { s with
        comm := .checkWaitObjs
        unmapped := s.unmapped ++ p.mapping.toList
        completed := s.completed ++ [p] }
  | .testWindow construction pixmap =>
      match s.qt.window with
      | none => some { s with comm := .sendNotify false }
      | some _ => some { s with comm := .constructEgl construction pixmap }
  | .constructEgl construction pixmap =>
      match s.qt.window, construction with
      | none, _ => some (s.crash .nullWindow)
      | some _, .ok () => some { s with comm := .disablePaint, qt := s.qt.newEgl pixmap }
      | some _, .error _ => some { s with comm := .sendNotify false }
  | .disablePaint => some (s.disablePaint true (.sendNotify true))
  | .sendNotify _ => some { s with comm := .checkWaitObjs }
  | .clearEgl => some { s with comm := .enablePaint, qt := s.qt.clearEgl }
  | .enablePaint => some (s.disablePaint false .checkWaitObjs)
  | .renderEgl =>
      match s.qt.paintDmaBuf with
      | .error _ => some (s.crash .uncaughtException)
      | .ok _ => some { s with comm := .checkWaitObjs }
  | .processEvents => some { s with comm := .testRunning }
  | .callExit => some { s.appQuit with comm := .ended true }
  | .ended _ => none

def commStep (cfg : Config) (s : State) : Option State :=
  match s.comm.uses.find? s.isDeleted with
  | some object => some (s.crash (.useAfterDelete object))
  | none => s.commNext cfg

def dispatch (s : State) (c : Callback) : Option State :=
  match s.comm with
  | .checkWaitObjs =>
      some { s with comm := c.entry s.callbacks.length, callbacks := s.callbacks ++ c.paints }
  | _ => none

/-- `mod_check_wait_objs` returns 0, or reports a closed connection. -/
def checkWaitObjsReturns (s : State) (closed : Bool) : Option State :=
  match s.comm with
  | .checkWaitObjs => some { s with comm := if closed then .callExit else .processEvents }
  | _ => none

end State

inductive Action
  | main
  | runSlot
  | drawThrows (drawn : Nat)
  | leaveLoop
  | comm
  | dispatch (c : Callback)
  | checkWaitObjsReturns (closed : Bool)

def step (cfg : Config) (s : State) (a : Action) : Option State :=
  match s.crashed with
  | some _ => none
  | none =>
      match a with
      | .main => s.mainNext cfg
      | .runSlot => s.runSlot
      | .drawThrows drawn => s.drawThrows cfg drawn
      | .leaveLoop => s.leaveLoop
      | .comm => s.commStep cfg
      | .dispatch c => s.dispatch c
      | .checkWaitObjsReturns closed => s.checkWaitObjsReturns closed

/-- `QtState` has been constructed, and `XRDPModState` is next. -/
def machine (cfg : Config) : Machine State Action where
  start := {}
  step := step cfg

end XrdpLocal.Threads
