import XrdpLocal.Library.CInt
import XrdpLocal.Library.Ledger
import XrdpLocal.Qt.State
/-!
# `EGLState`

Constructor and destructor of `EGLState` over a ledger of what EGL and GL have
handed out. How each call ends is up to an `EGL`.
-/

namespace XrdpLocal.Egl

open Ledger (holding)
open XrdpLocal.Qt (DmaBufPixmap)

/-! ## EGL and GL -/

inductive EglToken
  | surfaceType | windowBit | redSize | greenSize | blueSize | alphaSize
  | renderableType | openglBit | contextClientVersion
  | width | height | linuxDrmFourccExt | dmaBufPlane0FdExt | dmaBufPlane0PitchExt
  | dmaBufPlane0OffsetExt
  | none
  | int (v : Int)
  deriving DecidableEq, Repr

inductive Proc
  | eglCreateImageKHR
  | glEGLImageTargetTexture2DOES
  | eglDestroyImageKHR
  deriving DecidableEq, Repr

/-- How each call ends. Handles are numbers, with `none` for the value that
means failure and texture 0 for none. A configuration may be missing although
`eglChooseConfig` succeeds. -/
structure EGL where
  eglGetDisplay : Int → Option Nat
  eglInitialize : Nat → Bool
  eglBindAPI : Bool
  eglChooseConfig : Nat → List EglToken → Option (Option Nat)
  eglCreateContext : Nat → Option Nat → List EglToken → Option Nat
  eglCreateWindowSurface : Nat → Option Nat → Int → Option Nat
  eglMakeCurrent : Nat → Nat → Nat → Bool
  eglGetProcAddress : Proc → Bool
  eglCreateImageKHR : Option Nat → List EglToken → Option Nat
  glGenTextures : Nat

/-- What successful calls hand out: an initialised display, a context, a
surface, the current context of the thread, an image and a texture. -/
inductive Resource
  | display (eglDisplay : Nat)
  | context (eglContext : Nat)
  | surface (eglSurface : Nat)
  | current
  | image (eglImage : Nat)
  | texture (texture : Nat)
  deriving DecidableEq, Repr

abbrev EglM := EStateM String (Ledger Resource)

section Calls

variable (egl : EGL)

def eglInitialize (eglDisplay : Nat) : EglM Bool :=
  Ledger.attempt (egl.eglInitialize eglDisplay)
    (if egl.eglInitialize eglDisplay then some (.display eglDisplay) else none)

def eglCreateContext (eglDisplay : Nat) (eglConfig : Option Nat) (attribs : List EglToken) :
    EglM (Option Nat) :=
  Ledger.attempt (egl.eglCreateContext eglDisplay eglConfig attribs)
    ((egl.eglCreateContext eglDisplay eglConfig attribs).map .context)

def eglCreateWindowSurface (eglDisplay : Nat) (eglConfig : Option Nat) (windowId : Int) :
    EglM (Option Nat) :=
  Ledger.attempt (egl.eglCreateWindowSurface eglDisplay eglConfig windowId)
    ((egl.eglCreateWindowSurface eglDisplay eglConfig windowId).map .surface)

def eglMakeCurrent (eglDisplay eglSurface eglContext : Nat) : EglM Bool :=
  Ledger.attempt (egl.eglMakeCurrent eglDisplay eglSurface eglContext)
    (if egl.eglMakeCurrent eglDisplay eglSurface eglContext then some .current else none)

def eglCreateImageKHR (eglDisplay : Option Nat) (attrs : List EglToken) : EglM (Option Nat) :=
  Ledger.attempt (egl.eglCreateImageKHR eglDisplay attrs)
    ((egl.eglCreateImageKHR eglDisplay attrs).map .image)

def glGenTextures : EglM Nat :=
  Ledger.attempt egl.glGenTextures
    (if egl.glGenTextures = 0 then none else some (.texture egl.glGenTextures))

end Calls

/-- `eglTerminate`, `eglDestroyContext` and the other calls that give a
resource back. -/
def giveBack (r : Resource) : EglM Unit := modify fun ledger => ledger.release r

def giveBackIfAny (r : Option Resource) : EglM Unit :=
  match r with
  | none => pure ()
  | some r => giveBack r

/-! ## `EGLState` -/

def isSpace (c : Char) : Bool := c.toNat = 32 || (9 ≤ c.toNat && c.toNat ≤ 13)

def digits (s : List Char) : Int :=
  (s.takeWhile Char.isDigit).foldl (fun n c => 10 * n + ((c.toNat - 48 : Nat) : Int)) 0

/-- `atoi`, with exact results. -/
def atoi (s : List Char) : Int :=
  match s.dropWhile isSpace with
  | '-' :: rest => -digits rest
  | '+' :: rest => digits rest
  | rest => digits rest

/-- The members; null handles are `none`. -/
structure EGLState where
  eglDisplay : Option Nat := none
  eglConfig : Option Nat := none
  eglContext : Option Nat := none
  eglSurface : Option Nat := none
  eglImage : Option Nat := none
  texture : Nat := 0
  width : Int
  height : Int
  deriving DecidableEq, Repr

def eglConfigAttribs : List EglToken :=
  [.surfaceType, .windowBit,
    .redSize, .int 8, .greenSize, .int 8, .blueSize, .int 8, .alphaSize, .int 8,
    .renderableType, .openglBit,
    .none]

def eglCtxAttribs : List EglToken := [.contextClientVersion, .int 2, .none]

/-- The pixmap's description; unsigned values are cast to `EGLint`. -/
def imageAttrs (pixmap : DmaBufPixmap) : List EglToken :=
  [.width, .int (CInt.wrap pixmap.width.toNat),
    .height, .int (CInt.wrap pixmap.height.toNat),
    .linuxDrmFourccExt, .int (CInt.wrap pixmap.format.toNat),
    .dmaBufPlane0FdExt, .int pixmap.fd,
    .dmaBufPlane0PitchExt, .int pixmap.stride.toNat,
    .dmaBufPlane0OffsetExt, .int 0,
    .none]

namespace EGLState

variable (egl : EGL)

def importDmaBufFd (this : EGLState) (pixmap : DmaBufPixmap) : EglM EGLState := do
  if !egl.eglGetProcAddress .eglCreateImageKHR ||
      !egl.eglGetProcAddress .glEGLImageTargetTexture2DOES then
    throw "eglCreateImageKHR or eglImageTargetTexture2DOES not supported."
  let some eglImage ← eglCreateImageKHR egl this.eglDisplay (imageAttrs pixmap)
    | throw "Failed to create EGLImage from dma_buf"
  let texture ← glGenTextures egl
  if texture = 0 then
    throw "glGenTextures failed"
  -- binding the texture, its parameters and its image hand out nothing
  return { this with eglImage := some eglImage, texture := texture }

/-- Viewport, matrices and texturing: calls that neither fail nor hand out
anything. -/
def setupGlState : EglM Unit := pure ()

def new (x11Display : List Char) (windowId : Int) (pixmap : DmaBufPixmap) : EglM EGLState := do
  if x11Display.head? ≠ some ':' then
    throw "DMA-BUF not supported on remote X11 display."
  let x11DisplayNum := atoi x11Display.tail
  let some eglDisplay := egl.eglGetDisplay x11DisplayNum
    | throw "eglGetDisplay failed"
  if !(← eglInitialize egl eglDisplay) then
    giveBack (.display eglDisplay)
    throw "eglInitialize failed"
  if !egl.eglBindAPI then
    giveBack (.display eglDisplay)
    throw "eglBindAPI failed"
  let some eglConfig := egl.eglChooseConfig eglDisplay eglConfigAttribs
    | giveBack (.display eglDisplay)
      throw "eglChooseConfig failed"
  let some eglContext ← eglCreateContext egl eglDisplay eglConfig eglCtxAttribs
    | giveBack (.display eglDisplay)
      throw "eglCreateContext failed"
  let some eglSurface ← eglCreateWindowSurface egl eglDisplay eglConfig windowId
    | giveBack (.context eglContext)
      giveBack (.display eglDisplay)
      throw "eglCreateWindowSurface failed"
  -- the outcome is not looked at
  let _ ← eglMakeCurrent egl eglDisplay eglSurface eglContext
  let this ← importDmaBufFd egl
    { eglDisplay := some eglDisplay
      eglConfig := eglConfig
      eglContext := some eglContext
      eglSurface := some eglSurface
      width := CInt.wrap pixmap.width.toNat
      height := CInt.wrap pixmap.height.toNat } pixmap
  setupGlState
  return this

/-- Whether the display can be used, as far as the probes tell. The display is
initialised only for that. -/
def isSupported (x11Display : List Char) : EglM Bool := do
  if x11Display.head? ≠ some ':' then
    return false
  let x11DisplayNum := atoi x11Display.tail
  let some eglDisplay := egl.eglGetDisplay x11DisplayNum
    | return false
  if !(← eglInitialize egl eglDisplay) then
    return false
  giveBack (.display eglDisplay)
  if !egl.eglGetProcAddress .eglCreateImageKHR then
    return false
  if !egl.eglGetProcAddress .glEGLImageTargetTexture2DOES then
    return false
  return true

def delete (this : EGLState) : EglM Unit := do
  giveBack .current
  if egl.eglGetProcAddress .eglDestroyImageKHR then
    giveBackIfAny (this.eglImage.map .image)
  giveBackIfAny (if this.texture = 0 then none else some (.texture this.texture))
  giveBackIfAny (this.eglSurface.map .surface)
  giveBackIfAny (this.eglContext.map .context)
  giveBackIfAny (this.eglDisplay.map .display)
  -- `eglReleaseThread` finds nothing current any more

end EGLState

/-! ## What the calls do to a ledger -/

section Runs

variable (egl : EGL) (held : List Resource)

@[simp] theorem run_eglInitialize (eglDisplay : Nat) :
    (eglInitialize egl eglDisplay).run (holding held) =
      .ok (egl.eglInitialize eglDisplay) (holding
        ((if egl.eglInitialize eglDisplay then some (.display eglDisplay) else none).toList ++
          held)) :=
  Ledger.run_attempt _ _ held

@[simp] theorem run_eglCreateContext (eglDisplay : Nat) (eglConfig : Option Nat)
    (attribs : List EglToken) :
    (eglCreateContext egl eglDisplay eglConfig attribs).run (holding held) =
      .ok (egl.eglCreateContext eglDisplay eglConfig attribs) (holding
        (((egl.eglCreateContext eglDisplay eglConfig attribs).map .context).toList ++ held)) :=
  Ledger.run_attempt _ _ held

@[simp] theorem run_eglCreateWindowSurface (eglDisplay : Nat) (eglConfig : Option Nat)
    (windowId : Int) :
    (eglCreateWindowSurface egl eglDisplay eglConfig windowId).run (holding held) =
      .ok (egl.eglCreateWindowSurface eglDisplay eglConfig windowId) (holding
        (((egl.eglCreateWindowSurface eglDisplay eglConfig windowId).map .surface).toList ++
          held)) :=
  Ledger.run_attempt _ _ held

@[simp] theorem run_eglMakeCurrent (eglDisplay eglSurface eglContext : Nat) :
    (eglMakeCurrent egl eglDisplay eglSurface eglContext).run (holding held) =
      .ok (egl.eglMakeCurrent eglDisplay eglSurface eglContext) (holding
        ((if egl.eglMakeCurrent eglDisplay eglSurface eglContext then some .current
          else none).toList ++ held)) :=
  Ledger.run_attempt _ _ held

@[simp] theorem run_eglCreateImageKHR (eglDisplay : Option Nat) (attrs : List EglToken) :
    (eglCreateImageKHR egl eglDisplay attrs).run (holding held) =
      .ok (egl.eglCreateImageKHR eglDisplay attrs) (holding
        (((egl.eglCreateImageKHR eglDisplay attrs).map .image).toList ++ held)) :=
  Ledger.run_attempt _ _ held

@[simp] theorem run_glGenTextures :
    (glGenTextures egl).run (holding held) =
      .ok egl.glGenTextures (holding
        ((if egl.glGenTextures = 0 then none else some (.texture egl.glGenTextures)).toList ++
          held)) :=
  Ledger.run_attempt _ _ held

@[simp] theorem run_giveBack (r : Resource) (ledger : Ledger Resource) :
    (giveBack r).run ledger = .ok () (ledger.release r) := rfl

@[simp] theorem run_map_giveBack {α : Type} (f : Unit → α) (r : Resource)
    (ledger : Ledger Resource) :
    (f <$> giveBack r : EglM α).run ledger = .ok (f ()) (ledger.release r) := rfl

@[simp] theorem run_giveBackIfAny (r : Option Resource) (ledger : Ledger Resource) :
    (giveBackIfAny r).run ledger = .ok () (ledger.releaseAll r.toList) := by
  cases r <;> rfl

end Runs

end XrdpLocal.Egl
