import XrdpLocal.Qt.Egl
/-!
# The resources of an `EGLState`

Whether the constructor of `EGLState` is all or nothing. It cleans up after
every failure before `import_dma_buf_fd` and after none in it
(`allOrNothing_iff`).
-/

namespace XrdpLocal.Egl

open Ledger (holding)
open XrdpLocal.Qt (DmaBufPixmap)

/-! ## The constructor up to `import_dma_buf_fd` -/

/-- The handles that the constructor has when it calls `import_dma_buf_fd`. -/
structure Handles where
  eglDisplay : Nat
  eglConfig : Option Nat
  eglContext : Nat
  eglSurface : Nat

/-- The display is local, and the calls up to `eglCreateWindowSurface` succeed
with these handles. -/
structure Opened (egl : EGL) (x11Display : List Char) (windowId : Int) (h : Handles) : Prop where
  isLocal : x11Display.head? = some ':'
  display : egl.eglGetDisplay (atoi x11Display.tail) = some h.eglDisplay
  started : egl.eglInitialize h.eglDisplay = true
  api : egl.eglBindAPI = true
  config : egl.eglChooseConfig h.eglDisplay eglConfigAttribs = some h.eglConfig
  context : egl.eglCreateContext h.eglDisplay h.eglConfig eglCtxAttribs = some h.eglContext
  surface : egl.eglCreateWindowSurface h.eglDisplay h.eglConfig windowId = some h.eglSurface

namespace Handles

variable (h : Handles)

def members (pixmap : DmaBufPixmap) : EGLState where
  eglDisplay := some h.eglDisplay
  eglConfig := h.eglConfig
  eglContext := some h.eglContext
  eglSurface := some h.eglSurface
  width := CInt.wrap pixmap.width.toNat
  height := CInt.wrap pixmap.height.toNat

def held (egl : EGL) : List Resource :=
  (if egl.eglMakeCurrent h.eglDisplay h.eglSurface h.eglContext then some .current
    else none).toList ++
    [.surface h.eglSurface, .context h.eglContext, .display h.eglDisplay]

end Handles

theorem run_new_of_opened {egl : EGL} {x11Display : List Char} {windowId : Int} {h : Handles}
    (hopened : Opened egl x11Display windowId h) (pixmap : DmaBufPixmap) :
    (EGLState.new egl x11Display windowId pixmap).run (holding []) =
      (EGLState.importDmaBufFd egl (h.members pixmap) pixmap).run (holding (h.held egl)) := by
  obtain ⟨hlocal, hdisplay, hstarted, hapi, hconfig, hcontext, hsurface⟩ := hopened
  simp [EGLState.new, EGLState.setupGlState, hlocal, hdisplay, hstarted, hapi, hconfig, hcontext,
    hsurface, Handles.members, Handles.held]

theorem threwClean_new {egl : EGL} {x11Display : List Char} {windowId : Int}
    (hnot : ∀ h, ¬ Opened egl x11Display windowId h) (pixmap : DmaBufPixmap) :
    Ledger.ThrewClean ((EGLState.new egl x11Display windowId pixmap).run (holding [])) := by
  unfold EGLState.new Ledger.ThrewClean
  by_cases hlocal : x11Display.head? = some ':'
  swap
  · simp [hlocal]
  rcases hdisplay : egl.eglGetDisplay (atoi x11Display.tail) with _ | eglDisplay
  · simp [hlocal, hdisplay]
  rcases hstarted : egl.eglInitialize eglDisplay with _ | _
  · simp [hlocal, hdisplay, hstarted]
  rcases hapi : egl.eglBindAPI with _ | _
  · simp [hlocal, hdisplay, hstarted]
  rcases hconfig : egl.eglChooseConfig eglDisplay eglConfigAttribs with _ | eglConfig
  · simp [hlocal, hdisplay, hstarted, hconfig]
  rcases hcontext : egl.eglCreateContext eglDisplay eglConfig eglCtxAttribs with _ | eglContext
  · simp [hlocal, hdisplay, hstarted, hconfig, hcontext]
  rcases hsurface : egl.eglCreateWindowSurface eglDisplay eglConfig windowId with _ | eglSurface
  · simp [hlocal, hdisplay, hstarted, hconfig, hcontext, hsurface]
  exact absurd ⟨hlocal, hdisplay, hstarted, hapi, hconfig, hcontext, hsurface⟩
    (hnot ⟨eglDisplay, eglConfig, eglContext, eglSurface⟩)

/-! ## `import_dma_buf_fd` -/

structure Imports (egl : EGL) (eglDisplay : Option Nat) (pixmap : DmaBufPixmap) : Prop where
  create : egl.eglGetProcAddress .eglCreateImageKHR = true
  target : egl.eglGetProcAddress .glEGLImageTargetTexture2DOES = true
  image : (egl.eglCreateImageKHR eglDisplay (imageAttrs pixmap)).isSome
  texture : egl.glGenTextures ≠ 0

theorem run_importDmaBufFd {egl : EGL} (this : EGLState) {pixmap : DmaBufPixmap}
    (himports : Imports egl this.eglDisplay pixmap) (held : List Resource) :
    ∃ eglImage, (EGLState.importDmaBufFd egl this pixmap).run (holding held) =
      .ok { this with eglImage := some eglImage, texture := egl.glGenTextures }
        (holding (.texture egl.glGenTextures :: .image eglImage :: held)) := by
  obtain ⟨hcreate, htarget, himage, htexture⟩ := himports
  obtain ⟨eglImage, himage⟩ := Option.isSome_iff_exists.mp himage
  refine ⟨eglImage, ?_⟩
  simp [EGLState.importDmaBufFd, hcreate, htarget, himage, htexture]

theorem run_importDmaBufFd_throws {egl : EGL} (this : EGLState) {pixmap : DmaBufPixmap}
    (hnot : ¬ Imports egl this.eglDisplay pixmap) (held : List Resource) :
    ∃ what more, (EGLState.importDmaBufFd egl this pixmap).run (holding held) =
      .error what (holding (more ++ held)) := by
  unfold EGLState.importDmaBufFd
  rcases hcreate : egl.eglGetProcAddress .eglCreateImageKHR with _ | _
  · exact ⟨_, [], rfl⟩
  rcases htarget : egl.eglGetProcAddress .glEGLImageTargetTexture2DOES with _ | _
  · exact ⟨_, [], rfl⟩
  rcases himage : egl.eglCreateImageKHR this.eglDisplay (imageAttrs pixmap) with _ | eglImage
  · exact ⟨"Failed to create EGLImage from dma_buf", [], by simp [himage]⟩
  by_cases htexture : egl.glGenTextures = 0
  · exact ⟨"glGenTextures failed", [.image eglImage], by simp [himage, htexture]⟩
  · exact absurd ⟨hcreate, htarget, by rw [himage]; rfl, htexture⟩ hnot

/-! ## The whole constructor -/

theorem run_new_of_imports {egl : EGL} {x11Display : List Char} {windowId : Int}
    {pixmap : DmaBufPixmap} {h : Handles} (hopened : Opened egl x11Display windowId h)
    (himports : Imports egl (some h.eglDisplay) pixmap) :
    ∃ eglImage, (EGLState.new egl x11Display windowId pixmap).run (holding []) =
      .ok { h.members pixmap with eglImage := some eglImage, texture := egl.glGenTextures }
        (holding (.texture egl.glGenTextures :: .image eglImage :: h.held egl)) := by
  rw [run_new_of_opened hopened]
  exact run_importDmaBufFd (h.members pixmap) himports (h.held egl)

/-- A failure after the window surface loses all that is held by then. -/
theorem run_new_throws {egl : EGL} {x11Display : List Char} {windowId : Int}
    {pixmap : DmaBufPixmap} {h : Handles} (hopened : Opened egl x11Display windowId h)
    (hnot : ¬ Imports egl (some h.eglDisplay) pixmap) :
    ∃ what more, (EGLState.new egl x11Display windowId pixmap).run (holding []) =
      .error what (holding (more ++ h.held egl)) := by
  rw [run_new_of_opened hopened]
  exact run_importDmaBufFd_throws (h.members pixmap) hnot (h.held egl)

/-! ## The destructor -/

def EGLState.givesBack (egl : EGL) (this : EGLState) : List Resource :=
  [.current] ++
    (if egl.eglGetProcAddress .eglDestroyImageKHR then this.eglImage.map .image else none).toList ++
    (if this.texture = 0 then none else some (.texture this.texture)).toList ++
    (this.eglSurface.map .surface).toList ++ (this.eglContext.map .context).toList ++
    (this.eglDisplay.map .display).toList

theorem run_delete (egl : EGL) (this : EGLState) (ledger : Ledger Resource) :
    (EGLState.delete egl this).run ledger =
      .ok () (ledger.releaseAll (this.givesBack egl)) := by
  unfold EGLState.delete EGLState.givesBack
  cases egl.eglGetProcAddress .eglDestroyImageKHR <;> simp [Ledger.releaseAll_append]

def AllOrNothing (egl : EGL) (x11Display : List Char) (windowId : Int) (pixmap : DmaBufPixmap) :
    Prop :=
  Ledger.AllOrNothing (EGLState.new egl x11Display windowId pixmap) (EGLState.delete egl)

theorem allOrNothing_of_imports {egl : EGL} {x11Display : List Char} {windowId : Int}
    {pixmap : DmaBufPixmap} {h : Handles}
    (hdestroy : egl.eglGetProcAddress .eglCreateImageKHR = true →
      egl.eglGetProcAddress .eglDestroyImageKHR = true)
    (hopened : Opened egl x11Display windowId h)
    (himports : Imports egl (some h.eglDisplay) pixmap) :
    AllOrNothing egl x11Display windowId pixmap := by
  obtain ⟨eglImage, hrun⟩ := run_new_of_imports hopened himports
  have hgives : EGLState.givesBack egl
      { h.members pixmap with eglImage := some eglImage, texture := egl.glGenTextures } =
        [.current, .image eglImage, .texture egl.glGenTextures, .surface h.eglSurface,
          .context h.eglContext, .display h.eglDisplay] := by
    simp [EGLState.givesBack, Handles.members, hdestroy himports.create, himports.texture]
  refine Ledger.allOrNothing_of_return hrun (run_delete egl _ _) ?_ ?_ ?_
  · unfold Handles.held
    split <;> simp
  · rw [hgives]
    simp
  · rw [hgives]
    unfold Handles.held
    split <;> simp

theorem imports_of_allOrNothing {egl : EGL} {x11Display : List Char} {windowId : Int}
    {pixmap : DmaBufPixmap} {h : Handles} (hall : AllOrNothing egl x11Display windowId pixmap)
    (hopened : Opened egl x11Display windowId h) :
    Imports egl (some h.eglDisplay) pixmap := by
  by_contra hnot
  obtain ⟨what, more, hrun⟩ := run_new_throws hopened hnot
  rw [AllOrNothing, Ledger.AllOrNothing, hrun] at hall
  simp [Handles.held] at hall

/-- The constructor is all or nothing exactly when nothing in
`import_dma_buf_fd` fails once it is called. -/
theorem allOrNothing_iff {egl : EGL}
    (hdestroy : egl.eglGetProcAddress .eglCreateImageKHR = true →
      egl.eglGetProcAddress .eglDestroyImageKHR = true)
    (x11Display : List Char) (windowId : Int) (pixmap : DmaBufPixmap) :
    AllOrNothing egl x11Display windowId pixmap ↔
      ∀ h, Opened egl x11Display windowId h → Imports egl (some h.eglDisplay) pixmap := by
  refine ⟨fun hall h hopened => imports_of_allOrNothing hall hopened, fun himports => ?_⟩
  by_cases hopens : ∃ h, Opened egl x11Display windowId h
  · obtain ⟨h, hopened⟩ := hopens
    exact allOrNothing_of_imports hdestroy hopened (himports h hopened)
  · exact Ledger.allOrNothing_of_threwClean (threwClean_new (not_exists.mp hopens) pixmap)

def EGL.working : EGL where
  eglGetDisplay _ := some 1
  eglInitialize _ := true
  eglBindAPI := true
  eglChooseConfig _ _ := some (some 2)
  eglCreateContext _ _ _ := some 3
  eglCreateWindowSurface _ _ _ := some 4
  eglMakeCurrent _ _ _ := true
  eglGetProcAddress _ := true
  eglCreateImageKHR _ _ := some 5
  glGenTextures := 6

theorem allOrNothing_iff_working : AllOrNothing .working [':', '0'] 7 ⟨8, 640, 480, 2560, 0, 0⟩ :=
  (allOrNothing_iff (fun _ => rfl) _ _ _).mpr fun _ _ => ⟨rfl, rfl, rfl, by decide⟩

/-- The image cannot be created: display, context and surface stay, and the
context stays current. -/
theorem not_always_allOrNothing :
    ¬ ∀ (egl : EGL) (x11Display : List Char) (windowId : Int) (pixmap : DmaBufPixmap),
      (egl.eglGetProcAddress .eglCreateImageKHR = true →
        egl.eglGetProcAddress .eglDestroyImageKHR = true) →
      AllOrNothing egl x11Display windowId pixmap := by
  intro hall
  have hlive := hall { EGL.working with eglCreateImageKHR := fun _ _ => none } [':', '0'] 7
    ⟨8, 640, 480, 2560, 0, 0⟩ fun _ => rfl
  exact List.cons_ne_nil _ _ hlive

/-! ## What `enable_dma_buf` sees -/

/-- How the construction ends for `enable_dma_buf`, which reports the exception
and goes on without the object. -/
def construction (egl : EGL) (x11Display : List Char) (windowId : Int) (pixmap : DmaBufPixmap) :
    Except String Unit :=
  match (EGLState.new egl x11Display windowId pixmap).run (holding []) with
  | .ok _ _ => .ok ()
  | .error what _ => .error what

theorem construction_eq_ok_iff (egl : EGL) (x11Display : List Char) (windowId : Int)
    (pixmap : DmaBufPixmap) :
    construction egl x11Display windowId pixmap = .ok () ↔
      ∃ h, Opened egl x11Display windowId h ∧ Imports egl (some h.eglDisplay) pixmap := by
  constructor
  · intro hok
    by_contra hnot
    by_cases hopens : ∃ h, Opened egl x11Display windowId h
    · obtain ⟨h, hopened⟩ := hopens
      obtain ⟨what, more, hrun⟩ := run_new_throws hopened fun himports =>
        hnot ⟨h, hopened, himports⟩
      rw [construction, hrun] at hok
      cases hok
    · have hclean := threwClean_new (not_exists.mp hopens) pixmap
      unfold construction at hok
      unfold Ledger.ThrewClean at hclean
      split at hclean
      · exact hclean
      · next hrun => rw [hrun] at hok; cases hok
  · rintro ⟨h, hopened, himports⟩
    obtain ⟨eglImage, hrun⟩ := run_new_of_imports hopened himports
    rw [construction, hrun]

end XrdpLocal.Egl
