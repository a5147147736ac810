import Mathlib.Data.List.Nodup
import XrdpLocal.Library.Machine
import XrdpLocal.Qt.State
/-!
# Who owns the `EGLState` objects

`QtState` keeps its `EGLState` in a raw pointer. The module runs any sequence
of `enable_dma_buf`, `disable_dma_buf` and `paint_dma_buf` calls, ended or not
by `~QtState`, and compares the objects built and not yet deleted with what
the pointer holds.
-/

namespace XrdpLocal.Qt

open StateMachine

/-- `destroyed` says that `~QtState` has run. -/
structure Owner where
  qt : QtState
  destroyed : Bool := false

/-- A call on `QtState`; that of `enable_dma_buf` with how the construction of
its `EGLState` ends. -/
inductive Owner.Call
  | enableDmaBuf (construction : Except String Unit) (pixmap : DmaBufPixmap)
  | disableDmaBuf
  | paintDmaBuf
  | destroy

namespace Owner

/-- `none` means that a null pointer is dereferenced or that the object is
gone. The exception of `paint_dma_buf` goes to its caller and changes
nothing. -/
def step (s : Owner) (call : Call) : Option Owner :=
  if s.destroyed then none else
  match call with
  | .enableDmaBuf construction pixmap =>
      (s.qt.enableDmaBuf construction pixmap).map fun (qt, _) => { s with qt := qt }
  | .disableDmaBuf => s.qt.disableDmaBuf.map fun qt => { s with qt := qt }
  | .paintDmaBuf =>
      match s.qt.paintDmaBuf with
      | .ok _ => some s
      | .error _ => some s
  | .destroy => some { qt := s.qt.deleteEgl, destroyed := true }

/-- A `QtState` without an `EGLState`, before or after `launch` has created
its window. -/
def machine (window : Option QtWindow) : Machine Owner Call where
  start := { qt := { window := window } }
  step := step

def Alive (s : Owner) (id : Nat) : Prop :=
  id < s.qt.constructed ∧ id ∉ s.qt.deleted

/-- The objects alive are those that `egl` points to, none after `~QtState`,
and no object was deleted twice. -/
structure EglOwned (s : Owner) : Prop where
  owned : s.destroyed = false → ∀ id, s.Alive id ↔ ∃ egl, s.qt.egl = some egl ∧ egl.id = id
  destroyed : s.destroyed = true → ∀ id, ¬ s.Alive id
  once : s.qt.deleted.Nodup

def NoReplacement (s : Owner) : Call → Prop
  | .enableDmaBuf (.ok ()) _ => s.qt.egl = none
  | _ => True

instance (s : Owner) (call : Call) : Decidable (NoReplacement s call) :=
  match call with
  | .enableDmaBuf (.ok ()) _ => inferInstanceAs (Decidable (_ = _))
  | .enableDmaBuf (.error _) _ | .disableDmaBuf | .paintDmaBuf | .destroy => .isTrue trivial

inductive Effect (s : Owner) : Call → Owner → Prop
  | built (pixmap : DmaBufPixmap) (s' : Owner) (hwindow : s'.qt.window.isSome)
      (hegl : s'.qt.egl = some ⟨s.qt.constructed, pixmap⟩)
      (hconstructed : s'.qt.constructed = s.qt.constructed + 1)
      (hdeleted : s'.qt.deleted = s.qt.deleted) (hdestroyed : s'.destroyed = false) :
      Effect s (.enableDmaBuf (.ok ()) pixmap) s'
  | unchanged (call : Call) (hbuild : ∀ pixmap, call = .enableDmaBuf (.ok ()) pixmap →
      s.qt.window = none) : Effect s call s
  | cleared (s' : Owner) (hegl : s'.qt.egl = none)
      (hconstructed : s'.qt.constructed = s.qt.constructed)
      (hdeleted : s'.qt.deleted = s.qt.deleteEgl.deleted) (hdestroyed : s'.destroyed = false) :
      Effect s .disableDmaBuf s'
  | destroyed : Effect s .destroy { qt := s.qt.deleteEgl, destroyed := true }

theorem step_effect {s s' : Owner} {call : Call} (hstep : s.step call = some s') :
    s.destroyed = false ∧ Effect s call s' := by
  obtain ⟨qt, destroyed⟩ := s
  cases destroyed with
  | true => cases hstep
  | false =>
      refine ⟨rfl, ?_⟩
      cases call with
      | enableDmaBuf construction pixmap =>
          cases construction with
          | error what =>
              simp only [step, Bool.false_eq_true, if_false, QtState.enableDmaBuf_error,
                Option.map_some, Option.some.injEq] at hstep
              subst s'
              exact .unchanged _ (fun _ h => by cases h)
          | ok =>
              cases hwindow : qt.window with
              | none =>
                  simp only [step, Bool.false_eq_true, if_false, QtState.enableDmaBuf, hwindow,
                    Option.map_some, Option.some.injEq] at hstep
                  subst s'
                  exact .unchanged _ fun _ _ => hwindow
              | some window =>
                  obtain ⟨qt', henable, hwin, _, hegl, hconstructed, hdeleted⟩ :=
                    QtState.enableDmaBuf_ok (show qt.window.isSome by rw [hwindow]; rfl) pixmap
                  simp only [step, Bool.false_eq_true, if_false, henable, Option.map_some,
                    Option.some.injEq] at hstep
                  subst s'
                  exact .built pixmap _ hwin hegl hconstructed hdeleted rfl
      | disableDmaBuf =>
          cases hwindow : qt.window with
          | none =>
              simp [step, QtState.disableDmaBuf, QtState.setDisablePaint, hwindow] at hstep
          | some window =>
              obtain ⟨qt', hdisable, _, _, hegl, hconstructed, hdeleted⟩ :=
                QtState.disableDmaBuf_of_window (show qt.window.isSome by rw [hwindow]; rfl)
              simp only [step, Bool.false_eq_true, if_false, hdisable, Option.map_some,
                Option.some.injEq] at hstep
              subst s'
              exact .cleared _ hegl hconstructed hdeleted rfl
      | paintDmaBuf =>
          have hsame : (⟨qt, false⟩ : Owner) = s' := by
            simp only [step, Bool.false_eq_true, if_false] at hstep
            cases hpaint : qt.paintDmaBuf <;> rw [hpaint] at hstep <;> exact Option.some.inj hstep
          rw [← hsame]
          exact .unchanged _ (fun _ h => by cases h)
      | destroy =>
          obtain rfl := Option.some.inj hstep
          exact .destroyed

/-- The invariant of a run without a replacement: ownership, and what it needs
to be preserved. -/
structure Sound (s : Owner) : Prop extends EglOwned s where
  numbered : ∀ id ∈ s.qt.deleted, id < s.qt.constructed
  window : s.qt.egl.isSome → s.qt.window.isSome

theorem sound_start (window : Option QtWindow) : Sound (machine window).start where
  owned := by
    intro _ id
    simp [Alive, machine]
  destroyed := by
    intro h
    cases h
  once := List.nodup_nil
  numbered := by
    intro id hmem
    cases hmem
  window := by
    intro h
    cases h

theorem Sound.deleteEgl {s : Owner} (h : Sound s) (hlive : s.destroyed = false) :
    (∀ id < s.qt.constructed, id ∈ s.qt.deleteEgl.deleted) ∧ s.qt.deleteEgl.deleted.Nodup ∧
      ∀ id ∈ s.qt.deleteEgl.deleted, id < s.qt.constructed := by
  cases hegl : s.qt.egl with
  | none =>
      have hdeleted : s.qt.deleteEgl.deleted = s.qt.deleted := by
        rw [QtState.deleteEgl, hegl]
      rw [hdeleted]
      refine ⟨fun id hid => ?_, h.once, h.numbered⟩
      by_contra hnot
      obtain ⟨egl, hsome, _⟩ := (h.owned hlive id).mp ⟨hid, hnot⟩
      rw [hegl] at hsome
      cases hsome
  | some egl =>
      have hdeleted : s.qt.deleteEgl.deleted = s.qt.deleted ++ [egl.id] := by
        rw [QtState.deleteEgl, hegl]
      obtain ⟨hbuilt, hnotDeleted⟩ := (h.owned hlive egl.id).mpr ⟨egl, hegl, rfl⟩
      rw [hdeleted]
      refine ⟨fun id hid => ?_, ?_, fun id hmem => ?_⟩
      · by_cases hmem : id ∈ s.qt.deleted
        · exact List.mem_append_left _ hmem
        · obtain ⟨other, hsome, rfl⟩ := (h.owned hlive id).mp ⟨hid, hmem⟩
          rw [hegl, Option.some.injEq] at hsome
          simp [hsome]
      · exact List.nodup_append_comm.mp (List.nodup_cons.mpr ⟨hnotDeleted, h.once⟩)
      · rcases List.mem_append.mp hmem with hold | hnew
        · exact h.numbered id hold
        · rw [List.mem_singleton.mp hnew]
          exact hbuilt

theorem Sound.step {s s' : Owner} {call : Call} (h : Sound s) (hok : NoReplacement s call)
    (hstep : s.step call = some s') : Sound s' := by
  obtain ⟨hlive, heffect⟩ := step_effect hstep
  cases heffect with
  | built pixmap s' hwindow hegl hconstructed hdeleted hdestroyed =>
      have hnone : s.qt.egl = none := hok
      have hfresh : s.qt.constructed ∉ s.qt.deleted := fun hmem =>
        Nat.lt_irrefl _ (h.numbered _ hmem)
      constructor
      · constructor
        · intro _ id
          have hold := h.owned hlive id
          simp only [Alive, hegl, hconstructed, hdeleted, hnone] at hold ⊢
          grind
        · rw [hdestroyed]
          exact fun hfalse => nomatch hfalse
        · rw [hdeleted]
          exact h.once
      · rw [hconstructed, hdeleted]
        exact fun id hmem => Nat.lt_succ_of_lt (h.numbered id hmem)
      · exact fun _ => hwindow
  | unchanged call hbuild => exact h
  | cleared s' hegl hconstructed hdeleted hdestroyed =>
      obtain ⟨hall, hnodup, hnumbered⟩ := h.deleteEgl hlive
      rw [← hdeleted] at hall hnodup hnumbered
      rw [← hconstructed] at hall hnumbered
      constructor
      · constructor
        · intro _ id
          rw [hegl]
          exact ⟨fun halive => absurd (hall id halive.1) halive.2, fun ⟨_, hsome, _⟩ => nomatch hsome⟩
        · rw [hdestroyed]
          exact fun hfalse => nomatch hfalse
        · exact hnodup
      · exact hnumbered
      · rw [hegl]
        exact fun hfalse => nomatch hfalse
  | destroyed =>
      obtain ⟨hall, hnodup, hnumbered⟩ := h.deleteEgl hlive
      constructor
      · constructor
        · exact fun hfalse => nomatch hfalse
        · intro _ id halive
          have hid : id < s.qt.constructed := by simpa using halive.1
          exact halive.2 (hall id hid)
        · exact hnodup
      · rw [QtState.constructed_deleteEgl]
        exact hnumbered
      · rw [QtState.egl_deleteEgl, QtState.window_deleteEgl]
        exact h.window

theorem sound_of_reachable {window : Option QtWindow} {s : Owner}
    (hreach : (machine window).ReachableBy NoReplacement s) : Sound s :=
  hreach.invariant (sound_start window) fun _ h hok hstep => h.step hok hstep

theorem replacement_of_not {s : Owner} {call : Call} (hmiss : ¬ NoReplacement s call) :
    (∃ pixmap, call = .enableDmaBuf (.ok ()) pixmap) ∧ ∃ egl, s.qt.egl = some egl := by
  cases call with
  | enableDmaBuf construction pixmap =>
      cases construction with
      | ok => exact ⟨⟨pixmap, rfl⟩, Option.ne_none_iff_exists'.mp hmiss⟩
      | error what => exact absurd trivial hmiss
  | disableDmaBuf | paintDmaBuf | destroy => exact absurd trivial hmiss

/-- A replacement leaves two objects alive, of which one is pointed to. -/
theorem not_eglOwned_of_replacement {s s' : Owner} {call : Call} (h : Sound s)
    (hstep : s.step call = some s') (hmiss : ¬ NoReplacement s call) : ¬ EglOwned s' := by
  obtain ⟨⟨pixmap, rfl⟩, egl, hsome⟩ := replacement_of_not hmiss
  obtain ⟨hlive, heffect⟩ := step_effect hstep
  cases heffect with
  | built _ _ hwindow hegl hconstructed hdeleted hdestroyed =>
      obtain ⟨hbuilt, hnotDeleted⟩ := (h.owned hlive egl.id).mpr ⟨egl, hsome, rfl⟩
      intro howned
      have hstill : s'.Alive egl.id := by
        rw [Alive, hconstructed, hdeleted]
        exact ⟨Nat.lt_succ_of_lt hbuilt, hnotDeleted⟩
      obtain ⟨other, hother, hid⟩ := (howned.owned hdestroyed egl.id).mp hstill
      rw [hegl, Option.some.injEq] at hother
      have hnew : s.qt.constructed = egl.id := by rw [← hid, ← hother]
      exact Nat.ne_of_gt hbuilt hnew
  | unchanged _ hbuild =>
      have hwindow : s.qt.window.isSome := h.window (by rw [hsome]; rfl)
      simp [hbuild pixmap rfl] at hwindow

/-- At every point of a sequence of calls the objects alive are the one owned
exactly when no construction succeeds while another object is owned. -/
theorem always_eglOwned_iff (window : Option QtWindow) (calls : List Call) :
    (machine window).Always EglOwned (machine window).start calls ↔
      (machine window).StepsMeet NoReplacement (machine window).start calls := by
  apply Machine.sharp
  · exact fun s hreach => (sound_of_reachable hreach).toEglOwned
  · intro s s' call hreach hstep hmiss
    exact not_eglOwned_of_replacement (sound_of_reachable hreach) hstep hmiss

/-- A second pixmap arrives while the first one is active: its `EGLState` takes
the pointer, and nothing deletes the other. -/
theorem not_always_eglOwned :
    ¬ ∀ s, (machine (some ⟨⟨1, 1, fun _ _ => 0⟩, true⟩)).Reachable s → EglOwned s := by
  let pixmap : DmaBufPixmap := ⟨7, 1920, 1080, 7680, 8294400, 875713112⟩
  apply Machine.not_always_of_run
    [.enableDmaBuf (.ok ()) pixmap, .enableDmaBuf (.ok ()) { pixmap with fd := 8 }]
  refine ⟨_, rfl, fun howned => ?_⟩
  obtain ⟨egl, hsome, hid⟩ := (howned.owned rfl 0).mp ⟨by decide, by decide⟩
  cases hsome
  cases hid

end Owner

end XrdpLocal.Qt
