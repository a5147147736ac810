import XrdpLocal.Qt.Fallback
/-!
# Names of X displays

A display name is "host:number" or "host:number.screen". `EGLState` takes a
name without a host for a local display and opens EGL on its number; the
program looks for neither the host nor the screen. `is_supported` and the
constructor read the name alike (`display_name_opens`).
-/

namespace XrdpLocal.Egl

open XrdpLocal.Fallback (Supports run_isSupported)

structure DisplayName where
  host : List Char
  number : Nat
  screen : Option Nat

def DisplayName.suffix (name : DisplayName) : List Char :=
  match name.screen with
  | none => []
  | some screen => '.' :: Nat.toDigits 10 screen

def DisplayName.print (name : DisplayName) : List Char :=
  name.host ++ ':' :: (Nat.toDigits 10 name.number ++ name.suffix)

/-! ## Numbers -/

theorem foldl_digits (ds : List Char) (init : Nat) :
    ds.foldl (fun n c => 10 * n + ((c.toNat - 48 : Nat) : Int)) (init : Int) =
      (Nat.ofDigitChars 10 ds init : Int) := by
  induction ds generalizing init with
  | nil => rw [List.foldl_nil, Nat.ofDigitChars_nil]
  | cons c ds ih =>
      have hstep : 10 * (init : Int) + ((c.toNat - 48 : Nat) : Int) =
          ((10 * init + (c.toNat - 48) : Nat) : Int) := by
        push_cast
        rfl
      rw [List.foldl_cons, hstep, ih, Nat.ofDigitChars_cons]
      rfl

theorem takeWhile_digits {ds rest : List Char} (hds : ∀ c ∈ ds, c.isDigit = true)
    (hrest : ∀ c ∈ rest.head?, c.isDigit = false) :
    (ds ++ rest).takeWhile Char.isDigit = ds := by
  rw [List.takeWhile_append_of_pos hds]
  cases rest with
  | nil => simp
  | cons c rest =>
      have hstop : c.isDigit = false := hrest c rfl
      rw [List.takeWhile_cons_of_neg (by simp [hstop]), List.append_nil]

theorem digits_toDigits_append (n : Nat) {rest : List Char}
    (hrest : ∀ c ∈ rest.head?, c.isDigit = false) : digits (Nat.toDigits 10 n ++ rest) = n := by
  have hdigits : ∀ c ∈ Nat.toDigits 10 n, c.isDigit = true :=
    fun c hmem => Nat.isDigit_of_mem_toDigits (by decide) (by decide) hmem
  rw [digits, takeWhile_digits hdigits hrest]
  calc (Nat.toDigits 10 n).foldl (fun n c => 10 * n + ((c.toNat - 48 : Nat) : Int)) 0
      = (Nat.ofDigitChars 10 (Nat.toDigits 10 n) 0 : Int) := foldl_digits _ 0
    _ = n := by rw [Nat.ofDigitChars_ten_toDigits]

theorem atoi_cons_of_isDigit {c : Char} (hc : c.isDigit = true) (rest : List Char) :
    atoi (c :: rest) = digits (c :: rest) := by
  have hrange : 48 ≤ c.toNat ∧ c.toNat ≤ 57 := by
    simpa [Char.isDigit, UInt32.le_iff_toNat_le] using hc
  have hspace : isSpace c = false := by
    simp only [isSpace, Bool.or_eq_false_iff, decide_eq_false_iff_not, Bool.and_eq_false_iff]
    omega
  rw [atoi, List.dropWhile_cons_of_neg (by simp [hspace])]
  split
  · next hsign =>
      obtain ⟨rfl, -⟩ := List.cons.inj hsign
      exact absurd hc (by decide)
  · next hsign =>
      obtain ⟨rfl, -⟩ := List.cons.inj hsign
      exact absurd hc (by decide)
  · rfl

theorem atoi_toDigits_append (n : Nat) {rest : List Char}
    (hrest : ∀ c ∈ rest.head?, c.isDigit = false) : atoi (Nat.toDigits 10 n ++ rest) = n := by
  have hvalue := digits_toDigits_append n hrest
  cases hdigits : Nat.toDigits 10 n with
  | nil => exact absurd hdigits Nat.toDigits_ne_nil
  | cons c ds =>
      have hc : c.isDigit = true :=
        Nat.isDigit_of_mem_toDigits (b := 10) (n := n) (by decide) (by decide)
          (by rw [hdigits]; exact List.mem_cons_self)
      rw [hdigits] at hvalue
      rw [List.cons_append, atoi_cons_of_isDigit hc]
      exact hvalue

/-! ## Displays -/

structure Works (egl : EGL) (number : Int) : Prop where
  display : ∃ eglDisplay, egl.eglGetDisplay number = some eglDisplay ∧
    egl.eglInitialize eglDisplay = true
  create : egl.eglGetProcAddress .eglCreateImageKHR = true
  target : egl.eglGetProcAddress .glEGLImageTargetTexture2DOES = true

section Names

variable {name : DisplayName}

theorem not_isDigit_suffix (name : DisplayName) : ∀ c ∈ name.suffix.head?, c.isDigit = false := by
  intro c hmem
  cases hscreen : name.screen with
  | none => simp [DisplayName.suffix, hscreen] at hmem
  | some screen =>
      simp only [DisplayName.suffix, hscreen, List.head?_cons, Option.mem_some_iff] at hmem
      rw [← hmem]
      decide

theorem head?_print_iff (hhost : name.host.head? ≠ some ':') :
    name.print.head? = some ':' ↔ name.host = [] := by
  rw [DisplayName.print]
  cases hname : name.host with
  | nil => simp
  | cons c host =>
      rw [hname] at hhost
      simpa using hhost

theorem atoi_tail_print (hhost : name.host = []) : atoi name.print.tail = name.number := by
  rw [DisplayName.print, hhost]
  exact atoi_toDigits_append name.number (not_isDigit_suffix name)

theorem supports_print_iff (egl : EGL) (hhost : name.host.head? ≠ some ':') :
    Supports egl name.print ↔ name.host = [] ∧ Works egl name.number := by
  constructor
  · intro h
    have hlocal := (head?_print_iff hhost).mp h.isLocal
    have hdisplay := h.display
    rw [atoi_tail_print hlocal] at hdisplay
    exact ⟨hlocal, hdisplay, h.create, h.target⟩
  · rintro ⟨hlocal, h⟩
    have hdisplay := h.display
    rw [← atoi_tail_print hlocal] at hdisplay
    exact ⟨(head?_print_iff hhost).mpr hlocal, hdisplay, h.create, h.target⟩

theorem display_of_opened_print {egl : EGL} {windowId : Int} {h : Handles}
    (hhost : name.host.head? ≠ some ':') (hopened : Opened egl name.print windowId h) :
    name.host = [] ∧ egl.eglGetDisplay name.number = some h.eglDisplay := by
  have hlocal := (head?_print_iff hhost).mp hopened.isLocal
  have hdisplay := hopened.display
  rw [atoi_tail_print hlocal] at hdisplay
  exact ⟨hlocal, hdisplay⟩

/-- `is_supported` says yes exactly to the names without a host on whose number
EGL works, and an `EGLState` is only ever opened on the number of such a name.
The screen plays no part. -/
theorem display_name_opens (egl : EGL) (name : DisplayName)
    (hhost : name.host.head? ≠ some ':') :
    (∀ ledger, ∃ supported after,
      (EGLState.isSupported egl name.print).run ledger = .ok supported after ∧
        (supported = true ↔ name.host = [] ∧ Works egl name.number)) ∧
      ∀ windowId pixmap, construction egl name.print windowId pixmap = .ok () →
        name.host = [] ∧ ∃ eglDisplay, egl.eglGetDisplay name.number = some eglDisplay ∧
          egl.eglInitialize eglDisplay = true := by
  constructor
  · intro ledger
    obtain ⟨supported, after, hrun, _, hiff⟩ := run_isSupported egl name.print ledger
    exact ⟨supported, after, hrun, hiff.trans (supports_print_iff egl hhost)⟩
  · intro windowId pixmap hok
    obtain ⟨h, hopened, _⟩ := (construction_eq_ok_iff egl name.print windowId pixmap).mp hok
    obtain ⟨hlocal, hdisplay⟩ := display_of_opened_print hhost hopened
    exact ⟨hlocal, h.eglDisplay, hdisplay, hopened.started⟩

end Names

/-- Display 10, screen 2. -/
theorem display_name_opens_screenTwo :
    DisplayName.print ⟨[], 10, some 2⟩ = [':', '1', '0', '.', '2'] ∧
      ∃ eglDisplay, EGL.working.eglGetDisplay 10 = some eglDisplay ∧
        EGL.working.eglInitialize eglDisplay = true := by
  refine ⟨by decide, ?_⟩
  exact ((display_name_opens EGL.working ⟨[], 10, some 2⟩ (by decide)).2 7 ⟨3, 4, 4, 16, 64, 0⟩
    (by decide)).2

end XrdpLocal.Egl
