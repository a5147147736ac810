import Mathlib.Data.List.Forall2
import Mathlib.Data.Set.Function
import XrdpLocal.Xup.Events
/-!
# The keyboard encoding

Which X scancodes, and which sequences of key calls, the encoding of
`send_key_event_from_x_scancode` confuses. The proof is by `xScancode`, which
undoes the encoding wherever it can be undone.
-/

namespace XrdpLocal.Xup

/-- A left inverse of `keyParams`, except at scancode 101. -/
def xScancode : Int × Int → Int
  | (56, 256) => 108
  | (29, 256) => 105
  | (102, 0) => 127
  | (28, 256) => 104
  | (104, 256) => 106
  | (55, 256) => 107
  | (93, 0) => 135
  | (72, 256) => 111
  | (75, 256) => 113
  | (77, 256) => 114
  | (80, 256) => 116
  | (73, 256) => 112
  | (81, 256) => 117
  | (71, 256) => 110
  | (79, 256) => 115
  | (82, 256) => 118
  | (83, 256) => 119
  | (param3, _) => param3 + 8

/-- The menu key and the key of scancode 101 are both sent as 93. -/
def SentAs93 (scanCode : Int) : Prop := scanCode = 101 ∨ scanCode = 135

instance (scanCode : Int) : Decidable (SentAs93 scanCode) :=
  inferInstanceAs (Decidable (_ ∨ _))

theorem xScancode_of_plain {param3 : Int} (hpause : param3 ≠ 102) (hmenu : param3 ≠ 93) :
    xScancode (param3, 0) = param3 + 8 := by
  unfold xScancode
  split <;> simp_all

/-- The encoding can be undone for every scancode but 101. -/
theorem xScancode_keyParams (scanCode : Int) :
    xScancode (keyParams scanCode) = if scanCode = 101 then 135 else scanCode := by
  unfold keyParams
  split
  case h_18 =>
    have hhome : scanCode ≠ 110 := by assumption
    by_cases h : scanCode = 101
    · rw [h]
      rfl
    · have hpause : scanCode - 8 ≠ 102 := by omega
      have hmenu : scanCode - 8 ≠ 93 := by omega
      rw [if_neg h, xScancode_of_plain hpause hmenu, Int.sub_add_cancel]
  all_goals rfl

theorem keyParams_eq_iff {a b : Int} :
    keyParams a = keyParams b ↔ a = b ∨ (SentAs93 a ∧ SentAs93 b) := by
  constructor
  · intro heq
    have hback := congrArg xScancode heq
    rw [xScancode_keyParams, xScancode_keyParams] at hback
    unfold SentAs93
    split at hback <;> split at hback <;> omega
  · rintro (rfl | ⟨rfl | rfl, rfl | rfl⟩) <;> rfl

theorem injOn_keyParams_iff (keys : Set Int) :
    Set.InjOn keyParams keys ↔ ¬ (101 ∈ keys ∧ 135 ∈ keys) := by
  constructor
  · rintro hinj ⟨hmem, hmem'⟩
    exact absurd (hinj hmem hmem' rfl) (by decide)
  · rintro hnot a ha b hb heq
    rcases keyParams_eq_iff.mp heq with hab | ⟨rfl | rfl, rfl | rfl⟩
    · exact hab
    · rfl
    · exact absurd ⟨ha, hb⟩ hnot
    · exact absurd ⟨hb, ha⟩ hnot
    · rfl

/-! ## Sequences of calls -/

inductive KeyCall
  | keyDown (scanCode : Int)
  | keyUp (scanCode : Int)
  deriving DecidableEq, Repr

def KeyCall.scanCode : KeyCall → Int
  | .keyDown scanCode | .keyUp scanCode => scanCode

def KeyCall.eventType : KeyCall → Msg
  | .keyDown _ => .wmKeyDown
  | .keyUp _ => .wmKeyUp

def KeyCall.ops : KeyCall → List InputOp
  | .keyDown scanCode => Xup.keyDown scanCode
  | .keyUp scanCode => Xup.keyUp scanCode

def XrdpModState.callKeys (st : XrdpModState) (calls : List KeyCall) : XrdpModState :=
  calls.foldl (fun st call => call.ops.foldl (fun st op => st.enqueueXrdpEvent op.event) st) st

def XrdpModState.keyCodes (st : XrdpModState) : List (Msg × Int × Int) :=
  st.xrdpEvents.map fun event => (event.msg, event.param3, event.param4)

/-- The same calls, except that some of the keys 101 and 135 are exchanged. -/
def ExchangeSentAs93 (s t : List KeyCall) : Prop :=
  s ≠ t ∧ List.Forall₂ (fun a b => a.eventType = b.eventType ∧
    (a.scanCode = b.scanCode ∨ (SentAs93 a.scanCode ∧ SentAs93 b.scanCode))) s t

theorem KeyCall.ops_eq (call : KeyCall) :
    call.ops = [.enqueue ⟨call.eventType, 0, 0, (keyParams call.scanCode).1,
      (keyParams call.scanCode).2⟩] := by
  cases call <;> rfl

theorem xrdpEvents_callKeys {st : XrdpModState} (hmod : st.modEvent = true)
    (calls : List KeyCall) :
    (st.callKeys calls).xrdpEvents = st.xrdpEvents ++ calls.map fun call =>
      ⟨call.eventType, 0, 0, (keyParams call.scanCode).1, (keyParams call.scanCode).2⟩ := by
  induction calls generalizing st with
  | nil => simp [XrdpModState.callKeys]
  | cons call calls ih =>
      have hmod' := (modEvent_enqueueXrdpEvent st ⟨call.eventType, 0, 0,
        (keyParams call.scanCode).1, (keyParams call.scanCode).2⟩).trans hmod
      have hstep : st.callKeys (call :: calls) = (st.enqueueXrdpEvent ⟨call.eventType, 0, 0,
          (keyParams call.scanCode).1, (keyParams call.scanCode).2⟩).callKeys calls := by
        simp [XrdpModState.callKeys, KeyCall.ops_eq, InputOp.event]
      rw [hstep, ih hmod', xrdpEvents_enqueueXrdpEvent hmod]
      simp

theorem keyCodes_callKeys {st : XrdpModState} (hmod : st.modEvent = true)
    (calls : List KeyCall) :
    (st.callKeys calls).keyCodes = st.keyCodes ++ calls.map fun call =>
      (call.eventType, keyParams call.scanCode) := by
  rw [XrdpModState.keyCodes, xrdpEvents_callKeys hmod, List.map_append, List.map_map]
  rfl

/-- Two sequences of calls that queue the same codes are equal, exactly when
they do not differ by an exchange of the keys 101 and 135. -/
theorem keyCodes_injective_iff {st : XrdpModState} (hmod : st.modEvent = true)
    (s t : List KeyCall) :
    ((st.callKeys s).keyCodes = (st.callKeys t).keyCodes → s = t) ↔
      ¬ ExchangeSentAs93 s t := by
  have hcodes : (st.callKeys s).keyCodes = (st.callKeys t).keyCodes ↔
      List.Forall₂ (fun a b : KeyCall => a.eventType = b.eventType ∧
        (a.scanCode = b.scanCode ∨ (SentAs93 a.scanCode ∧ SentAs93 b.scanCode))) s t := by
    rw [keyCodes_callKeys hmod, keyCodes_callKeys hmod, List.append_right_inj,
      ← List.forall₂_eq_eq_eq, List.forall₂_map_left_iff, List.forall₂_map_right_iff]
    simp only [Prod.mk.injEq, keyParams_eq_iff]
  rw [hcodes, ExchangeSentAs93]
  tauto

/-- Pressing the menu key is not releasing it. -/
theorem keyCodes_injective_iff_pressRelease :
    ((({ modEvent := true, dmaBufSupportedInLibxup := false } : XrdpModState).callKeys
        [.keyDown 135]).keyCodes =
      (({ modEvent := true, dmaBufSupportedInLibxup := false } : XrdpModState).callKeys
        [.keyUp 135]).keyCodes → [KeyCall.keyDown 135] = [.keyUp 135]) ∧
      ¬ ExchangeSentAs93 [.keyDown 135] [.keyUp 135] := by
  have hnot : ¬ ExchangeSentAs93 [.keyDown 135] [.keyUp 135] := by
    rintro ⟨_, halike⟩
    cases halike with
    | cons hab _ => exact absurd hab.1 (by decide)
  exact ⟨(keyCodes_injective_iff rfl _ _).mpr hnot, hnot⟩

/-- The menu key and the key 101. -/
theorem not_keyCodes_injective :
    ¬ ∀ s t : List KeyCall,
      (({ modEvent := true, dmaBufSupportedInLibxup := false } : XrdpModState).callKeys s).keyCodes =
        (({ modEvent := true, dmaBufSupportedInLibxup := false } : XrdpModState).callKeys t).keyCodes →
      s = t :=
  fun hall => absurd (hall [.keyDown 135, .keyUp 135] [.keyDown 101, .keyUp 135] rfl) (by decide)

end XrdpLocal.Xup
