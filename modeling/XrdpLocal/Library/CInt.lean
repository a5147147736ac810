import Mathlib.Data.Int.Order.Basic
/-!
# C++ `int` arithmetic

Values of a 32-bit `int` are integers in `InRange`. Two readings of an
operation are provided: `wrap` is what the machine computes, and `check` is
what the language defines, with `none` for signed overflow. Division and
shifts are undefined on some operands under either reading.
-/

namespace CInt

def InRange (v : Int) : Prop := -2147483648 ≤ v ∧ v ≤ 2147483647

instance (v : Int) : Decidable (InRange v) :=
  inferInstanceAs (Decidable (_ ∧ _))

/-- Two's complement: the `int` congruent to `v` modulo `2 ^ 32`. -/
def wrap (v : Int) : Int := v.bmod 4294967296

def toUnsigned (v : Int) : Int := v % 4294967296

def check (v : Int) : Option Int := if InRange v then some v else none

def add (a b : Int) : Option Int := check (a + b)

def sub (a b : Int) : Option Int := check (a - b)

def mul (a b : Int) : Option Int := check (a * b)

/-- Division truncates towards zero. -/
def div (a b : Int) : Option Int := if b = 0 then none else check (a.tdiv b)

/-- The remainder is defined when the quotient is. -/
def mod (a b : Int) : Option Int := (div a b).map fun _ => a.tmod b

def shiftRight (v : UInt32) (count : Int) : Option UInt32 :=
  if 0 ≤ count ∧ count < 32 then some (v >>> UInt32.ofNat count.toNat) else none

theorem wrap_of_inRange {v : Int} (h : InRange v) : wrap v = v := by
  obtain ⟨hlow, hhigh⟩ := h
  apply Int.bmod_eq_of_le <;> omega

theorem inRange_wrap (v : Int) : InRange (wrap v) := by
  have hlow := Int.le_bmod (x := v) (m := 4294967296) (by omega)
  have hhigh := Int.bmod_lt (x := v) (m := 4294967296) (by omega)
  constructor <;> unfold wrap <;> omega

/-- Intermediate results need not be wrapped. -/
theorem wrap_wrap_add (v w : Int) : wrap (wrap v + w) = wrap (v + w) :=
  Int.bmod_add_bmod

theorem toUnsigned_of_nonneg {v : Int} (hlow : 0 ≤ v) (h : InRange v) : toUnsigned v = v := by
  apply Int.emod_eq_of_lt hlow
  have hhigh := h.2
  omega

@[simp] theorem check_eq_some_iff {v w : Int} : check v = some w ↔ InRange v ∧ v = w := by
  unfold check
  split <;> simp_all

theorem check_of_inRange {v : Int} (h : InRange v) : check v = some v :=
  check_eq_some_iff.mpr ⟨h, rfl⟩

theorem inRange_natCast {n : Nat} (h : n ≤ 2147483647) : InRange n := by
  constructor <;> omega

/-! ## Operations on natural numbers that stay in range -/

section Nat

variable {a b : Nat}

theorem add_natCast (h : a + b ≤ 2147483647) : add a b = some ((a + b : Nat) : Int) :=
  check_of_inRange (inRange_natCast h)

theorem mul_natCast (h : a * b ≤ 2147483647) : mul a b = some ((a * b : Nat) : Int) := by
  rw [mul, ← Int.natCast_mul]
  exact check_of_inRange (inRange_natCast h)

theorem sub_natCast (hle : b ≤ a) (h : a ≤ 2147483647) : sub a b = some ((a - b : Nat) : Int) := by
  rw [sub, ← Int.natCast_sub hle]
  exact check_of_inRange (inRange_natCast (by omega))

theorem div_natCast (hb : 0 < b) (h : a ≤ 2147483647) : div a b = some ((a / b : Nat) : Int) := by
  have hquot : Int.tdiv a b = (a / b : Nat) := Int.ofNat_tdiv a b
  have hle : a / b ≤ 2147483647 := Nat.le_trans (Nat.div_le_self a b) h
  rw [div, if_neg (by omega), hquot, check_of_inRange (inRange_natCast hle)]

theorem mod_natCast (hb : 0 < b) (h : a ≤ 2147483647) : mod a b = some ((a % b : Nat) : Int) := by
  rw [mod, div_natCast hb h, Option.map_some]
  rfl

theorem shiftRight_natCast (v : UInt32) {count : Nat} (h : count < 32) :
    shiftRight v count = some (v >>> UInt32.ofNat count) := by
  rw [shiftRight, if_pos (by omega), Int.toNat_natCast]

end Nat

theorem shiftRight_isSome {v : UInt32} {count : Int} :
    (shiftRight v count).isSome ↔ 0 ≤ count ∧ count < 32 := by
  unfold shiftRight
  split <;> simp_all

end CInt
