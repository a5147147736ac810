import Mathlib.Data.Finset.Image
import Mathlib.Data.List.Basic
/-!
# Keys held by the reader of a stream

A reader of input learns of keys that go down and up, and of other things that
happen while some keys are held. The module says what a reader of a translated
stream knows, and what a reader knows who has got only a part of it.
-/

namespace Keys

inductive Signal (κ ν : Type*)
  | down (key : κ)
  | up (key : κ)
  | other (value : ν)
  deriving DecidableEq, Repr

section Reader

variable {κ ν : Type*} [DecidableEq κ]

def Signal.after (held : Finset κ) : Signal κ ν → Finset κ
  | .down key => insert key held
  | .up key => held.erase key
  | .other _ => held

/-- The keys held at the end, with `start` held at the beginning. -/
def held (start : Finset κ) (signals : List (Signal κ ν)) : Finset κ :=
  signals.foldl Signal.after start

/-- Everything else that happens, with the keys held at that time. -/
def observed : Finset κ → List (Signal κ ν) → List (Finset κ × ν)
  | _, [] => []
  | start, .down key :: signals => observed (insert key start) signals
  | start, .up key :: signals => observed (start.erase key) signals
  | start, .other value :: signals => (start, value) :: observed start signals

@[simp] theorem held_nil (start : Finset κ) : held start ([] : List (Signal κ ν)) = start := rfl

@[simp] theorem held_cons (start : Finset κ) (signal : Signal κ ν)
    (signals : List (Signal κ ν)) :
    held start (signal :: signals) = held (signal.after start) signals := rfl

theorem held_append (start : Finset κ) (signals signals' : List (Signal κ ν)) :
    held start (signals ++ signals') = held (held start signals) signals' :=
  List.foldl_append

theorem observed_append (start : Finset κ) (signals signals' : List (Signal κ ν)) :
    observed start (signals ++ signals') =
      observed start signals ++ observed (held start signals) signals' := by
  induction signals generalizing start with
  | nil => rfl
  | cons signal signals ih =>
      cases signal with
      | down key | up key => exact ih _
      | other value => exact congrArg _ (ih start)

theorem observed_isPrefix (start : Finset κ) {signals signals' : List (Signal κ ν)}
    (h : signals <+: signals') : observed start signals <+: observed start signals' := by
  obtain ⟨rest, rfl⟩ := h
  rw [observed_append]
  exact List.prefix_append _ _

theorem held_map_other (start : Finset κ) (values : List ν) :
    held start (values.map .other) = start := by
  induction values with
  | nil => rfl
  | cons value values ih => exact ih

theorem observed_map_other (start : Finset κ) (values : List ν) :
    observed start (values.map .other) = values.map fun value => (start, value) := by
  induction values with
  | nil => rfl
  | cons value values ih => exact congrArg _ ih

end Reader

/-! ## Translation -/

section Translation

variable {κ ν κ' ν' : Type*} [DecidableEq κ] [DecidableEq κ'] (code : κ → κ') (spell : ν → List ν')

/-- Keys are renamed, and every other value is spelt out. -/
def transcribe : Signal κ ν → List (Signal κ' ν')
  | .down key => [.down (code key)]
  | .up key => [.up (code key)]
  | .other value => (spell value).map .other

def Signal.Within (keys : Set κ) : Signal κ ν → Prop
  | .down key | .up key => key ∈ keys
  | .other _ => True

variable {code} {keys : Set κ} (hcode : Set.InjOn code keys)

include hcode

theorem image_erase_of_injOn {start : Finset κ} (hstart : ∀ key ∈ start, key ∈ keys) {key : κ}
    (hkey : key ∈ keys) : (start.erase key).image code = (start.image code).erase (code key) := by
  ext c
  simp only [Finset.mem_image, Finset.mem_erase]
  constructor
  · rintro ⟨other, ⟨hne, hmem⟩, rfl⟩
    refine ⟨fun heq => hne ?_, other, hmem, rfl⟩
    exact hcode (hstart other hmem) hkey heq
  · rintro ⟨hne, other, hmem, rfl⟩
    refine ⟨other, ⟨fun heq => hne ?_, hmem⟩, rfl⟩
    rw [heq]

/-- A reader of the translation holds the translated keys, and sees what
happens with them, provided that no two keys have one name. -/
theorem reads_transcribe {start : Finset κ} (hstart : ∀ key ∈ start, key ∈ keys)
    {signals : List (Signal κ ν)} (hsignals : ∀ signal ∈ signals, signal.Within keys) :
    held (start.image code) (signals.flatMap (transcribe code spell)) =
        (held start signals).image code ∧
      observed (start.image code) (signals.flatMap (transcribe code spell)) =
        (observed start signals).flatMap fun seen =>
          (spell seen.2).map fun value => (seen.1.image code, value) := by
  induction signals generalizing start with
  | nil => exact ⟨rfl, rfl⟩
  | cons signal signals ih =>
      obtain ⟨hsignal, hrest⟩ := List.forall_mem_cons.mp hsignals
      rw [List.flatMap_cons, held_append, observed_append]
      cases signal with
      | down key =>
          have hinsert : ∀ other ∈ insert key start, other ∈ keys := by
            intro other hother
            rcases Finset.mem_insert.mp hother with rfl | hmem
            · exact hsignal
            · exact hstart other hmem
          have hnext := ih hinsert hrest
          rw [Finset.image_insert] at hnext
          exact hnext
      | up key =>
          have herase : ∀ other ∈ start.erase key, other ∈ keys := fun other hother =>
            hstart other (Finset.mem_of_mem_erase hother)
          have hnext := ih herase hrest
          rw [image_erase_of_injOn hcode hstart hsignal] at hnext
          exact hnext
      | other value =>
          have hnext := ih hstart hrest
          simp only [transcribe, held_map_other, observed_map_other]
          refine ⟨hnext.1, ?_⟩
          rw [hnext.2]
          rfl

end Translation

/-! ## Parts of a stream -/

/-- Who has got a part of a stream that is sent piece by piece has got some
pieces as a whole, and of the next one a proper part. -/
theorem part_flatMap_cases {α β : Type*} {f : α → List β} {xs : List α} {got : List β}
    (hgot : got <+: xs.flatMap f) :
    got = xs.flatMap f ∨
      ∃ whole next part, whole ++ [next] <+: xs ∧ part <+: f next ∧ part ≠ f next ∧
        got = whole.flatMap f ++ part := by
  induction xs generalizing got with
  | nil => exact .inl (List.prefix_nil.mp hgot)
  | cons x xs ih =>
      rw [List.flatMap_cons] at hgot ⊢
      by_cases hpart : f x <+: got
      · obtain ⟨rest, rfl⟩ := hpart
        have hrest : rest <+: xs.flatMap f := (List.prefix_append_right_inj (f x)).mp hgot
        rcases ih hrest with rfl | ⟨whole, next, part, hwhole, hpre, hne, rfl⟩
        · exact .inl rfl
        · refine .inr ⟨x :: whole, next, part, ?_, hpre, hne, ?_⟩
          · exact List.cons_prefix_cons.mpr ⟨rfl, hwhole⟩
          · rw [List.flatMap_cons, List.append_assoc]
      · have hpre : got <+: f x := by
          rcases List.prefix_or_prefix_of_prefix hgot (List.prefix_append _ _) with h | h
          · exact h
          · exact absurd h hpart
        refine .inr ⟨[], x, got, ?_, hpre, ?_, rfl⟩
        · exact List.cons_prefix_cons.mpr ⟨rfl, List.nil_prefix⟩
        · rintro rfl
          exact hpart (List.prefix_refl _)

end Keys
