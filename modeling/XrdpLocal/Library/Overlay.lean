import Mathlib.Data.Set.Piecewise
/-!
# Overlays

Parts of one function copied onto another, region by region. All regions are
copied from the same source, so the result depends only on which points belong
to some region (`overlay_eq`): neither on the order of the regions, nor on
overlaps, nor on how often they are copied.
-/

namespace Overlay

variable {α β : Type*}

open Classical in
/-- The regions of `source` copied onto `old`, one after the other. -/
noncomputable def overlay (source : α → β) (regions : List (Set α)) (old : α → β) : α → β :=
  regions.foldl (fun f region => region.piecewise source f) old

def damage (regions : List (Set α)) : Set α := {a | ∃ region ∈ regions, a ∈ region}

theorem mem_damage {regions : List (Set α)} {a : α} :
    a ∈ damage regions ↔ ∃ region ∈ regions, a ∈ region := Iff.rfl

open Classical in
theorem overlay_cons (source : α → β) (region : Set α) (regions : List (Set α)) (old : α → β) :
    overlay source (region :: regions) old =
      overlay source regions (region.piecewise source old) := rfl

open Classical in
/-- The closed form of an overlay. -/
theorem overlay_eq (source : α → β) (regions : List (Set α)) (old : α → β) :
    overlay source regions old = (damage regions).piecewise source old := by
  induction regions generalizing old with
  | nil =>
      ext a
      have hnot : a ∉ damage [] := by simp [mem_damage]
      rw [Set.piecewise_eq_of_notMem _ _ _ hnot]
      rfl
  | cons region regions ih =>
      rw [overlay_cons, ih]
      ext a
      by_cases hrest : a ∈ damage regions
      · have hmem : a ∈ damage (region :: regions) := by
          obtain ⟨r, hr, ha⟩ := hrest
          exact ⟨r, List.mem_cons_of_mem region hr, ha⟩
        rw [Set.piecewise_eq_of_mem _ _ _ hrest, Set.piecewise_eq_of_mem _ _ _ hmem]
      · have hiff : a ∈ damage (region :: regions) ↔ a ∈ region := by
          simp only [mem_damage, List.mem_cons, exists_eq_or_imp]
          exact or_iff_left hrest
        rw [Set.piecewise_eq_of_notMem _ _ _ hrest]
        simp only [Set.piecewise, hiff]

theorem overlay_of_mem {source old : α → β} {regions : List (Set α)} {a : α}
    (ha : a ∈ damage regions) : overlay source regions old a = source a := by
  classical
  rw [overlay_eq, Set.piecewise_eq_of_mem _ _ _ ha]

theorem overlay_of_notMem {source old : α → β} {regions : List (Set α)} {a : α}
    (ha : a ∉ damage regions) : overlay source regions old a = old a := by
  classical
  rw [overlay_eq, Set.piecewise_eq_of_notMem _ _ _ ha]

theorem overlay_congr {regions regions' : List (Set α)}
    (h : ∀ region, region ∈ regions ↔ region ∈ regions') (source old : α → β) :
    overlay source regions old = overlay source regions' old := by
  have hdamage : damage regions = damage regions' := by
    ext a
    simp only [mem_damage, h]
  classical
  rw [overlay_eq, overlay_eq, hdamage]

/-- A second copy changes nothing. -/
theorem overlay_overlay (source : α → β) (regions : List (Set α)) (old : α → β) :
    overlay source regions (overlay source regions old) = overlay source regions old := by
  ext a
  by_cases ha : a ∈ damage regions
  · rw [overlay_of_mem ha, overlay_of_mem ha]
  · rw [overlay_of_notMem ha]

end Overlay
