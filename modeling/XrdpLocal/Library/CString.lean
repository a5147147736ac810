import Mathlib.Data.List.Infix
/-!
# C strings

A C string is the list of its characters, without the terminator. `strstr`
tries every position from the front, and printing cuts a text off where the
buffer ends.
-/

namespace CString

variable {α : Type*} [DecidableEq α]

/-- `strstr(haystack, needle)`: what starts at the first occurrence, and `none`
for a null pointer. -/
def strstr (haystack needle : List α) : Option (List α) :=
  if needle <+: haystack then some haystack
  else
    match haystack with
    | [] => none
    | _ :: rest => strstr rest needle

theorem strstr_cons (a : α) (rest needle : List α) :
    strstr (a :: rest) needle =
      if needle <+: a :: rest then some (a :: rest) else strstr rest needle :=
  rfl

/-- `strstr` finds something exactly where there is an occurrence. -/
theorem isSome_strstr (haystack needle : List α) :
    (strstr haystack needle).isSome ↔ needle <:+: haystack := by
  induction haystack with
  | nil =>
      unfold strstr
      split <;> simp_all
  | cons a rest ih =>
      rw [strstr_cons, List.infix_cons_iff]
      by_cases hhere : needle <+: a :: rest
      · simp [hhere]
      · rw [if_neg hhere, ih, or_iff_right hhere]

/-! ## Printing -/

section Print

variable {β : Type*}

/-- What `snprintf` leaves of a buffer: as much of the text as fits before the
terminator, and what was there behind it. -/
def printTo (terminator : β) (buf text : List β) : List β :=
  match buf.length with
  | 0 => buf
  | size + 1 => text.take size ++ [terminator] ++ buf.drop ((text.take size).length + 1)

theorem length_printTo (terminator : β) (buf text : List β) :
    (printTo terminator buf text).length = buf.length := by
  unfold printTo
  split
  · rfl
  · next size hsize =>
      simp only [List.length_append, List.length_drop, List.length_singleton, List.length_take,
        hsize]
      omega

theorem take_printTo {terminator : β} {buf text : List β} (hfits : text.length < buf.length) :
    (printTo terminator buf text).take text.length = text := by
  unfold printTo
  split
  · next hsize => omega
  · next size hsize =>
      have hall : text.take size = text := List.take_of_length_le (by omega)
      rw [hall, List.append_assoc, List.take_left]

theorem printTo_of_length_eq {terminator : β} {buf text : List β} {last : β}
    (hlength : text.length + 1 = buf.length) :
    printTo terminator buf (text ++ [last]) = text ++ [terminator] := by
  unfold printTo
  split
  · next hsize => omega
  · next size hsize =>
      have htake : (text ++ [last]).take size = text := List.take_left' (by omega)
      rw [htake, List.drop_of_length_le (by omega), List.append_nil]

end Print

end CString
