import Mathlib.Data.List.Basic
import XrdpLocal.Library.CString
/-!
# The feedback file descriptor

`notify_feedback_fd` prints a line into a buffer of fixed size and writes as
many bytes as the line has, whether they fit or not. Lines that fit are what
the reader of the file descriptor gets (`lines_notifyAll`).
-/

namespace XrdpLocal.Feedback

def newline : UInt8 := 10

def bufSize : Nat := 1024

def intMax : Nat := 2147483647

/-- `snprintf(buf, sizeof(buf), "%s\\n", msg)`: the result and the buffer. The
result is negative when the length is no `int`. -/
def snprintfLine (buf msg : List UInt8) : Int × List UInt8 :=
  let text := msg ++ [newline]
  if text.length ≤ intMax then ((text.length : Int), CString.printTo 0 buf text) else (-1, buf)

/-- What the file descriptor has received, and whether an error was logged. -/
structure Outcome where
  received : List UInt8
  logged : Bool
  deriving DecidableEq, Repr

/-- `notify_feedback_fd`. `write` gives the number of bytes that it takes, or
`none` if it fails; `stack` is what the buffer holds before. `none` means that
`write` is told to read past the end of the buffer. -/
def notifyFeedbackFd (write : List UInt8 → Option Nat) (stack : Vector UInt8 bufSize)
    (feedbackFd : Int) (msg : List UInt8) : Option Outcome :=
  if feedbackFd < 0 then some ⟨[], false⟩
  else
    let (count, buf) := snprintfLine stack.toList msg
    if count < 0 then some ⟨[], false⟩
    else if buf.length < count.toNat then none
    else
      let bytes := buf.take count.toNat
      let taken := write bytes
      some ⟨bytes.take (taken.getD 0), decide (taken.getD 0 < count.toNat)⟩

def writeAll (bytes : List UInt8) : Option Nat := some bytes.length

/-! ## One message -/

section Message

variable {write : List UInt8 → Option Nat} {stack : Vector UInt8 bufSize} {feedbackFd : Int}
  (hfd : 0 ≤ feedbackFd) {msg : List UInt8}

theorem snprintfLine_of_lt (buf : List UInt8) (hmsg : msg.length < intMax) :
    snprintfLine buf msg =
      (((msg.length + 1 : Nat) : Int), CString.printTo 0 buf (msg ++ [newline])) := by
  have hfits : msg.length + 1 ≤ intMax := hmsg
  simp only [snprintfLine, List.length_append, List.length_singleton, hfits, if_true]

theorem snprintfLine_of_ge (buf : List UInt8) (hmsg : intMax ≤ msg.length) :
    snprintfLine buf msg = (-1, buf) := by
  have hfits : ¬ msg.length + 1 ≤ intMax := Nat.not_le_of_lt (Nat.lt_succ_of_le hmsg)
  simp only [snprintfLine, List.length_append, List.length_singleton, hfits, if_false]

include hfd

theorem notifyFeedbackFd_of_lt (hmsg : msg.length < intMax) :
    notifyFeedbackFd write stack feedbackFd msg =
      if msg.length < bufSize then
        let bytes := (CString.printTo 0 stack.toList (msg ++ [newline])).take (msg.length + 1)
        some ⟨bytes.take ((write bytes).getD 0), decide ((write bytes).getD 0 < msg.length + 1)⟩
      else none := by
  have hlength : (CString.printTo 0 stack.toList (msg ++ [newline])).length = bufSize := by
    rw [CString.length_printTo, Vector.length_toList]
  have hcount : ¬ ((msg.length + 1 : Nat) : Int) < 0 := Int.not_lt.mpr (Int.natCast_nonneg _)
  rw [notifyFeedbackFd, if_neg (Int.not_lt.mpr hfd), snprintfLine_of_lt _ hmsg]
  simp only [hcount, if_false, hlength, Int.toNat_natCast]
  by_cases hsize : msg.length < bufSize
  · rw [if_neg (by omega), if_pos hsize]
  · rw [if_pos (by omega), if_neg hsize]

theorem notifyFeedbackFd_of_ge (hmsg : intMax ≤ msg.length) :
    notifyFeedbackFd write stack feedbackFd msg = some ⟨[], false⟩ := by
  rw [notifyFeedbackFd, if_neg (Int.not_lt.mpr hfd), snprintfLine_of_ge _ hmsg]
  rfl

theorem notifyFeedbackFd_line (hmsg : msg.length + 2 ≤ bufSize) :
    notifyFeedbackFd writeAll stack feedbackFd msg = some ⟨msg ++ [newline], false⟩ := by
  have hmax : msg.length < intMax := lt_of_lt_of_le (by omega) (show bufSize ≤ intMax by decide)
  have hfits : (msg ++ [newline]).length < stack.toList.length := by
    rw [List.length_append, Vector.length_toList]
    exact hmsg
  have hbytes : (CString.printTo 0 stack.toList (msg ++ [newline])).take (msg.length + 1) =
      msg ++ [newline] := by
    have htake : (CString.printTo 0 stack.toList (msg ++ [newline])).take
        (msg ++ [newline]).length = msg ++ [newline] := CString.take_printTo hfits
    rwa [List.length_append, List.length_singleton] at htake
  rw [notifyFeedbackFd_of_lt hfd hmax, if_pos (by omega)]
  simp [hbytes, writeAll]

/-- The newline is cut off, and the terminator is written in its place. -/
theorem notifyFeedbackFd_cut (hmsg : msg.length + 1 = bufSize) :
    notifyFeedbackFd writeAll stack feedbackFd msg = some ⟨msg ++ [0], false⟩ := by
  have hmax : msg.length < intMax := lt_of_lt_of_le (by omega) (show bufSize ≤ intMax by decide)
  have hbytes : (CString.printTo 0 stack.toList (msg ++ [newline])).take (msg.length + 1) =
      msg ++ [0] := by
    rw [CString.printTo_of_length_eq (by rw [Vector.length_toList, hmsg])]
    exact List.take_of_length_le (by rw [List.length_append, List.length_singleton])
  rw [notifyFeedbackFd_of_lt hfd hmax, if_pos (by omega)]
  simp [hbytes, writeAll]

/-- `write` reads inside of the buffer unless the message is as long as the
buffer or longer, and the line arrives if there is also room for the newline
and the terminator. -/
theorem notify_iff (write : List UInt8 → Option Nat) (stack : Vector UInt8 bufSize)
    (msg : List UInt8) :
    ((notifyFeedbackFd write stack feedbackFd msg).isSome ↔
        msg.length < bufSize ∨ intMax ≤ msg.length) ∧
      (notifyFeedbackFd writeAll stack feedbackFd msg = some ⟨msg ++ [newline], false⟩ ↔
        msg.length + 2 ≤ bufSize) := by
  have hinside : ∀ write, (notifyFeedbackFd write stack feedbackFd msg).isSome ↔
      msg.length < bufSize ∨ intMax ≤ msg.length := by
    intro write
    rcases Nat.lt_or_ge msg.length intMax with hmax | hmax
    · rw [notifyFeedbackFd_of_lt hfd hmax]
      by_cases hsize : msg.length < bufSize
      · simp [hsize]
      · simp [hsize, hmax]
    · rw [notifyFeedbackFd_of_ge hfd hmax]
      simp [hmax]
  refine ⟨hinside write, ?_, notifyFeedbackFd_line hfd⟩
  intro hline
  rcases (hinside writeAll).mp (by rw [hline]; rfl) with hsize | hmax
  · by_contra hlong
    rw [notifyFeedbackFd_cut hfd (by omega)] at hline
    simp [newline] at hline
  · rw [notifyFeedbackFd_of_ge hfd hmax] at hline
    simp at hline

end Message

/-- A message with room to spare. -/
theorem notify_iff_connected :
    notifyFeedbackFd writeAll (Vector.replicate bufSize 7) 5
        [99, 111, 110, 110, 101, 99, 116, 101, 100] =
      some ⟨[99, 111, 110, 110, 101, 99, 116, 101, 100, 10], false⟩ :=
  (notify_iff (by decide) writeAll _ _).2.mpr (by decide)

/-! ## Many messages -/

/-- The messages one after the other, each with what its buffer holds before:
what the file descriptor has received. -/
def notifyAll (write : List UInt8 → Option Nat) (feedbackFd : Int)
    (calls : List (Vector UInt8 bufSize × List UInt8)) : Option (List UInt8) :=
  calls.foldlM (fun received call =>
    (notifyFeedbackFd write call.1 feedbackFd call.2).map fun outcome =>
      received ++ outcome.received) []

theorem splitOn_flatMap {msgs : List (List UInt8)} (hmsgs : ∀ msg ∈ msgs, newline ∉ msg) :
    (msgs.flatMap fun msg => msg ++ [newline]).splitOn newline = msgs ++ [[]] := by
  induction msgs with
  | nil => rfl
  | cons msg msgs ih =>
      obtain ⟨hmsg, hrest⟩ := List.forall_mem_cons.mp hmsgs
      rw [List.flatMap_cons, List.append_assoc, List.singleton_append,
        List.splitOn_append_cons_self_of_not_mem hmsg, ih hrest, List.cons_append]

/-- The reader of the lines gets the messages, whatever is on the stack. -/
theorem lines_notifyAll {feedbackFd : Int} (hfd : 0 ≤ feedbackFd)
    {calls : List (Vector UInt8 bufSize × List UInt8)}
    (hcalls : ∀ call ∈ calls, call.2.length + 2 ≤ bufSize ∧ newline ∉ call.2) :
    ∃ received, notifyAll writeAll feedbackFd calls = some received ∧
      received.splitOn newline = calls.map Prod.snd ++ [[]] := by
  refine ⟨(calls.map Prod.snd).flatMap fun msg => msg ++ [newline], ?_, splitOn_flatMap ?_⟩
  · suffices h : ∀ received, calls.foldlM (fun received call =>
        (notifyFeedbackFd writeAll call.1 feedbackFd call.2).map fun outcome =>
          received ++ outcome.received) received =
        some (received ++ (calls.map Prod.snd).flatMap fun msg => msg ++ [newline]) from h []
    induction calls with
    | nil => simp
    | cons call calls ih =>
        obtain ⟨hcall, hrest⟩ := List.forall_mem_cons.mp hcalls
        intro received
        rw [List.foldlM_cons, notifyFeedbackFd_line hfd hcall.1, Option.map_some]
        show calls.foldlM _ (received ++ (call.2 ++ [newline])) = _
        rw [ih hrest, List.map_cons, List.flatMap_cons, List.append_assoc]
  · intro msg hmsg
    obtain ⟨call, hcall, rfl⟩ := List.mem_map.mp hmsg
    exact (hcalls call hcall).2

theorem lines_notifyAll_twoMessages :
    ∃ received, notifyAll writeAll 5
        [(Vector.replicate bufSize 7, [104, 105]), (Vector.replicate bufSize 0, [])] =
          some received ∧
      received.splitOn newline = [[104, 105], [], []] := by
  apply lines_notifyAll (by decide)
  intro call hcall
  rcases List.mem_cons.mp hcall with rfl | hcall
  · decide
  · cases List.mem_singleton.mp hcall
    decide

end XrdpLocal.Feedback
