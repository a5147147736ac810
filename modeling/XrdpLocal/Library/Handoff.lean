import XrdpLocal.Library.Machine
import Mathlib.Data.List.Chain
/-!
# Synchronous hand-off

A caller has one job at a time done by a worker. The job is called, posted to
the worker, worked on, acknowledged together with the worker's state, and
returned from; the next call comes after that.

`transcript` is what a caller sees that does every job itself. A hand-off shows
nothing else: `sequential` gives the worker, the acks and the jobs returned as
functions of the calls, and `acks_isPrefix` says that the acks so far begin that
transcript.
-/

namespace StateMachine

inductive Phase (J : Type*)
  | idle
  | called (j : J)
  | posted (j : J)
  | worked (j : J)
  | acked (j : J)

structure Handoff (J W : Type*) where
  phase : Phase J := .idle
  worker : W
  calls : List J := []
  acks : List (J × W) := []
  returned : List J := []

/-- Every job with the state it leaves behind, when the jobs are done in
order. -/
def transcript {J W : Type*} (work : W → J → W) : W → List J → List (J × W)
  | _, [] => []
  | w, j :: js => (j, work w j) :: transcript work (work w j) js

section Transcript

variable {J W : Type*} (work : W → J → W)

theorem transcript_append (w : W) (js ks : List J) :
    transcript work w (js ++ ks) =
      transcript work w js ++ transcript work (js.foldl work w) ks := by
  induction js generalizing w with
  | nil => rfl
  | cons j js ih =>
      have hrest := ih (work w j)
      simp only [List.cons_append, transcript, List.foldl_cons, hrest]

theorem transcript_concat (w : W) (js : List J) (j : J) :
    transcript work w (js ++ [j]) =
      transcript work w js ++ [(j, (js ++ [j]).foldl work w)] := by
  rw [transcript_append, List.foldl_concat]
  rfl

/-- The i-th entry carries the state after the first i + 1 jobs. -/
theorem getElem?_transcript (w : W) (js : List J) (i : Nat) :
    (transcript work w js)[i]? =
      js[i]?.map fun j => (j, (js.take (i + 1)).foldl work w) := by
  induction js generalizing w i with
  | nil => rfl
  | cons j js ih =>
      cases i with
      | zero => rfl
      | succ i =>
          simp only [transcript, List.getElem?_cons_succ, ih, List.take_succ_cons,
            List.foldl_cons]

@[simp] theorem length_transcript (w : W) (js : List J) :
    (transcript work w js).length = js.length := by
  induction js generalizing w with
  | nil => rfl
  | cons j js ih => simp only [transcript, List.length_cons, ih]

theorem transcript_isPrefix (w : W) {js ks : List J} (h : js <+: ks) :
    transcript work w js <+: transcript work w ks := by
  obtain ⟨more, hmore⟩ := h
  rw [← hmore, transcript_append]
  exact List.prefix_append _ _

/-! Jobs that build on the one before, such as increments: if the worker
reflects a job after doing it, provided that it reflected the job before, then
it does so at every entry of the transcript of a chain of jobs. -/

section Chain

variable {work} {start : W} {first : J → Prop} {follows : J → J → Prop} {Reflects : W → J → Prop}

theorem transcript_reflects_of_follows
    (hnext : ∀ w j k, Reflects w j → follows j k → Reflects (work w k) k) {w : W} {j : J}
    {js : List J} (hj : Reflects w j) (hchain : (j :: js).IsChain follows) :
    ∀ entry ∈ transcript work w js, Reflects entry.2 entry.1 := by
  induction js generalizing w j with
  | nil => exact fun entry hmem => absurd hmem List.not_mem_nil
  | cons k js ih =>
      rw [List.isChain_cons_cons] at hchain
      have hk : Reflects (work w k) k := hnext w j k hj hchain.1
      intro entry hmem
      rw [transcript, List.mem_cons] at hmem
      rcases hmem with rfl | hmem
      · exact hk
      · exact ih hk hchain.2 entry hmem

theorem transcript_reflects (hfirst : ∀ j, first j → Reflects (work start j) j)
    (hnext : ∀ w j k, Reflects w j → follows j k → Reflects (work w k) k) {js : List J}
    (hhead : ∀ j ∈ js.head?, first j) (hchain : js.IsChain follows) :
    ∀ entry ∈ transcript work start js, Reflects entry.2 entry.1 := by
  cases js with
  | nil => exact fun entry hmem => absurd hmem List.not_mem_nil
  | cons j js =>
      have hj : Reflects (work start j) j := hfirst j (hhead j rfl)
      intro entry hmem
      rw [transcript, List.mem_cons] at hmem
      rcases hmem with rfl | hmem
      · exact hj
      · exact transcript_reflects_of_follows hnext hj hchain entry hmem

theorem foldl_reflects (hfirst : ∀ j, first j → Reflects (work start j) j)
    (hnext : ∀ w j k, Reflects w j → follows j k → Reflects (work w k) k) {js : List J}
    (hhead : ∀ j ∈ js.head?, first j) (hchain : js.IsChain follows) :
    ∀ j ∈ js.getLast?, Reflects (js.foldl work start) j := by
  intro j hj
  obtain ⟨init, hinit⟩ := List.getLast?_eq_some_iff.mp hj
  have hentry : (j, js.foldl work start) ∈ transcript work start js := by
    rw [hinit, transcript_concat]
    exact List.mem_append_right _ (List.mem_singleton.mpr rfl)
  exact transcript_reflects hfirst hnext hhead hchain _ hentry

end Chain

end Transcript

namespace Phase

variable {J : Type*}

def inHand : Phase J → List J
  | .idle => []
  | .called j | .posted j | .worked j | .acked j => [j]

def done : Phase J → List J
  | .worked j | .acked j => [j]
  | _ => []

def confirmed : Phase J → List J
  | .acked j => [j]
  | _ => []

theorem done_isPrefix (p : Phase J) : p.done <+: p.inHand := by
  cases p with
  | worked j => exact List.prefix_rfl
  | acked j => exact List.prefix_rfl
  | _ => exact List.nil_prefix

theorem confirmed_isPrefix (p : Phase J) : p.confirmed <+: p.inHand := by
  cases p with
  | acked j => exact List.prefix_rfl
  | _ => exact List.nil_prefix

end Phase

namespace Handoff

variable {J W : Type*}

inductive Move (J : Type*)
  | call (j : J)
  | post
  | work
  | ack
  | ret

def step (work : W → J → W) (d : Handoff J W) : Move J → Option (Handoff J W)
  | .call j =>
      match d.phase with
      | .idle => some { d with phase := .called j, calls := d.calls ++ [j] }
      | _ => none
  | .post =>
      match d.phase with
      | .called j => some { d with phase := .posted j }
      | _ => none
  | .work =>
      match d.phase with
      | .posted j => some { d with phase := .worked j, worker := work d.worker j }
      | _ => none
  | .ack =>
      match d.phase with
      | .worked j => some { d with phase := .acked j, acks := d.acks ++ [(j, d.worker)] }
      | _ => none
  | .ret =>
      match d.phase with
      | .acked j => some { d with phase := .idle, returned := d.returned ++ [j] }
      | _ => none

def machine (work : W → J → W) (start : W) : Machine (Handoff J W) (Move J) where
  start := { worker := start }
  step := step work

variable {work : W → J → W} {start : W}

theorem step_call {d : Handoff J W} (hphase : d.phase = .idle) (j : J) :
    step work d (.call j) = some { d with phase := .called j, calls := d.calls ++ [j] } := by
  rw [step, hphase]

theorem step_post {d : Handoff J W} {j : J} (hphase : d.phase = .called j) :
    step work d .post = some { d with phase := .posted j } := by
  rw [step, hphase]

theorem step_work {d : Handoff J W} {j : J} (hphase : d.phase = .posted j) :
    step work d .work = some { d with phase := .worked j, worker := work d.worker j } := by
  rw [step, hphase]

theorem step_ack {d : Handoff J W} {j : J} (hphase : d.phase = .worked j) :
    step work d .ack =
      some { d with phase := .acked j, acks := d.acks ++ [(j, d.worker)] } := by
  rw [step, hphase]

theorem step_ret {d : Handoff J W} {j : J} (hphase : d.phase = .acked j) :
    step work d .ret = some { d with phase := .idle, returned := d.returned ++ [j] } := by
  rw [step, hphase]

theorem step_cases {d d' : Handoff J W} {m : Move J} (hstep : step work d m = some d') :
    (∃ j, d.phase = .idle ∧ d' = { d with phase := .called j, calls := d.calls ++ [j] }) ∨
    (∃ j, d.phase = .called j ∧ d' = { d with phase := .posted j }) ∨
    (∃ j, d.phase = .posted j ∧
      d' = { d with phase := .worked j, worker := work d.worker j }) ∨
    (∃ j, d.phase = .worked j ∧
      d' = { d with phase := .acked j, acks := d.acks ++ [(j, d.worker)] }) ∨
    (∃ j, d.phase = .acked j ∧
      d' = { d with phase := .idle, returned := d.returned ++ [j] }) := by
  cases m <;> cases hphase : d.phase <;> simp only [step, hphase, reduceCtorEq] at hstep <;>
    simp only [Option.some.injEq] at hstep <;> subst d' <;> simp

/-- The histories are those of a caller that does every job itself. -/
structure Sequential (work : W → J → W) (start : W) (d : Handoff J W) : Prop where
  calls : d.calls = d.returned ++ d.phase.inHand
  worker : d.worker = (d.returned ++ d.phase.done).foldl work start
  acks : d.acks = transcript work start (d.returned ++ d.phase.confirmed)

theorem sequential_step {d d' : Handoff J W} {m : Move J} (h : Sequential work start d)
    (hstep : step work d m = some d') : Sequential work start d' := by
  obtain ⟨hcalls, hworker, hacks⟩ := h
  rcases step_cases hstep with ⟨j, hphase, rfl⟩ | ⟨j, hphase, rfl⟩ | ⟨j, hphase, rfl⟩ |
    ⟨j, hphase, rfl⟩ | ⟨j, hphase, rfl⟩ <;> rw [hphase] at hcalls hworker hacks
  · refine ⟨?_, hworker, hacks⟩
    simp only [hcalls, Phase.inHand, List.append_nil]
  · exact ⟨hcalls, hworker, hacks⟩
  · refine ⟨hcalls, ?_, hacks⟩
    simp only [Phase.done, List.append_nil] at hworker
    simp only [Phase.done, List.foldl_concat, hworker]
  · refine ⟨hcalls, hworker, ?_⟩
    simp only [Phase.confirmed, List.append_nil] at hacks
    simp only [Phase.done] at hworker
    simp only [Phase.confirmed, transcript_concat, hacks, hworker]
  · refine ⟨?_, ?_, ?_⟩
    · simpa only [Phase.inHand, List.append_nil] using hcalls
    · simpa only [Phase.done, List.append_nil] using hworker
    · simpa only [Phase.confirmed, List.append_nil] using hacks

/-- A hand-off is as good as doing the jobs in order oneself. -/
theorem sequential {d : Handoff J W} (hreach : (machine work start).Reachable d) :
    Sequential work start d := by
  have hstart : Sequential work start (machine work start).start := ⟨rfl, rfl, rfl⟩
  exact hreach.invariant hstart fun _ h _ hstep => sequential_step h hstep

theorem Sequential.acks_isPrefix {d : Handoff J W} (h : Sequential work start d) :
    d.acks <+: transcript work start d.calls := by
  rw [h.acks, h.calls]
  apply transcript_isPrefix
  exact (List.prefix_append_right_inj d.returned).mpr d.phase.confirmed_isPrefix

end Handoff

end StateMachine
