import ChatPanel.Trace
import Mathlib.Data.List.Induction
import Mathlib.Tactic.Lemma

/-!
# Runs, seen from their end

`trace` lists the steps of a run from the first operation on.  What a run has done is an invariant
of its whole past, and such a law is proved from the other end: it holds before the first
operation, and one further operation keeps it.

* `lastState` — the state in which a run ends, and `outcomesOf` — what its operations returned.
* `trace_append` — a run goes on where its first part ended.
* **`getElem?_trace`** — every step of a run is the last step of a shorter one.  Hence a law of the
  ends of all runs is a law of every step.
-/

namespace ChatPanel

variable {State Op Outcome : Type} (perform : State → Op → Outcome × State)

/-- The state in which a run ends. -/
def lastState (state : State) (ops : List Op) : State :=
  ops.foldl (fun state op => (perform state op).2) state

/-- What the operations of a run returned, one after the other. -/
def outcomesOf (state : State) (ops : List Op) : List Outcome :=
  (trace perform state ops).map Prod.fst

lemma lastState_append (state : State) (xs ys : List Op) :
    lastState perform state (xs ++ ys) = lastState perform (lastState perform state xs) ys := by
  simp only [lastState, List.foldl_append]

/-- A run goes on where its first part ended. -/
lemma trace_append (state : State) (xs ys : List Op) :
    trace perform state (xs ++ ys)
      = trace perform state xs ++ trace perform (lastState perform state xs) ys := by
  induction xs generalizing state with
  | nil => rfl
  | cons op xs ih =>
      simp only [List.cons_append, trace, lastState, List.foldl_cons]
      rw [ih]
      rfl

lemma outcomesOf_append (state : State) (xs ys : List Op) :
    outcomesOf perform state (xs ++ ys)
      = outcomesOf perform state xs ++ outcomesOf perform (lastState perform state xs) ys := by
  simp only [outcomesOf, trace_append, List.map_append]

/-- The first steps of a run are the run of its first operations. -/
lemma take_trace (state : State) (ops : List Op) (n : ℕ) :
    (trace perform state ops).take n = trace perform state (ops.take n) := by
  induction ops generalizing state n with
  | nil => simp only [trace, List.take_nil]
  | cons op ops ih =>
      cases n with
      | zero => rfl
      | succ n => simp only [trace, List.take_succ_cons, ih]

/-- **Every step of a run is the last step of a shorter one.** -/
lemma getElem?_trace (state : State) (ops : List Op) (i : ℕ) :
    (trace perform state ops)[i]?
      = ops[i]?.map (perform (lastState perform state (ops.take i))) := by
  induction ops generalizing state i with
  | nil => rfl
  | cons op ops ih =>
      cases i with
      | zero => rfl
      | succ i => exact ih (perform state op).2 i

lemma lastState_take_succ {state : State} {ops : List Op} {i : ℕ} {op : Op}
    (h : ops[i]? = some op) :
    lastState perform state (ops.take (i + 1))
      = (perform (lastState perform state (ops.take i)) op).2 := by
  rw [List.take_add_one, h, lastState_append]
  rfl

/-- The state that a step leaves is the one in which the run up to it ends. -/
lemma eq_lastState_of_getElem?_trace {state after : State} {ops : List Op} {i : ℕ}
    {outcome : Outcome} (h : (trace perform state ops)[i]? = some (outcome, after)) :
    after = lastState perform state (ops.take (i + 1)) := by
  rw [getElem?_trace] at h
  obtain ⟨op, hop, hstep⟩ := Option.map_eq_some_iff.mp h
  rw [lastState_take_succ perform hop, hstep]

end ChatPanel
