/-!
# Runs of a stateful object

An object that answers operations is described by what one operation does: the outcome it gives and
the state it leaves.  A run performs a list of operations one after the other.
-/

namespace ChatPanel

/-- The outcome of each operation of a run, with the state after it. -/
def trace {State Op Outcome : Type} (perform : State → Op → Outcome × State) :
    State → List Op → List (Outcome × State)
  | _, [] => []
  | state, op :: ops =>
    let step := perform state op
    step :: trace perform step.2 ops

end ChatPanel
