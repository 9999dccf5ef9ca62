import ChatPanel.Conversation

/-!
# The courier: from the outbox to the service and back

A courier holds a conversation and the address of the service.  It sends each message that the
outbox hands out, concludes the exchange with its result, and goes on with the message that is
handed out next, until none is.

**It always ends.**  Every further message comes from the outbox, which gets no new ones meanwhile,
so each delivery leaves fewer that wait.
-/

namespace ChatPanel

/-- A conversation and the address to which its messages go. -/
structure Courier where
  endpoint : String
  conversation : Conversation
  deriving DecidableEq, Repr

namespace Courier

/-- A courier before the first message. -/
def start (endpoint : String) : Courier := ⟨endpoint, .empty⟩

theorem length_waiting_conclude_lt {c after : Conversation} {result : Except Failure Reply}
    {text : String} (h : c.conclude result = (some text, after)) :
    after.outbox.waiting.length < c.outbox.waiting.length := by
  have hout : after.outbox.waiting.length + 1 = c.outbox.waiting.length := by
    cases result with
    | ok reply =>
      simp only [Conversation.conclude, Conversation.outbox_receive, Outbox.conclude] at h
      split at h
      · cases h
      · next hw => cases h; simp [hw]
    | error failure =>
      simp only [Conversation.conclude, Outbox.conclude] at h
      split at h
      · cases h
      · next hw => cases h; simp [hw]
  omega

theorem waiting_markSent (c : Conversation) : c.markSent.outbox.waiting = c.outbox.waiting := by
  simp only [Conversation.markSent, Outbox.markSent]
  split <;> rfl

/-- Delivers a message that was handed out, and every one that is handed out after it.  Returns the
messages in the order in which they were sent. -/
def deliver (courier : Courier) (text : String) : List String × Courier :=
  match _h : courier.conversation.markSent.conclude (send courier.endpoint ⟨text⟩) with
  | (none, after) => ([text], { courier with conversation := after })
  | (some next, after) =>
    let (sent, last) := deliver { courier with conversation := after } next
    (text :: sent, last)
termination_by courier.conversation.outbox.waiting.length
decreasing_by
  have hlt := length_waiting_conclude_lt _h
  rw [waiting_markSent] at hlt
  exact hlt

/-- Takes a text from the visitor and delivers it if it was handed out.  Returns whether the text
was accepted. -/
def submit (courier : Courier) (raw : String) : Bool × Courier :=
  let (verdict, after) := courier.conversation.submit raw
  let courier := { courier with conversation := after }
  match verdict with
  | .refused => (false, courier)
  | .send text => (true, (courier.deliver text).2)
  | .wait _ => (true, courier)

/-! ## Runs -/

/-- An operation on a courier: a text from the visitor, or an operation on its conversation behind
its back. -/
inductive Op where
  | submit (raw : String)
  | direct (op : Conversation.Op)

/-- What an operation returns. -/
inductive Outcome where
  | accepted (accepted : Bool)
  | direct (outcome : Conversation.Outcome)
  deriving DecidableEq, Repr

/-- Performs one operation. -/
def perform (courier : Courier) : Op → Outcome × Courier
  | .submit raw => let (accepted, after) := courier.submit raw; (.accepted accepted, after)
  | .direct op =>
    let (outcome, after) := courier.conversation.perform op
    (.direct outcome, { courier with conversation := after })

/-- The steps of a run from the start. -/
def run (endpoint : String) (ops : List Op) : List (Outcome × Courier) :=
  trace perform (start endpoint) ops

end Courier

end ChatPanel
