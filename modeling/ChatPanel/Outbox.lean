import ChatPanel.Text.Blank
import ChatPanel.Trace

/-!
# The outbox: one message on its way at a time

Messages are sent one after the other.  While one is on its way, the next ones wait in the order in
which they were submitted; when its exchange is over, well or badly, the first of them is handed
out.

* `Outbox.submit` — takes a text from the visitor.  A blank text is refused; any other is trimmed,
  and is handed out at once if nothing is on its way.
* `Outbox.markSent` — the message handed out last is on the wire.
* `Outbox.conclude` — the exchange is over.  What it returns has been handed out, and its sending is
  up to the caller.
-/

namespace ChatPanel

/-- Where the message that was handed out last has got to. -/
inductive Outbox.Phase where
  /-- No message is on its way. -/
  | idle
  /-- A message has been handed out and is about to be sent. -/
  | handedOut
  /-- The message has been sent and its reply is awaited. -/
  | sent
  deriving DecidableEq, Repr

/-- The message on its way and the messages that wait, the first of them in front. -/
structure Outbox where
  phase : Outbox.Phase
  waiting : List String
  deriving DecidableEq, Repr

namespace Outbox

/-- What becomes of a submitted text. -/
inductive Verdict where
  /-- The text is blank. -/
  | refused
  /-- The text is handed out, to be sent now. -/
  | send (text : String)
  /-- The text waits for its turn. -/
  | wait (text : String)
  deriving DecidableEq, Repr

/-- The trimmed text, if it was accepted. -/
def Verdict.accepted : Verdict → Option String
  | .refused => none
  | .send text => some text
  | .wait text => some text

/-- Nothing on its way and nothing waiting. -/
def empty : Outbox := ⟨.idle, []⟩

/-- Takes a text from the visitor. -/
def submit (outbox : Outbox) (raw : String) : Verdict × Outbox :=
  let text := Text.trim raw
  if text = "" then (.refused, outbox)
  else if outbox.phase = .idle then (.send text, { outbox with phase := .handedOut })
  else (.wait text, { outbox with waiting := outbox.waiting ++ [text] })

/-- The message handed out last is on the wire.  Without such a message nothing changes. -/
def markSent (outbox : Outbox) : Outbox :=
  if outbox.phase = .handedOut then { outbox with phase := .sent } else outbox

/-- The exchange is over: hands out the first message that waits, if there is one. -/
def conclude (outbox : Outbox) : Option String × Outbox :=
  match outbox.waiting with
  | [] => (none, ⟨.idle, []⟩)
  | next :: rest => (some next, ⟨.handedOut, rest⟩)

/-! ## Runs -/

/-- An operation on an outbox. -/
inductive Op where
  | submit (raw : String)
  | markSent
  | conclude
  deriving DecidableEq, Repr

/-- What an operation returns. -/
inductive Outcome where
  | verdict (verdict : Verdict)
  | done
  | next (text : Option String)
  deriving DecidableEq, Repr

/-- Performs one operation. -/
def perform (outbox : Outbox) : Op → Outcome × Outbox
  | .submit raw => let (verdict, after) := outbox.submit raw; (.verdict verdict, after)
  | .markSent => (.done, outbox.markSent)
  | .conclude => let (next, after) := outbox.conclude; (.next next, after)

/-- The steps of a run on an empty outbox. -/
def run (ops : List Op) : List (Outcome × Outbox) :=
  trace perform empty ops

end Outbox

end ChatPanel
